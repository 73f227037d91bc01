import ArkKvm.Network.Settings

/-!
# Migration at boot

`network/legacy_migrate.rs`: a missing, provisional or example `network.conf` is written
from the encrypted configuration, and `static_ip.conf` of older firmware is merged into it
and put away. The outcomes of the file operations and of the refresh are inputs of a boot.
-/

namespace ArkKvm

open Lib.Action (ensure modify)
open NetworkConf

structure LegacyStore extends NetworkStore where
  staticIp : Option String

namespace Migrate

/-! ## The legacy file -/

/-- `to_lowercase` as far as the keys of the file need it: beyond ASCII, only the Kelvin
sign has one of their letters as its lower case. -/
def lowercase (c : Char) : Char := if c.toNat = 0x212A then 'k' else c.toLower

/-- `trim_matches` for one character. -/
def trimMatches (quote : Char) (s : List Char) : List Char :=
  (s.dropWhile (· = quote)).rdropWhile (· = quote)

structure StaticIpReading where
  ip : Option String := none
  netmask : Option String := none
  gateway : Option String := none
  dnsServers : List String := []

def StaticIpReading.line (r : StaticIpReading) (text : List Char) : StaticIpReading :=
  let line := Lib.Text.trim text
  if line = [] ∨ line.head? = some '#' then r
  else match Lib.Text.splitOnce '=' line with
    | none => r
    | some (key, value) =>
        let key := String.ofList ((Lib.Text.trim key).map lowercase)
        let value :=
          String.ofList (trimMatches '\'' (trimMatches '"' (Lib.Text.trim value)))
        if key = "ip" then { r with ip := some value }
        else if key = "netmask" then { r with netmask := some value }
        else if key = "gateway" then { r with gateway := some value }
        else if key = "dns" then { r with dnsServers := words value }
        else r

def parseStaticIpConf (content : String) : Option StaticIpConfig :=
  let r := (Lib.Text.lines content.toList).foldl StaticIpReading.line {}
  r.ip.map fun ip => {
    ipAddress := ip
    subnetMask := r.netmask.getD "255.255.255.0"
    gateway := r.gateway.getD ""
    dnsServers := r.dnsServers }

example : parseStaticIpConf "IP = \"192.168.1.10\"\nnetmask=255.255.255.0\ndns=8.8.8.8\n" =
    some ⟨"192.168.1.10", "255.255.255.0", "", ["8.8.8.8"]⟩ := by decide +kernel

/-! ## The migration -/

def contains (text : String) (pattern : String) : Bool := pattern.toList <:+: text.toList

def provisionalMarker : String := "provisional-template"

def isProvisionalOrDefaultTemplate (content : String) : Bool :=
  contains content provisionalMarker ||
    (((Lib.Text.lines content.toList).any fun l =>
        Lib.Text.trim l = "mode=dhcp".toList || "mode=dhcp ".toList <+: Lib.Text.trim l) &&
      !(contains content "Migrated from" || contains content "managed by arkkvm_app"))

/-- The outcomes of the steps of a boot. -/
structure BootIo where
  isUrl : String → Bool
  /-- `static_ip.conf` could be read -/
  staticRead : Bool
  written : Bool
  refreshed : Bool
  /-- `static_ip.conf` could be put away -/
  archived : Bool
  /-- leftovers of a VLAN change were cleared -/
  cleared : Bool
  saved : Bool

inductive MigrateError
  | write
  | refresh
  | archive

def legacyConfig (io : BootIo) (s : LegacyStore) : Option StaticIpConfig :=
  if io.staticRead then s.staticIp.bind parseStaticIpConf else none

/-- `network.conf` is missing, or it is to be replaced. -/
def needsConf (s : LegacyStore) : Bool := s.conf.all isProvisionalOrDefaultTemplate

/-- The configuration that the migration writes, if it writes one. -/
def migrated (io : BootIo) (s : LegacyStore) : Option NetworkConfig :=
  let enc := s.manager.config.networkConfig
  if s.conf.isSome ∧ ¬ needsConf s ∧ s.staticIp = none then none
  else
    let config := match s.conf with
      | some content => if needsConf s then enc else iniToNetworkConfig content
      | none => enc
    match legacyConfig io s with
    | some static => some { config with ipv4Mode := .static, staticIpv4 := some static }
    | none => if needsConf s then some config else none

def maybeMigrateLegacyNetworkConfig (io : BootIo) : Lib.Action MigrateError LegacyStore Unit := do
  let s ← Lib.Action.read
  match migrated io s with
  | none => pure ()
  | some config =>
      ensure (io.written = true) .write
      modify fun s => { s with conf := some (networkConfigToIni config "committed") }
      ensure (io.refreshed = true) .refresh
      if (legacyConfig io s).isSome then
        ensure (io.archived = true) .archive
        modify fun s => { s with staticIp := none }
      else pure ()

def restarted (s : LegacyStore) : LegacyStore :=
  { s with
    manager := { s.manager with config := s.manager.file }
    proxyEnv := none }

/-- `sync_encrypted_vlan_from_conf_if_needed`. -/
def syncVlan (io : BootIo) (s : LegacyStore) : LegacyStore :=
  let enc := s.manager.config.networkConfig
  let synced := Vlan.syncEncryptedVlanFromConfIfNeeded enc s.conf
  if synced = enc then s
  else
    let update := ConfigManager.update io.saved (fun c => { c with networkConfig := synced })
    { s with manager := (update s.manager).1 }

/-- `apply_non_l3_settings` at boot. -/
def applyProxy (io : BootIo) (config : NetworkConfig) (s : LegacyStore) : LegacyStore :=
  { s with proxyEnv := config.httpProxy.filter io.isUrl }

/-- A boot: `init_network_settings` in a new process, with the result of the migration. -/
def boot (io : BootIo) (s : LegacyStore) : LegacyStore × Except MigrateError Unit :=
  let (s, result) := maybeMigrateLegacyNetworkConfig io (restarted s)
  let config := NetworkSettings.getNetworkSettings s.toNetworkStore
  let s := if io.cleared then syncVlan io s else s
  (applyProxy io config s, result)

end Migrate

end ArkKvm
