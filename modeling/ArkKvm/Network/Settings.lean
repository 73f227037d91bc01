import ArkKvm.Config.Manager
import ArkKvm.Lib.Action
import ArkKvm.Network.Vlan

/-!
# Network settings

`network/settings.rs`: the settings live in the encrypted configuration and in
`network.conf`. Reading merges the two, and a change writes them one after the other. The
outcomes of the file operations and of the network scripts are inputs of a call. mDNS, the
TLS configuration and the cloud connection follow the settings without a result and are
left out.
-/

namespace ArkKvm

open Lib.Action (modify fail ensure ofExcept)
open NetworkConf

structure NetworkStore where
  manager : ConfigManager
  /-- `network.conf` -/
  conf : Option String
  /-- `http_proxy` and `https_proxy` of the process -/
  proxyEnv : Option String := none

inductive SettingsError
  | rejected (message : String)
  | write
  | refresh
  | hostname
  | config (e : ConfigError)

/-- The outcomes of the steps of a call, and what a URL is. -/
structure SettingsIo where
  isUrl : String → Bool
  /-- `network.conf` could be replaced -/
  written : Bool
  /-- `refresh-network.sh` succeeded -/
  refreshed : Bool
  /-- `/etc/hostname` and `/etc/hosts` could be written -/
  hostnameApplied : Bool
  /-- the encrypted configuration could be saved -/
  saved : Bool

namespace NetworkSettings

/-! ## Validation -/

def validateFlatIpv4 (config : NetworkConfig) : Except String Unit :=
  if config.ipv4Mode ≠ .static then .ok ()
  else match config.staticIpv4 with
    | none => .error "Static IPv4 mode missing static IP configuration"
    | some s =>
        if ¬ checkValidIpv4 s.ipAddress then .error ("Invalid IPv4 address: " ++ s.ipAddress)
        else if ¬ checkValidIpv4 s.subnetMask then
          .error ("Invalid subnet mask: " ++ s.subnetMask)
        else if ¬ checkValidIpv4 s.gateway then .error ("Invalid gateway: " ++ s.gateway)
        else match s.dnsServers.find? fun dns => ! checkValidIpv4 dns with
          | some dns => .error ("Invalid DNS server: " ++ dns)
          | none => .ok ()

def validateFlatIpv6 (config : NetworkConfig) : Except String Unit :=
  if config.ipv6Mode ≠ .static then .ok ()
  else match config.staticIpv6 with
    | none => .error "Static IPv6 mode missing static IP configuration"
    | some s =>
        if ¬ checkValidIpv6 s.ipAddress then .error ("Invalid IPv6 address: " ++ s.ipAddress)
        else match s.dnsServers.find? fun dns => ! checkValidIpv6 dns with
          | some dns => .error ("Invalid DNS server: " ++ dns)
          | none => .ok ()

theorem static_of_validateFlatIpv4 {c : NetworkConfig} (hmode : c.ipv4Mode = .static)
    (h : validateFlatIpv4 c = .ok ()) :
    ∃ s, c.staticIpv4 = some s ∧ checkValidIpv4 s.ipAddress = true ∧
      checkValidIpv4 s.subnetMask = true ∧ checkValidIpv4 s.gateway = true ∧
      ∀ dns ∈ s.dnsServers, checkValidIpv4 dns = true := by
  unfold validateFlatIpv4 at h
  rw [if_neg (not_not.mpr hmode)] at h
  cases hs : c.staticIpv4 with
  | none =>
      rw [hs] at h
      cases h
  | some s =>
      rw [hs] at h
      dsimp only at h
      split at h
      · cases h
      · next hip =>
          split at h
          · cases h
          · next hmask =>
              split at h
              · cases h
              · next hgateway =>
                  split at h
                  · cases h
                  · next hfind =>
                      have hdns := List.find?_eq_none.mp hfind
                      exact ⟨s, rfl, not_not.mp hip, not_not.mp hmask, not_not.mp hgateway,
                        fun dns hmem => by simpa using hdns dns hmem⟩

theorem static_of_validateFlatIpv6 {c : NetworkConfig} (hmode : c.ipv6Mode = .static)
    (h : validateFlatIpv6 c = .ok ()) :
    ∃ s, c.staticIpv6 = some s ∧ checkValidIpv6 s.ipAddress = true ∧
      ∀ dns ∈ s.dnsServers, checkValidIpv6 dns = true := by
  unfold validateFlatIpv6 at h
  rw [if_neg (not_not.mpr hmode)] at h
  cases hs : c.staticIpv6 with
  | none =>
      rw [hs] at h
      cases h
  | some s =>
      rw [hs] at h
      dsimp only at h
      split at h
      · cases h
      · next hip =>
          split at h
          · cases h
          · next hfind =>
              have hdns := List.find?_eq_none.mp hfind
              exact ⟨s, rfl, not_not.mp hip, fun dns hmem => by simpa using hdns dns hmem⟩

/-! ## Reading -/

def getNetworkSettings (s : NetworkStore) : NetworkConfig :=
  match s.conf with
  | some content => mergeL3FromFile s.manager.config.networkConfig (iniToNetworkConfig content)
  | none => s.manager.config.networkConfig

/-! ## Writing -/

abbrev Call := Lib.Action SettingsError NetworkStore Unit

def updateProxy (io : SettingsIo) (proxy : Option String) : Call :=
  match proxy with
  | none => modify fun s => { s with proxyEnv := none }
  | some proxy =>
      if io.isUrl proxy then modify fun s => { s with proxyEnv := some proxy }
      else do
        modify fun s => { s with proxyEnv := none }
        fail (.rejected ("Invalid proxy URL: " ++ proxy))

def applyNonL3Settings (io : SettingsIo) (oldConfig : Option NetworkConfig)
    (newConfig : NetworkConfig) : Call :=
  if oldConfig.all fun old => old.httpProxy ≠ newConfig.httpProxy then
    updateProxy io newConfig.httpProxy
  else pure ()

def writeNetworkConf (io : SettingsIo) (config : NetworkConfig) : Call := do
  ensure (io.written = true) .write
  modify fun s => { s with conf := some (networkConfigToIni config "committed") }

def applyFlatNetwork (io : SettingsIo) (config : NetworkConfig) : Call := do
  ofExcept ((validateFlatIpv4 config).mapError .rejected)
  ofExcept ((validateFlatIpv6 config).mapError .rejected)
  writeNetworkConf io config
  ensure (io.refreshed = true) .refresh

/-- What `apply_hostname_domain_only` writes: the file with the new names, or the whole
configuration when there is no file. -/
def withNames (conf : Option String) (config : NetworkConfig) : NetworkConfig :=
  let base := match conf with
    | some content => iniToNetworkConfig content
    | none => config
  { base with hostname := config.hostname, domain := config.domain }

def applyHostnameDomainOnly (io : SettingsIo) (config : NetworkConfig) : Call := do
  let s ← Lib.Action.read
  writeNetworkConf io (withNames s.conf config)
  ensure (io.hostnameApplied = true) .hostname

/-- `has_changed!` on the flat settings. -/
def l3Changed (oldConfig : Option NetworkConfig) (newConfig : NetworkConfig) : Bool :=
  oldConfig.all fun old =>
    old.hostname ≠ newConfig.hostname || old.domain ≠ newConfig.domain ||
      old.ipv4Mode ≠ newConfig.ipv4Mode || old.staticIpv4 ≠ newConfig.staticIpv4 ||
      old.ipv6Mode ≠ newConfig.ipv6Mode || old.staticIpv6 ≠ newConfig.staticIpv6

/-- `has_changed!` on the hostname and the domain. -/
def namesChanged (oldConfig : Option NetworkConfig) (newConfig : NetworkConfig) : Bool :=
  oldConfig.all fun old => old.hostname ≠ newConfig.hostname || old.domain ≠ newConfig.domain

def onConfigChanged (io : SettingsIo) (oldConfig : Option NetworkConfig)
    (newConfig : NetworkConfig) : Call := do
  applyNonL3Settings io oldConfig newConfig
  if newConfig.vlanSettings.vlanEnabled then
    if namesChanged oldConfig newConfig then applyHostnameDomainOnly io newConfig
    else pure ()
  else if l3Changed oldConfig newConfig then applyFlatNetwork io newConfig
  else pure ()

/-- `ConfigManager::update` on the network configuration. -/
def saveNetworkConfig (io : SettingsIo) (settings : NetworkConfig) : Call := fun s =>
  let r := ConfigManager.update io.saved (fun c => { c with networkConfig := settings }) s.manager
  ({ s with manager := r.1 }, r.2.mapError .config)

/-- The settings that a call asks for: an empty proxy is none, and settings without a VLAN
keep the VLAN there is. -/
def requested (settings oldConfig : NetworkConfig) : NetworkConfig :=
  { settings with
    httpProxy := settings.httpProxy.filter (· ≠ "")
    vlanSettings :=
      if settings.vlanSettings = {} ∧ oldConfig.vlanSettings ≠ {} then oldConfig.vlanSettings
      else settings.vlanSettings }

def setNetworkSettings (io : SettingsIo) (settings : NetworkConfig) : Call := do
  let s ← Lib.Action.read
  let oldConfig := s.manager.config.networkConfig
  let new := requested settings oldConfig
  if oldConfig ≠ new then
    onConfigChanged io (some oldConfig) new
    saveNetworkConfig io new
  else pure ()

end NetworkSettings

end ArkKvm
