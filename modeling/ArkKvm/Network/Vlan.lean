import ArkKvm.Network.Address
import ArkKvm.Network.RoundTrip

/-!
# VLAN settings

What `network/vlan.rs` accepts, and what becomes of accepted settings in
`network.conf`.
-/

namespace ArkKvm

open Lib.Ini (Plain)

namespace Vlan

open NetworkConf

/-! ## Validation -/

def validateStaticIpv4 (staticIpv4 : Option StaticIpConfig) (label : String) :
    Except String Unit :=
  match staticIpv4 with
  | none => .error ("Missing " ++ label ++ " static IP settings")
  | some s =>
      if ¬ checkValidIpv4 s.ipAddress then .error ("Invalid " ++ label ++ " IP address")
      else if ¬ checkValidIpv4 s.subnetMask then .error ("Invalid " ++ label ++ " subnet mask")
      else if ¬ checkValidIpv4 s.gateway then .error ("Invalid " ++ label ++ " gateway")
      else if ¬ s.dnsServers.all checkValidIpv4 then .error ("Invalid " ++ label ++ " DNS server")
      else .ok ()

def validateVlanEndpoint (endpoint : VlanEndpointConfig) (label : String) : Except String Unit :=
  if endpoint.vlanId = 0 ∨ 4094 < endpoint.vlanId then
    .error ("Invalid " ++ label ++ " VLAN ID (1-4094)")
  else match endpoint.ipv4Mode with
    | .static => validateStaticIpv4 endpoint.staticIpv4 label
    | .dhcp => .ok ()

def validateVlanSettings (settings : VlanSettings) : Except String Unit := do
  if ¬ settings.vlanEnabled then .ok ()
  else match settings.primaryVlan with
    | none => .error "Primary VLAN is required"
    | some primary =>
        validateVlanEndpoint primary "primary"
        match settings.secondaryVlan with
        | none => .ok ()
        | some secondary =>
            validateVlanEndpoint secondary "secondary"
            if secondary.vlanId = primary.vlanId then
              .error "Primary and secondary VLAN IDs must differ"
            else .ok ()

/-! ## The file -/

def promotePendingToCommitted (pending : String) : String :=
  networkConfigToIni (iniToNetworkConfig pending) "committed"

/-- `sync_encrypted_vlan_from_conf_if_needed` on the encrypted configuration; a file that
cannot be read changes nothing. -/
def syncEncryptedVlanFromConfIfNeeded (enc : NetworkConfig) (file : Option String) :
    NetworkConfig :=
  match file with
  | none => enc
  | some content =>
      let fromFile := iniToNetworkConfig content
      if fromFile.vlanSettings = enc.vlanSettings then enc
      else mergeL3FromFile { enc with vlanSettings := fromFile.vlanSettings } fromFile

theorem promote_vlanSettings (pending : String) :
    (iniToNetworkConfig (promotePendingToCommitted pending)).vlanSettings =
      (iniToNetworkConfig pending).vlanSettings := by
  unfold promotePendingToCommitted
  rw [iniToNetworkConfig_networkConfigToIni (by decide) (plain_of_mem_texts_parsed pending)]
  exact inFile_vlanSettings pending

theorem sync_vlanSettings (enc : NetworkConfig) (content : String) :
    (syncEncryptedVlanFromConfIfNeeded enc (some content)).vlanSettings =
      (iniToNetworkConfig content).vlanSettings := by
  unfold syncEncryptedVlanFromConfIfNeeded
  dsimp only
  split
  · next hsame => exact hsame.symm
  · rfl

/-- The settings without the static IPv6 configurations of the endpoints. -/
def withoutStaticIpv6 (v : VlanSettings) : VlanSettings where
  vlanEnabled := v.vlanEnabled
  primaryVlan := v.primaryVlan.map ({ · with staticIpv6 := none })
  secondaryVlan := v.secondaryVlan.map ({ · with staticIpv6 := none })

def endpoints (v : VlanSettings) : List VlanEndpointConfig :=
  v.primaryVlan.toList ++ v.secondaryVlan.toList

/-- What an endpoint needs to be kept: a mode for IPv6, and a static configuration in
static mode only. -/
def KeptInFile (ep : VlanEndpointConfig) : Prop :=
  ep.ipv6Mode ≠ none ∧ (ep.ipv4Mode = .dhcp → ep.staticIpv4 = none)

theorem inFile_of_validateStaticIpv4 {s : StaticIpConfig} {label : String}
    (h : validateStaticIpv4 (some s) label = .ok ()) : s.inFile = s := by
  unfold validateStaticIpv4 at h
  dsimp only at h
  split at h
  · cases h
  · split at h
    · cases h
    · next hmask =>
        split at h
        · cases h
        · split at h
          · cases h
          · next hdns =>
              have hne := (solid_of_checkValidIpv4 (not_not.mp hmask)).1
              have hservers : s.dnsServers.flatMap words = s.dnsServers :=
                flatMap_words_of_solid fun t ht =>
                  solid_of_checkValidIpv4 (List.all_eq_true.mp (not_not.mp hdns) t ht)
              unfold StaticIpConfig.inFile
              rw [if_neg hne, hservers]

theorem inFile_of_validateVlanEndpoint {ep : VlanEndpointConfig} {label : String}
    (h : validateVlanEndpoint ep label = .ok ()) :
    ep.inFile = some { ep with
      ipv6Mode := some (ep.ipv6Mode.getD .slaac)
      staticIpv4 := if ep.ipv4Mode = .static then ep.staticIpv4 else none
      staticIpv6 := none } := by
  unfold validateVlanEndpoint at h
  split at h
  · cases h
  · next hid =>
      have hrange : ¬ (ep.vlanId = 0 ∨ 2 ^ 16 ≤ ep.vlanId) := by omega
      unfold VlanEndpointConfig.inFile
      rw [if_neg hrange]
      cases hmode : ep.ipv4Mode with
      | dhcp => rfl
      | static =>
          rw [hmode] at h
          cases hs : ep.staticIpv4 with
          | none =>
              rw [hs] at h
              cases h
          | some s =>
              rw [hs] at h
              have hkept := inFile_of_validateStaticIpv4 h
              simp [hkept]

theorem kept_iff_of_validateVlanEndpoint {ep : VlanEndpointConfig} {label : String}
    (h : validateVlanEndpoint ep label = .ok ()) :
    ep.inFile.map ({ · with staticIpv6 := none }) = some { ep with staticIpv6 := none } ↔
      KeptInFile ep := by
  rw [inFile_of_validateVlanEndpoint h, Option.map_some, Option.some.injEq,
    VlanEndpointConfig.mk.injEq]
  unfold KeptInFile
  cases ep.ipv6Mode with
  | none => simp
  | some m =>
      cases ep.ipv4Mode with
      | dhcp => simp [eq_comm]
      | static => simp

theorem validateVlanSettings_ok {v : VlanSettings} (hon : v.vlanEnabled = true)
    (h : validateVlanSettings v = .ok ()) :
    ∀ ep ∈ endpoints v, ∃ label, validateVlanEndpoint ep label = .ok () := by
  unfold validateVlanSettings at h
  rw [if_neg (by simp [hon])] at h
  unfold endpoints
  cases hprimary : v.primaryVlan with
  | none =>
      rw [hprimary] at h
      cases h
  | some primary =>
      rw [hprimary] at h
      cases hp : validateVlanEndpoint primary "primary" with
      | error e =>
          simp only [hp] at h
          cases h
      | ok u =>
          cases hsecondary : v.secondaryVlan with
          | none => simpa using ⟨_, hp⟩
          | some secondary =>
              cases hs : validateVlanEndpoint secondary "secondary" with
              | error e =>
                  simp only [hp, hsecondary, hs] at h
                  cases h
              | ok u' => simpa using ⟨⟨_, hp⟩, ⟨_, hs⟩⟩

/-- Enabled settings that were accepted are kept, but for the static IPv6 configurations,
exactly when their modes allow it. -/
theorem kept_iff {v : VlanSettings} (hon : v.vlanEnabled = true)
    (h : validateVlanSettings v = .ok ()) :
    withoutStaticIpv6 v.inFile = withoutStaticIpv6 v ↔ ∀ ep ∈ endpoints v, KeptInFile ep := by
  have hvalid := validateVlanSettings_ok hon h
  have hendpoint : ∀ o : Option VlanEndpointConfig,
      (∀ ep ∈ o.toList, ∃ label, validateVlanEndpoint ep label = .ok ()) →
      ((o.bind (·.inFile)).map ({ · with staticIpv6 := none }) =
        o.map ({ · with staticIpv6 := none }) ↔ ∀ ep ∈ o.toList, KeptInFile ep) := by
    intro o ho
    cases o with
    | none => simp
    | some ep =>
        obtain ⟨label, hep⟩ := ho ep (by simp)
        rw [Option.bind_some, Option.map_some, kept_iff_of_validateVlanEndpoint hep]
        simp
  unfold endpoints at hvalid ⊢
  rw [List.forall_mem_append] at hvalid ⊢
  rw [← hendpoint _ hvalid.1, ← hendpoint _ hvalid.2]
  unfold withoutStaticIpv6 VlanSettings.inFile
  simp

def NoStaticIpv6 (v : VlanSettings) : Prop := ∀ ep ∈ endpoints v, ep.staticIpv6 = none

theorem withoutStaticIpv6_of_none {v : VlanSettings} (h : NoStaticIpv6 v) :
    withoutStaticIpv6 v = v := by
  have hendpoint : ∀ o : Option VlanEndpointConfig, (∀ ep ∈ o.toList, ep.staticIpv6 = none) →
      o.map ({ · with staticIpv6 := none }) = o := by
    intro o ho
    cases o with
    | none => rfl
    | some ep => rw [Option.map_some, ← ho ep (by simp)]
  unfold NoStaticIpv6 endpoints at h
  rw [List.forall_mem_append] at h
  unfold withoutStaticIpv6
  rw [hendpoint _ h.1, hendpoint _ h.2]

theorem noStaticIpv6_inFile (v : VlanSettings) : NoStaticIpv6 v.inFile := by
  have hendpoint : ∀ o : Option VlanEndpointConfig,
      ∀ ep ∈ (o.bind (·.inFile)).toList, ep.staticIpv6 = none := by
    intro o ep hep
    cases o with
    | none => cases hep
    | some ep' =>
        rw [Option.bind_some, VlanEndpointConfig.inFile] at hep
        split at hep
        · cases hep
        · cases List.mem_singleton.mp hep
          rfl
  unfold NoStaticIpv6 endpoints
  rw [List.forall_mem_append]
  exact ⟨hendpoint v.primaryVlan, hendpoint v.secondaryVlan⟩

/-- Accepted VLAN settings in the file: they come back in the form of the file, an
enabled VLAN unchanged exactly when each endpoint has a mode for IPv6 and no static IPv4
configuration beside DHCP; nothing more is lost by a promotion or a synchronisation.
Static IPv6 configurations are left aside; without any, the settings come back as a whole. -/
theorem vlan_settings_survive {c : NetworkConfig} {mode : String} (hmode : '\n' ∉ mode.toList)
    (hvalid : validateVlanSettings c.vlanSettings = .ok ()) (hplain : ∀ s ∈ texts c, Plain s) :
    let content := networkConfigToIni c mode
    let back := (iniToNetworkConfig content).vlanSettings
    withoutStaticIpv6 back = withoutStaticIpv6 c.vlanSettings.inFile ∧
      (c.vlanSettings.vlanEnabled = true →
        (withoutStaticIpv6 back = withoutStaticIpv6 c.vlanSettings ↔
          ∀ ep ∈ endpoints c.vlanSettings, KeptInFile ep)) ∧
      (NoStaticIpv6 c.vlanSettings → back = c.vlanSettings.inFile ∧
        (c.vlanSettings.vlanEnabled = true →
          (back = c.vlanSettings ↔ ∀ ep ∈ endpoints c.vlanSettings, KeptInFile ep))) ∧
      (iniToNetworkConfig (promotePendingToCommitted content)).vlanSettings = back ∧
      ∀ enc, (syncEncryptedVlanFromConfIfNeeded enc (some content)).vlanSettings = back := by
  have hback : (iniToNetworkConfig (networkConfigToIni c mode)).vlanSettings =
      c.vlanSettings.inFile := by
    rw [iniToNetworkConfig_networkConfigToIni hmode hplain]
    rfl
  dsimp only
  rw [promote_vlanSettings, hback]
  refine ⟨rfl, fun hon => kept_iff hon hvalid, fun hnone => ⟨rfl, fun hon => ?_⟩, rfl, fun enc =>
    (sync_vlanSettings enc _).trans hback⟩
  rw [← kept_iff hon hvalid, withoutStaticIpv6_of_none hnone,
    withoutStaticIpv6_of_none (noStaticIpv6_inFile _)]

/-- A VLAN with a static address, and a second one with DHCP. -/
private def twoVlans : NetworkConfig where
  vlanSettings := {
    vlanEnabled := true
    primaryVlan := some ⟨10, .static, some .slaac,
      some ⟨"192.168.10.2", "255.255.255.0", "192.168.10.1", ["8.8.8.8", "1.1.1.1"]⟩, none⟩
    secondaryVlan := some ⟨20, .dhcp, some .static, none, none⟩ }

/-- Both come back. -/
theorem vlan_settings_survive_two :
    (iniToNetworkConfig (networkConfigToIni twoVlans "committed")).vlanSettings =
      twoVlans.vlanSettings := by
  have hsurvive := @vlan_settings_survive twoVlans "committed" (by decide) (by decide) (by decide)
  have hnone : NoStaticIpv6 twoVlans.vlanSettings := by
    unfold NoStaticIpv6
    decide
  apply ((hsurvive.2.2.1 hnone).2 rfl).mpr
  unfold KeptInFile
  decide

private def silentVlan : NetworkConfig where
  vlanSettings := {
    vlanEnabled := true
    primaryVlan := some ⟨10, .dhcp, none, none, none⟩ }

/-- It is accepted, and it comes back with a mode for IPv6. -/
theorem missing_ipv6_mode_is_filled_in :
    ¬ ∀ (c : NetworkConfig) (mode : String), '\n' ∉ mode.toList →
      validateVlanSettings c.vlanSettings = .ok () → (∀ s ∈ texts c, Plain s) →
      (iniToNetworkConfig (networkConfigToIni c mode)).vlanSettings = c.vlanSettings := by
  intro h
  have hback := h silentVlan "committed" (by decide) (by decide) (by decide)
  rw [iniToNetworkConfig_networkConfigToIni (by decide) (by decide)] at hback
  exact absurd hback (by decide)

end Vlan

end ArkKvm
