import ArkKvm.Network.Interference

/-!
# Flat settings survive `network.conf`

The settings without a VLAN that the validators accept are read back from the file as they were
printed: no printed value can pass for another key, for a section or for a comment.
-/

namespace ArkKvm.NetworkConf

open Lib.Ini (Plain)

/-- Accepted settings without a VLAN, named, whose static blocks stand in static mode only and
hold plain texts. -/
structure FlatSettings (c : NetworkConfig) : Prop where
  ipv4 : NetworkSettings.validateFlatIpv4 c = .ok ()
  ipv6 : NetworkSettings.validateFlatIpv6 c = .ok ()
  vlan : c.vlanSettings = {}
  hostname : ∃ h, c.hostname = some h ∧ h ≠ "" ∧ Plain h
  domain : ∃ d, c.domain = some d ∧ d ≠ "" ∧ Plain d
  dhcp : c.ipv4Mode ≠ .static → c.staticIpv4 = none
  slaac : c.ipv6Mode ≠ .static → c.staticIpv6 = none
  plainIpv4 : ∀ s ∈ staticTexts c.staticIpv4, Plain s
  plainIpv6 : ∀ s ∈ staticTexts c.staticIpv6, Plain s
  noMask : ∀ s, c.staticIpv6 = some s → s.subnetMask = ""

variable {c : NetworkConfig}

theorem FlatSettings.plain (h : FlatSettings c) : ∀ s ∈ texts c, Plain s := by
  obtain ⟨hostname, hhost, -, hplain⟩ := h.hostname
  obtain ⟨domain, hdomain, -, hplain'⟩ := h.domain
  have hnone : endpointTexts (none : Option VlanEndpointConfig) = [] := rfl
  unfold texts
  rw [hhost, hdomain, h.vlan, hnone]
  simp only [List.forall_mem_append]
  refine ⟨⟨⟨⟨⟨?_, ?_⟩, h.plainIpv4⟩, ?_⟩, nofun⟩, nofun⟩
  · simpa using hplain
  · simpa using hplain'
  · exact fun t ht => h.plainIpv6 t (mem_staticTexts_of_ipv6 ht)

theorem FlatSettings.staticIpv4_inFile (h : FlatSettings c) :
    c.inFile.staticIpv4 = c.staticIpv4 := by
  unfold NetworkConfig.inFile
  dsimp only
  by_cases hmode : c.ipv4Mode = .static
  · obtain ⟨s, hs, hip, hmask, -, hdns⟩ :=
      NetworkSettings.static_of_validateFlatIpv4 hmode h.ipv4
    have hin : s.inFile = s := by
      unfold StaticIpConfig.inFile
      rw [if_neg (solid_of_checkValidIpv4 hmask).1,
        flatMap_words_of_solid fun d hd => solid_of_checkValidIpv4 (hdns d hd)]
    rw [if_pos hmode, hs, Option.bind_some, if_neg (solid_of_checkValidIpv4 hip).1, hin]
  · rw [if_neg hmode, h.dhcp hmode]

theorem FlatSettings.staticIpv6_inFile (h : FlatSettings c) :
    c.inFile.staticIpv6 = c.staticIpv6 := by
  unfold NetworkConfig.inFile
  dsimp only
  by_cases hmode : c.ipv6Mode = .static
  · obtain ⟨s, hs, hip, hdns⟩ := NetworkSettings.static_of_validateFlatIpv6 hmode h.ipv6
    have hin : { s.inFile with subnetMask := "" } = s := by
      unfold StaticIpConfig.inFile
      dsimp only
      rw [flatMap_words_of_solid fun d hd => solid_of_checkValidIpv6 (hdns d hd),
        ← h.noMask s hs]
    rw [if_pos hmode, hs, Option.bind_some, if_neg (solid_of_checkValidIpv6 hip).1, hin]
  · rw [if_neg hmode, h.slaac hmode]

theorem FlatSettings.names_read (h : FlatSettings c) :
    (iniToNetworkConfig (networkConfigToIni c "committed")).hostname = c.hostname ∧
      (iniToNetworkConfig (networkConfigToIni c "committed")).domain = c.domain := by
  obtain ⟨hostname, hhost, hne, -⟩ := h.hostname
  obtain ⟨domain, hdomain, hne', -⟩ := h.domain
  rw [iniToNetworkConfig_networkConfigToIni (by decide) h.plain]
  constructor
  · show nonBlank (c.hostname.getD "arkkvm") = c.hostname
    rw [hhost, Option.getD_some, nonBlank, if_neg hne]
  · show nonBlank (c.domain.getD "dhcp") = c.domain
    rw [hdomain, Option.getD_some, nonBlank, if_neg hne']

theorem FlatSettings.l3Fields_read (h : FlatSettings c) :
    l3Fields (iniToNetworkConfig (networkConfigToIni c "committed")) = l3Fields c := by
  have hvlan : c.inFile.vlanSettings = c.vlanSettings := by
    show c.vlanSettings.inFile = c.vlanSettings
    rw [h.vlan]
    rfl
  rw [iniToNetworkConfig_networkConfigToIni (by decide) h.plain]
  unfold l3Fields
  rw [h.staticIpv4_inFile, h.staticIpv6_inFile, hvlan]
  rfl

/-- Flat settings come back from the file unchanged. -/
theorem flat_settings_survive (h : FlatSettings c) :
    (iniToNetworkConfig (networkConfigToIni c "committed")).hostname = c.hostname ∧
      (iniToNetworkConfig (networkConfigToIni c "committed")).domain = c.domain ∧
      l3Fields (iniToNetworkConfig (networkConfigToIni c "committed")) = l3Fields c :=
  ⟨h.names_read.1, h.names_read.2, h.l3Fields_read⟩

/-- Static addresses with two DNS servers and with none. -/
private def flatAddresses : NetworkConfig where
  hostname := some "kvm"
  domain := some "lan"
  ipv4Mode := .static
  staticIpv4 := some ⟨"192.168.1.10", "255.255.255.0", "192.168.1.1", ["8.8.8.8", "1.1.1.1"]⟩
  ipv6Mode := .static
  staticIpv6 := some ⟨"fd00::10", "", "fd00::1", []⟩

theorem flat_settings_survive_static :
    l3Fields (iniToNetworkConfig (networkConfigToIni flatAddresses "committed")) =
      l3Fields flatAddresses := by
  have hflat : FlatSettings flatAddresses :=
    { ipv4 := by decide
      ipv6 := by decide
      vlan := rfl
      hostname := ⟨"kvm", rfl, by decide, by decide⟩
      domain := ⟨"lan", rfl, by decide, by decide⟩
      dhcp := fun h => absurd rfl h
      slaac := fun h => absurd rfl h
      plainIpv4 := by decide
      plainIpv6 := by decide
      noMask := by
        rintro s ⟨⟩
        rfl }
  exact (flat_settings_survive hflat).2.2

end ArkKvm.NetworkConf
