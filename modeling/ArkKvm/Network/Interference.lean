import ArkKvm.Network.Settings

/-!
# Names and the rest of `network.conf`

The hostname and the domain are printed as they are, so a name with a line break brings
lines of its own into the file. The sections behind `[system]` override what such lines
say, except for the DNS servers of a static section that has none.
-/

namespace ArkKvm

open Lib.Ini (Section sectionOf Block trimmed lastValue valueOf Plain plain_of_solid)

namespace NetworkConf

/-! ## The two parts of the file -/

def systemText (config : NetworkConfig) : String :=
  "# network.conf — managed by arkkvm_app\n# Apply: refresh-network.sh\n\n" ++
  "[interface]\nname=eth0\n\n" ++
  "[system]\n" ++
  "hostname=" ++ config.hostname.getD "arkkvm" ++ "\n" ++
  "domain=" ++ config.domain.getD "dhcp" ++ "\n\n"

def restBlocks (config : NetworkConfig) (mode : String) : List Block :=
  (blocks config mode).drop 2

def rename (hostname domain : String) (c : NetworkConfig) : NetworkConfig :=
  { c with hostname := some hostname, domain := some domain }

theorem restBlocks_rename (hostname domain mode : String) (c : NetworkConfig) :
    restBlocks (rename hostname domain c) mode = restBlocks c mode := rfl

theorem toList_eq_systemText (c : NetworkConfig) (mode : String) :
    (networkConfigToIni c mode).toList =
      (systemText c).toList ++ Lib.Text.unlines ((restBlocks c mode).flatMap Block.lines) := by
  have hsystem : (systemText c).toList =
      Lib.Text.unlines (comment ++ ((blocks c mode).take 2).flatMap Block.lines) := by
    have hinterface : Lib.Text.unlines (Block.lines ⟨"interface", [("name", "eth0")]⟩) =
        "[interface]\nname=eth0\n\n".toList := by
      simp [Block.lines, Lib.Text.unlines]
    unfold systemText blocks
    simp only [List.take_succ_cons, List.take_zero, List.flatMap_cons, List.flatMap_nil,
      unlines_append, unlines_comment, unlines_system, hinterface, String.toList_append,
      List.append_assoc, List.append_nil]
  rw [toList_networkConfigToIni, hsystem, ← unlines_append, List.append_assoc,
    ← List.flatMap_append, restBlocks, List.take_append_drop]

/-- The texts of the sections behind `[system]`. -/
def otherTexts (c : NetworkConfig) : List String :=
  staticTexts c.staticIpv4 ++ ipv6Texts c.staticIpv6 ++
    endpointTexts c.vlanSettings.primaryVlan ++ endpointTexts c.vlanSettings.secondaryVlan

/-- What a section says about a key: its own last value, or else what the lines of the
names put there. -/
theorem lookup_of_names {c : NetworkConfig} {mode : String} (hmode : '\n' ∉ mode.toList)
    (h : ∀ s ∈ otherTexts c, '\n' ∉ s.toList) (name key : String) :
    (sectionOf (parseIni (networkConfigToIni c mode)) name).lookup key =
      ((valueOf name key (restBlocks c mode)).map trimmed <|>
        (sectionOf (parseIni (systemText c)) name).lookup key) := by
  have hproper : ∀ b ∈ restBlocks c mode, b.Proper := by
    have hnone : ∀ s ∈ texts { c with hostname := none, domain := none }, '\n' ∉ s.toList := h
    intro b hb
    have hb : b ∈ restBlocks { c with hostname := none, domain := none } mode := hb
    exact proper_blocks hmode hnone b (List.mem_of_mem_drop hb)
  have hlast : (systemText c).toList.getLast? = some '\n' := by
    unfold systemText
    rw [String.toList_append, List.getLast?_append]
    rfl
  unfold parseIni
  rw [toList_eq_systemText, ← List.dropLast_append_getLast? '\n' hlast, List.append_assoc]
  exact Lib.Ini.lookup_parse_append hproper _ name key

def strayDns (name : String) (c : NetworkConfig) : List String :=
  getList (sectionOf (parseIni (systemText c)) name) "dns"

def withDns (stray : List String) (s : StaticIpConfig) : StaticIpConfig :=
  { s with dnsServers := if s.dnsServers = [] then stray else s.dnsServers }

section Printed

variable {c : NetworkConfig} {mode : String} (hmode : '\n' ∉ mode.toList)
  (htexts : ∀ s ∈ otherTexts c, '\n' ∉ s.toList)

theorem valueOf_restBlocks {name : String} (hname : name ≠ "interface" ∧ name ≠ "system")
    (c : NetworkConfig) (mode key : String) :
    valueOf name key (restBlocks c mode) = valueOf name key (blocks c mode) := by
  have hsplit : blocks c mode = (blocks c mode).take 2 ++ restBlocks c mode :=
    (List.take_append_drop 2 _).symm
  rw [hsplit]
  simp [blocks, valueOf, hname.1.symm, hname.2.symm]

include hmode htexts

theorem lookup_ipv4 (key : String) :
    (sectionOf (parseIni (networkConfigToIni c mode)) "ipv4").lookup key =
      ((lastValue key (ipv4Block c).entries).map trimmed <|>
        (sectionOf (parseIni (systemText c)) "ipv4").lookup key) := by
  rw [lookup_of_names hmode htexts, valueOf_restBlocks (by decide), valueOf_ipv4]

theorem lookup_ipv6 (key : String) :
    (sectionOf (parseIni (networkConfigToIni c mode)) "ipv6").lookup key =
      ((lastValue key (ipv6Block c).entries).map trimmed <|>
        (sectionOf (parseIni (systemText c)) "ipv6").lookup key) := by
  rw [lookup_of_names hmode htexts, valueOf_restBlocks (by decide), valueOf_ipv6]

end Printed

theorem getList_or_stray {sec : Section} {c : NetworkConfig} {name : String} {s : StaticIpConfig}
    (hsolid : ∀ dns ∈ s.dnsServers, dns ≠ "" ∧ ∀ c ∈ dns.toList, Lib.Text.isWhiteSpace c = false)
    (hdns : sec.lookup "dns" = ((lastValue "dns" (staticEntries s)).map trimmed <|>
      (sectionOf (parseIni (systemText c)) name).lookup "dns")) :
    getList sec "dns" = (withDns (strayDns name c) s).dnsServers := by
  have hlast := lastValue_staticEntries s "dns"
  unfold withDns
  by_cases hnone : s.dnsServers = []
  · have hlast : lastValue "dns" (staticEntries s) = none := by simpa [hnone] using hlast
    rw [hlast, Option.map_none, Option.orElse_apply, Option.orElse_none] at hdns
    simp only [if_pos hnone, strayDns, getList, getStr, hdns]
  · have hlast : lastValue "dns" (staticEntries s) = some (" ".intercalate s.dnsServers) := by
      simpa [hnone] using hlast
    rw [hlast, Option.map_some, Option.orElse_apply, Option.orElse_some] at hdns
    rw [if_neg hnone, getList_of_lookup hdns, words_intercalate, flatMap_words_of_solid hsolid]

theorem modes_printed {c : NetworkConfig} {mode : String} (hmode : '\n' ∉ mode.toList)
    (htexts : ∀ s ∈ otherTexts c, '\n' ∉ s.toList) :
    (iniToNetworkConfig (networkConfigToIni c mode)).ipv4Mode = c.ipv4Mode ∧
      (iniToNetworkConfig (networkConfigToIni c mode)).ipv6Mode = c.ipv6Mode := by
  have h4 := lookup_ipv4 hmode htexts "mode"
  have h6 := lookup_ipv6 hmode htexts "mode"
  rw [lastValue_mode_ipv4Block, Option.map_some, Option.orElse_apply, Option.orElse_some] at h4
  rw [lastValue_mode_ipv6Block, Option.map_some, Option.orElse_apply, Option.orElse_some] at h6
  unfold iniToNetworkConfig
  dsimp only
  rw [mode_of_lookup h4 (plain_ipv4ModeStr _), mode_of_lookup h6 (plain_ipv6ModeStr _)]
  exact ⟨parseIpv4Mode_ipv4ModeStr _, parseIpv6Mode_ipv6ModeStr _⟩

/-- A validated static IPv4 configuration comes back, with stray DNS servers if it has
none of its own. -/
theorem staticIpv4_printed {c : NetworkConfig} {mode : String} (hmode : '\n' ∉ mode.toList)
    (htexts : ∀ s ∈ otherTexts c, '\n' ∉ s.toList)
    (hvalid : NetworkSettings.validateFlatIpv4 c = .ok ()) :
    (iniToNetworkConfig (networkConfigToIni c mode)).staticIpv4 =
      if c.ipv4Mode = .static then c.staticIpv4.map (withDns (strayDns "ipv4" c)) else none := by
  rw [staticIpv4_read, (modes_printed hmode htexts).1]
  by_cases hstatic : c.ipv4Mode = .static
  · obtain ⟨s, hs, hip, hmask, hgateway, hdns⟩ :=
      NetworkSettings.static_of_validateFlatIpv4 hstatic hvalid
    have hip := solid_of_checkValidIpv4 hip
    have hmask := solid_of_checkValidIpv4 hmask
    have hgateway := solid_of_checkValidIpv4 hgateway
    have hlookup := lookup_ipv4 hmode htexts
    unfold ipv4Block at hlookup
    rw [hs] at hlookup
    have haddress := hlookup "address"
    have hnetmask := hlookup "netmask"
    have hgate := hlookup "gateway"
    have hservers := hlookup "dns"
    simp only [lastValue, lastValue_staticEntries, String.reduceEq, false_and, if_false, if_true,
      Option.map_some, Option.orElse_apply, Option.orElse_some, Option.orElse_none]
      at haddress hnetmask hgate
    have hservers := getList_or_stray (fun dns hmem => solid_of_checkValidIpv4 (hdns dns hmem))
      (by simpa [lastValue] using hservers)
    rw [if_pos hstatic, if_pos hstatic, hs]
    unfold parseStaticIpv4
    rw [getStr_of_lookup haddress (plain_of_solid hip.2), if_neg hip.1,
      getStr_getD_of_lookup hnetmask (plain_of_solid hmask.2), if_neg hmask.1,
      getStr_getD_of_lookup hgate (plain_of_solid hgateway.2), if_neg hgateway.1, hservers]
    rfl
  · rw [if_neg hstatic, if_neg hstatic]

/-- A validated static IPv6 configuration comes back without a mask, with stray DNS servers
if it has none of its own. -/
theorem staticIpv6_printed {c : NetworkConfig} {mode : String} (hmode : '\n' ∉ mode.toList)
    (htexts : ∀ s ∈ otherTexts c, '\n' ∉ s.toList)
    (hvalid : NetworkSettings.validateFlatIpv6 c = .ok ()) :
    (iniToNetworkConfig (networkConfigToIni c mode)).staticIpv6 =
      if c.ipv6Mode = .static then
        c.staticIpv6.map fun s => { withDns (strayDns "ipv6" c) s with
          subnetMask := ""
          gateway := trimmed s.gateway }
      else none := by
  rw [staticIpv6_read, (modes_printed hmode htexts).2]
  by_cases hstatic : c.ipv6Mode = .static
  · obtain ⟨s, hs, hip, hdns⟩ := NetworkSettings.static_of_validateFlatIpv6 hstatic hvalid
    have hip := solid_of_checkValidIpv6 hip
    have hlookup := lookup_ipv6 hmode htexts
    unfold ipv6Block at hlookup
    rw [hs] at hlookup
    have hprefix := hlookup "prefix"
    have hgate := hlookup "gateway"
    have hservers := hlookup "dns"
    simp only [lastValue, lastValue_staticEntries, String.reduceEq, false_and, if_false, if_true,
      Option.map_some, Option.orElse_apply, Option.orElse_some, Option.orElse_none]
      at hprefix hgate
    have hservers := getList_or_stray (fun dns hmem => solid_of_checkValidIpv6 (hdns dns hmem))
      (by simpa [lastValue] using hservers)
    have hgateway : (getStr (sectionOf (parseIni (networkConfigToIni c mode)) "ipv6")
        "gateway").getD "" = trimmed s.gateway := by
      unfold getStr
      rw [hgate]
      by_cases hblank : trimmed s.gateway = ""
      · simp [hblank, Option.filter]
      · simp [hblank, Option.filter]
    rw [if_pos hstatic, if_pos hstatic, hs]
    unfold parseStaticIpv6
    rw [getStr_of_lookup hprefix (plain_of_solid hip.2), if_neg hip.1, hgateway, hservers]
    rfl
  · rw [if_neg hstatic, if_neg hstatic]

/-! ## The VLAN sections -/

def endpointKeys : List String :=
  ["id", "ipv4_mode", "ipv6_mode", "ipv4_address", "ipv4_netmask", "ipv4_gateway", "ipv4_dns"]

theorem parseVlanEndpoint_congr {sec sec' : Section}
    (h : ∀ key ∈ endpointKeys, sec.lookup key = sec'.lookup key) :
    parseVlanEndpoint sec = parseVlanEndpoint sec' := by
  unfold endpointKeys at h
  simp only [List.forall_mem_cons] at h
  obtain ⟨hid, hmode4, hmode6, hip, hmask, hgateway, hdns, -⟩ := h
  unfold parseVlanEndpoint getList getStr
  rw [hid, hmode4, hmode6, hip, hmask, hgateway, hdns]

theorem lastValue_endpointBlock (name : String) (endpoint : Option VlanEndpointConfig)
    (metric : Nat) : ∀ key ∈ endpointKeys,
      ∃ v, lastValue key (endpointBlock name endpoint metric).entries = some v := by
  unfold endpointKeys endpointBlock
  cases endpoint with
  | none => simp [lastValue]
  | some ep => simp [endpointEntries, lastValue]

theorem lookup_rename {c : NetworkConfig} {mode : String} (hmode : '\n' ∉ mode.toList)
    (htexts : ∀ s ∈ otherTexts c, '\n' ∉ s.toList) (hostname domain name key : String)
    (h : ∃ v, valueOf name key (restBlocks c mode) = some v) :
    (sectionOf (parseIni (networkConfigToIni (rename hostname domain c) mode)) name).lookup key =
      (sectionOf (parseIni (networkConfigToIni c mode)) name).lookup key := by
  obtain ⟨v, hv⟩ := h
  have htexts' : ∀ s ∈ otherTexts (rename hostname domain c), '\n' ∉ s.toList := htexts
  rw [lookup_of_names hmode htexts', lookup_of_names hmode htexts, restBlocks_rename, hv]
  simp only [Option.map_some, Option.orElse_apply, Option.orElse_some]

theorem vlanSettings_rename {c : NetworkConfig} {mode : String} (hmode : '\n' ∉ mode.toList)
    (htexts : ∀ s ∈ otherTexts c, '\n' ∉ s.toList) (hostname domain : String) :
    (iniToNetworkConfig (networkConfigToIni (rename hostname domain c) mode)).vlanSettings =
      (iniToNetworkConfig (networkConfigToIni c mode)).vlanSettings := by
  have hlookup := fun name key => lookup_rename hmode htexts hostname domain name key
  have henabled := hlookup "vlan" "enabled" (by
    rw [valueOf_restBlocks (by decide), valueOf_vlan]
    exact ⟨_, rfl⟩)
  have hprimary := parseVlanEndpoint_congr fun key hkey => hlookup "vlan.primary" key (by
    rw [valueOf_restBlocks (by decide), valueOf_vlanPrimary]
    exact lastValue_endpointBlock _ _ _ key hkey)
  have hsecondary := parseVlanEndpoint_congr fun key hkey => hlookup "vlan.secondary" key (by
    rw [valueOf_restBlocks (by decide), valueOf_vlanSecondary]
    exact lastValue_endpointBlock _ _ _ key hkey)
  unfold iniToNetworkConfig getBool
  dsimp only
  rw [henabled, hprimary, hsecondary]

/-! ## Independence -/

/-- The configuration passes the validators of the settings. -/
structure Accepted (c : NetworkConfig) : Prop where
  ipv4 : NetworkSettings.validateFlatIpv4 c = .ok ()
  ipv6 : NetworkSettings.validateFlatIpv6 c = .ok ()
  vlan : Vlan.validateVlanSettings c.vlanSettings = .ok ()

/-- The fields of the flat sections and of the VLAN sections. -/
def l3Fields (c : NetworkConfig) :
    (IpV4Mod × Option StaticIpConfig) × (IpV6Mod × Option StaticIpConfig) × VlanSettings :=
  ((c.ipv4Mode, c.staticIpv4), (c.ipv6Mode, c.staticIpv6), c.vlanSettings)

/-- The configuration after it was printed and read. -/
def normalized (c : NetworkConfig) (mode : String) : NetworkConfig :=
  iniToNetworkConfig (networkConfigToIni c mode)

/-- A static section that names no DNS servers finds the same ones between the lines of the
names. -/
def SameStray (c c' : NetworkConfig) : Prop :=
  (c.ipv4Mode = .static → c.staticIpv4.any (·.dnsServers = []) = true →
    strayDns "ipv4" c' = strayDns "ipv4" c) ∧
  (c.ipv6Mode = .static → c.staticIpv6.any (·.dnsServers = []) = true →
    strayDns "ipv6" c' = strayDns "ipv6" c)

instance (c c' : NetworkConfig) : Decidable (SameStray c c') :=
  inferInstanceAs (Decidable (_ ∧ _))

/-- The `[system]` section ends up with a hostname and a domain. -/
def Named (c : NetworkConfig) : Prop :=
  getStr (sectionOf (parseIni (systemText c)) "system") "hostname" ≠ none ∧
    getStr (sectionOf (parseIni (systemText c)) "system") "domain" ≠ none

theorem ite_map_stray_iff {f : List String → StaticIpConfig → StaticIpConfig}
    (hf : ∀ stray stray' s, f stray' s = f stray s ↔ withDns stray' s = withDns stray s)
    (static : Prop) [Decidable static] (config : Option StaticIpConfig)
    (stray stray' : List String) :
    (if static then config.map (f stray') else none) =
        (if static then config.map (f stray) else none) ↔
      (static → config.any (·.dnsServers = []) = true → stray' = stray) := by
  by_cases hstatic : static
  · rw [if_pos hstatic, if_pos hstatic]
    cases config with
    | none => simp
    | some s =>
        rw [Option.map_some, Option.map_some, Option.some.injEq, hf]
        by_cases hnone : s.dnsServers = []
        · simp [withDns, hnone, hstatic]
        · simp [withDns, hnone]
  · simp [hstatic]

theorem names_read (content : String) :
    (iniToNetworkConfig content).hostname =
        getStr (sectionOf (parseIni content) "system") "hostname" ∧
      (iniToNetworkConfig content).domain =
        getStr (sectionOf (parseIni content) "system") "domain" := ⟨rfl, rfl⟩

section Independence

variable {c : NetworkConfig} {mode : String} (hmode : '\n' ∉ mode.toList)
  (htexts : ∀ s ∈ otherTexts c, '\n' ∉ s.toList)

include hmode htexts

theorem l3Fields_rename_iff (haccepted : Accepted c) (hostname domain : String) :
    l3Fields (normalized (rename hostname domain c) mode) = l3Fields (normalized c mode) ↔
      SameStray c (rename hostname domain c) := by
  have htexts' : ∀ s ∈ otherTexts (rename hostname domain c), '\n' ∉ s.toList := htexts
  have hvalid4 : NetworkSettings.validateFlatIpv4 (rename hostname domain c) = .ok () :=
    haccepted.ipv4
  have hvalid6 : NetworkSettings.validateFlatIpv6 (rename hostname domain c) = .ok () :=
    haccepted.ipv6
  have hmodes := modes_printed hmode htexts
  have hmodes' := modes_printed hmode htexts'
  have hvlan := vlanSettings_rename hmode htexts hostname domain
  unfold l3Fields normalized SameStray
  rw [staticIpv4_printed hmode htexts haccepted.ipv4, staticIpv4_printed hmode htexts' hvalid4,
    staticIpv6_printed hmode htexts haccepted.ipv6, staticIpv6_printed hmode htexts' hvalid6,
    hmodes.1, hmodes.2, hmodes'.1, hmodes'.2, hvlan]
  have h4 := ite_map_stray_iff (f := withDns) (fun _ _ _ => Iff.rfl) (c.ipv4Mode = .static)
    c.staticIpv4 (strayDns "ipv4" c) (strayDns "ipv4" (rename hostname domain c))
  have h6 := ite_map_stray_iff (f := fun stray s => { withDns stray s with
      subnetMask := ""
      gateway := trimmed s.gateway }) (fun _ _ s => by simp [withDns]) (c.ipv6Mode = .static)
    c.staticIpv6 (strayDns "ipv6" c) (strayDns "ipv6" (rename hostname domain c))
  rw [Prod.mk.injEq, Prod.mk.injEq, Prod.mk.injEq, Prod.mk.injEq]
  exact ⟨fun h => ⟨h4.mp h.1.2, h6.mp h.2.1.2⟩,
    fun h => ⟨⟨rfl, h4.mpr h.1⟩, ⟨rfl, h6.mpr h.2⟩, rfl⟩⟩

/-- A configuration that was read is the same again after another round, exactly when the
file names the device. -/
theorem normalized_normalized_iff :
    normalized (normalized c mode) mode = normalized c mode ↔ Named c := by
  have hsystem : ∀ key, getStr (sectionOf (parseIni (networkConfigToIni c mode)) "system") key =
      getStr (sectionOf (parseIni (systemText c)) "system") key := by
    intro key
    have hnone : valueOf "system" key (restBlocks c mode) = none := by
      simp [restBlocks, blocks, valueOf, ipv4Block, ipv6Block, endpointBlock]
    unfold getStr
    rw [lookup_of_names hmode htexts, hnone, Option.map_none, Option.orElse_apply,
      Option.orElse_none]
  have hagain : normalized (normalized c mode) mode = (normalized c mode).inFile :=
    iniToNetworkConfig_networkConfigToIni hmode (plain_of_mem_texts_parsed _)
  rw [hagain]
  unfold normalized Named
  rw [inFile_read, ← hsystem, ← hsystem, ← (names_read _).1, ← (names_read _).2]
  generalize iniToNetworkConfig (networkConfigToIni c mode) = r
  constructor
  · intro h
    have hhostname : some (r.hostname.getD "arkkvm") = r.hostname :=
      congrArg NetworkConfig.hostname h
    have hdomain : some (r.domain.getD "dhcp") = r.domain := congrArg NetworkConfig.domain h
    rw [← hhostname, ← hdomain]
    exact ⟨Option.some_ne_none _, Option.some_ne_none _⟩
  · rintro ⟨hhostname, hdomain⟩
    obtain ⟨hn, hhn⟩ := Option.ne_none_iff_exists'.mp hhostname
    obtain ⟨dn, hdn⟩ := Option.ne_none_iff_exists'.mp hdomain
    rw [hhn, hdn, Option.getD_some, Option.getD_some, ← hhn, ← hdn]

end Independence

/-- Under other names the flat sections and the VLAN sections stay as they are, and
reading and printing settles after one round, exactly when static sections without servers
find no others between the lines of the names and the file names the device. The other
texts of the configuration hold no line breaks. -/
theorem fields_independent_iff {c : NetworkConfig} {mode : String} (hmode : '\n' ∉ mode.toList)
    (htexts : ∀ s ∈ otherTexts c, '\n' ∉ s.toList) (haccepted : Accepted c)
    (hostname domain : String) :
    l3Fields (normalized (rename hostname domain c) mode) = l3Fields (normalized c mode) ∧
        normalized (normalized c mode) mode = normalized c mode ↔
      SameStray c (rename hostname domain c) ∧ Named c := by
  rw [l3Fields_rename_iff hmode htexts haccepted, normalized_normalized_iff hmode htexts]

/-- A static address, with or without DNS servers. -/
private def staticAddress (dnsServers : List String) : NetworkConfig where
  ipv4Mode := .static
  staticIpv4 := some ⟨"192.168.1.10", "255.255.255.0", "192.168.1.1", dnsServers⟩

/-- A hostname with lines of its own. -/
private def longHostname : String := "kvm\n[ipv4]\ndns=6.6.6.6"

theorem accepted_staticAddress :
    Accepted (staticAddress []) ∧ Accepted (staticAddress ["8.8.8.8"]) :=
  ⟨⟨by decide, by decide, by decide⟩, ⟨by decide, by decide, by decide⟩⟩

/-- Beside a DNS server of its own the address stays what it is. -/
theorem fields_independent_iff_longHostname :
    l3Fields (normalized (rename longHostname "lan" (staticAddress ["8.8.8.8"])) "committed") =
        l3Fields (normalized (staticAddress ["8.8.8.8"]) "committed") ∧
      normalized (normalized (staticAddress ["8.8.8.8"]) "committed") "committed" =
        normalized (staticAddress ["8.8.8.8"]) "committed" := by
  apply (fields_independent_iff (by decide) (by decide) accepted_staticAddress.2
    longHostname "lan").mpr
  exact ⟨by decide, by decide +kernel, by decide +kernel⟩

/-- Without one, the hostname brings one. -/
theorem hostname_brings_dns_server :
    ¬ ∀ (c : NetworkConfig) (mode hostname domain : String), Accepted c →
      l3Fields (normalized (rename hostname domain c) mode) = l3Fields (normalized c mode) ∧
        normalized (normalized c mode) mode = normalized c mode := by
  intro h
  have hfields := (h (staticAddress []) "committed" longHostname "lan" accepted_staticAddress.1).1
  rw [l3Fields_rename_iff (by decide) (by decide) accepted_staticAddress.1] at hfields
  exact absurd (hfields.1 rfl rfl) (by decide +kernel)

end NetworkConf

end ArkKvm
