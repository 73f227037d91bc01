import ArkKvm.Network.NetworkConf

/-!
# What is read back from `network.conf`

The printer writes sections with `key=value` lines, and the reader gives back the
configuration in the form in which the file keeps it: `inFile`.
-/

namespace ArkKvm

open Lib.Text (parseU16 splitWhitespace unlines trim)
open Lib.Ini (Section sectionOf Block trimmed lastValue valueOf Plain plain_of_solid)

namespace NetworkConf

/-! ## The printed text as sections -/

def staticEntries (s : StaticIpConfig) : List (String × String) :=
  ("gateway", s.gateway) ::
    if s.dnsServers ≠ [] then [("dns", " ".intercalate s.dnsServers)] else []

def ipv4Block (config : NetworkConfig) : Block where
  name := "ipv4"
  entries := ("mode", ipv4ModeStr config.ipv4Mode) :: match config.staticIpv4 with
    | some s => ("address", s.ipAddress) :: ("netmask", s.subnetMask) :: staticEntries s
    | none => [("address", ""), ("netmask", ""), ("gateway", ""), ("dns", "")]

def ipv6Block (config : NetworkConfig) : Block where
  name := "ipv6"
  entries := ("mode", ipv6ModeStr config.ipv6Mode) :: match config.staticIpv6 with
    | some s => ("prefix", s.ipAddress) :: staticEntries s
    | none => [("prefix", ""), ("gateway", ""), ("dns", "")]

def endpointEntries (ep : VlanEndpointConfig) (defaultMetric : Nat) : List (String × String) :=
  let s := ep.staticIpv4.getD ⟨"", "", "", []⟩
  [("id", toString ep.vlanId), ("ipv4_mode", ipv4ModeStr ep.ipv4Mode),
    ("ipv4_address", s.ipAddress), ("ipv4_netmask", s.subnetMask), ("ipv4_gateway", s.gateway),
    ("ipv4_dns", " ".intercalate s.dnsServers),
    ("ipv6_mode", ipv6ModeStr (ep.ipv6Mode.getD .slaac)), ("ipv6_prefix", ""),
    ("ipv6_gateway", ""), ("ipv6_dns", ""), ("route_metric", toString defaultMetric)]

def endpointBlock (name : String) (endpoint : Option VlanEndpointConfig) (defaultMetric : Nat) :
    Block where
  name := name
  entries := match endpoint with
    | some ep => endpointEntries ep defaultMetric
    | none =>
        [("id", "0"), ("ipv4_mode", "disabled"), ("ipv4_address", ""), ("ipv4_netmask", ""),
          ("ipv4_gateway", ""), ("ipv4_dns", ""), ("ipv6_mode", "disabled"), ("ipv6_prefix", ""),
          ("ipv6_gateway", ""), ("ipv6_dns", ""), ("route_metric", toString defaultMetric)]

def blocks (config : NetworkConfig) (vlanApplyMode : String) : List Block :=
  [⟨"interface", [("name", "eth0")]⟩,
    ⟨"system",
      [("hostname", config.hostname.getD "arkkvm"), ("domain", config.domain.getD "dhcp")]⟩,
    ⟨"dhcp", [("client", "udhcpc")]⟩,
    ipv4Block config,
    ipv6Block config,
    ⟨"dns", [("servers", "")]⟩,
    ⟨"vlan", [("enabled", if config.vlanSettings.vlanEnabled then "true" else "false"),
      ("parent", "eth0"), ("apply_mode", vlanApplyMode)]⟩,
    endpointBlock "vlan.primary" config.vlanSettings.primaryVlan 0,
    endpointBlock "vlan.secondary" config.vlanSettings.secondaryVlan 200]

def comment : List (List Char) :=
  ["# network.conf — managed by arkkvm_app".toList, "# Apply: refresh-network.sh".toList, []]

theorem toList_writeVlanEndpointSection (name : String) (endpoint : Option VlanEndpointConfig)
    (defaultMetric : Nat) :
    (writeVlanEndpointSection name endpoint defaultMetric).toList =
      unlines (endpointBlock name endpoint defaultMetric).lines := by
  cases endpoint with
  | none => simp [writeVlanEndpointSection, endpointBlock, Block.lines, unlines]
  | some ep =>
      simp only [writeVlanEndpointSection, endpointBlock, endpointEntries]
      cases ep.staticIpv4 with
      | none => simp [Block.lines, unlines]
      | some s =>
          by_cases hdns : s.dnsServers = []
          · simp [Block.lines, unlines, hdns]
          · simp [Block.lines, unlines, hdns]

theorem toList_ipv4Section (config : NetworkConfig) :
    (ipv4Section config).toList = unlines (ipv4Block config).lines := by
  unfold ipv4Section ipv4Block
  cases config.staticIpv4 with
  | none => simp [Block.lines, unlines]
  | some s =>
      by_cases hdns : s.dnsServers = []
      · simp [Block.lines, unlines, staticEntries, hdns]
      · simp [Block.lines, unlines, staticEntries, hdns]

theorem toList_ipv6Section (config : NetworkConfig) :
    (ipv6Section config).toList = unlines (ipv6Block config).lines := by
  unfold ipv6Section ipv6Block
  cases config.staticIpv6 with
  | none => simp [Block.lines, unlines]
  | some s =>
      by_cases hdns : s.dnsServers = []
      · simp [Block.lines, unlines, staticEntries, hdns]
      · simp [Block.lines, unlines, staticEntries, hdns]

theorem unlines_append (a b : List (List Char)) : unlines (a ++ b) = unlines a ++ unlines b :=
  List.flatMap_append

theorem unlines_comment : unlines comment =
    "# network.conf — managed by arkkvm_app\n# Apply: refresh-network.sh\n\n".toList := by
  simp [comment, unlines]

theorem unlines_system (hostname domain : String) :
    unlines (Block.lines ⟨"system", [("hostname", hostname), ("domain", domain)]⟩) =
      ("[system]\n" ++ "hostname=" ++ hostname ++ "\n" ++ "domain=" ++ domain ++
        "\n\n").toList := by
  simp [Block.lines, unlines]

theorem unlines_vlan (enabled mode : String) :
    unlines (Block.lines
        ⟨"vlan", [("enabled", enabled), ("parent", "eth0"), ("apply_mode", mode)]⟩) =
      ("[vlan]\n" ++ "enabled=" ++ enabled ++ "\n" ++ "parent=eth0\n" ++ "apply_mode=" ++ mode ++
        "\n\n").toList := by
  simp [Block.lines, unlines]

theorem toList_networkConfigToIni (config : NetworkConfig) (mode : String) :
    (networkConfigToIni config mode).toList =
      unlines (comment ++ (blocks config mode).flatMap Block.lines) := by
  have hinterface : unlines (Block.lines ⟨"interface", [("name", "eth0")]⟩) =
      "[interface]\nname=eth0\n\n".toList := by
    simp [Block.lines, unlines]
  have hdhcp : unlines (Block.lines ⟨"dhcp", [("client", "udhcpc")]⟩) =
      "[dhcp]\nclient=udhcpc\n\n".toList := by
    simp [Block.lines, unlines]
  have hdns : unlines (Block.lines ⟨"dns", [("servers", "")]⟩) = "[dns]\nservers=\n\n".toList := by
    simp [Block.lines, unlines]
  unfold networkConfigToIni blocks
  simp only [String.toList_append, toList_ipv4Section, toList_ipv6Section,
    toList_writeVlanEndpointSection, List.flatMap_cons, List.flatMap_nil, unlines_append,
    unlines_comment, unlines_system, unlines_vlan, hinterface, hdhcp, hdns,
    List.append_assoc, List.append_nil]

/-! ## What is read back -/

/-- `str::split_whitespace`. -/
def words (s : String) : List String := (splitWhitespace s.toList).map String.ofList

theorem words_trimmed (s : String) : words (trimmed s) = words s := by
  unfold words Lib.Ini.trimmed
  rw [String.toList_ofList, Lib.Text.splitWhitespace_trim]

theorem words_intercalate (ss : List String) : words (" ".intercalate ss) = ss.flatMap words := by
  have hblank : (" " : String).toList = [' '] := rfl
  unfold words
  rw [String.toList_intercalate, hblank,
    Lib.Text.splitWhitespace_intercalate (by decide), List.map_flatMap, List.flatMap_map]

variable {sec : Section} {key v : String}

theorem getStr_of_lookup (h : sec.lookup key = some (trimmed v)) (hv : Plain v) :
    getStr sec key = if v = "" then none else some v := by
  unfold getStr
  rw [h, hv.trimmed]
  by_cases hempty : v = ""
  · simp [hempty, Option.filter]
  · simp [hempty, Option.filter]

theorem getStr_getD_of_lookup (h : sec.lookup key = some (trimmed v)) (hv : Plain v)
    (default : String) : (getStr sec key).getD default = if v = "" then default else v := by
  rw [getStr_of_lookup h hv]
  split <;> rfl

theorem ite_empty (v : String) : (if v = "" then "" else v) = v := by
  split
  · next h => exact h.symm
  · rfl

theorem getList_of_lookup (h : sec.lookup key = some (trimmed v)) : getList sec key = words v := by
  unfold getList getStr
  rw [h]
  by_cases hempty : trimmed v = ""
  · rw [← words_trimmed, hempty]
    rfl
  · simp only [Option.filter, hempty, ne_eq, not_false_eq_true, decide_true, if_true,
      Option.map_some, Option.getD_some]
    exact words_trimmed v

end NetworkConf

/-- A static configuration as the file keeps it: a mask when there is none, and the DNS
servers separated at blanks. -/
def StaticIpConfig.inFile (s : StaticIpConfig) : StaticIpConfig :=
  { s with
    subnetMask := if s.subnetMask = "" then "255.255.255.0" else s.subnetMask
    dnsServers := s.dnsServers.flatMap NetworkConf.words }

/-- An endpoint as the file keeps it: none without a VLAN ID, a mode for IPv6, and a
static configuration in static mode only. -/
def VlanEndpointConfig.inFile (ep : VlanEndpointConfig) : Option VlanEndpointConfig :=
  if ep.vlanId = 0 ∨ 2 ^ 16 ≤ ep.vlanId then none
  else some {
    vlanId := ep.vlanId
    ipv4Mode := ep.ipv4Mode
    ipv6Mode := some (ep.ipv6Mode.getD .slaac)
    staticIpv4 :=
      if ep.ipv4Mode = .static then some (ep.staticIpv4.getD ⟨"", "", "", []⟩).inFile else none
    staticIpv6 := none }

def VlanSettings.inFile (v : VlanSettings) : VlanSettings where
  vlanEnabled := v.vlanEnabled
  primaryVlan := v.primaryVlan.bind (·.inFile)
  secondaryVlan := v.secondaryVlan.bind (·.inFile)

def nonBlank (s : String) : Option String := if s = "" then none else some s

/-- A configuration as the file keeps it. -/
def NetworkConfig.inFile (c : NetworkConfig) : NetworkConfig where
  hostname := nonBlank (c.hostname.getD "arkkvm")
  httpProxy := none
  domain := nonBlank (c.domain.getD "dhcp")
  ipv4Mode := c.ipv4Mode
  staticIpv4 :=
    if c.ipv4Mode = .static then
      c.staticIpv4.bind fun s => if s.ipAddress = "" then none else some s.inFile
    else none
  ipv6Mode := c.ipv6Mode
  staticIpv6 :=
    if c.ipv6Mode = .static then
      c.staticIpv6.bind fun s =>
        if s.ipAddress = "" then none else some { s.inFile with subnetMask := "" }
    else none
  lldpMode := "disabled"
  lldpTxTlvs := []
  mdnsMode := "disabled"
  timeSyncMode := "ntp"
  timeSyncOrdering := []
  timeSyncDisableFallback := false
  timeSyncParallel := 1
  vlanSettings := c.vlanSettings.inFile

namespace NetworkConf

variable {sec : Section}

def staticTexts (s : Option StaticIpConfig) : List String :=
  (s.map fun s => s.ipAddress :: s.subnetMask :: s.gateway :: s.dnsServers).getD []

/-- The same without the mask, which `[ipv6]` does not have. -/
def ipv6Texts (s : Option StaticIpConfig) : List String :=
  (s.map fun s => s.ipAddress :: s.gateway :: s.dnsServers).getD []

def endpointTexts (ep : Option VlanEndpointConfig) : List String :=
  staticTexts (ep.bind (·.staticIpv4))

/-- The texts of a configuration that are printed. -/
def texts (c : NetworkConfig) : List String :=
  c.hostname.toList ++ c.domain.toList ++ staticTexts c.staticIpv4 ++ ipv6Texts c.staticIpv6 ++
    endpointTexts c.vlanSettings.primaryVlan ++ endpointTexts c.vlanSettings.secondaryVlan

theorem mem_staticTexts_of_ipv6 {s : Option StaticIpConfig} {t : String} (h : t ∈ ipv6Texts s) :
    t ∈ staticTexts s := by
  cases s with
  | none => cases h
  | some s =>
      change t ∈ s.ipAddress :: s.gateway :: s.dnsServers at h
      change t ∈ s.ipAddress :: s.subnetMask :: s.gateway :: s.dnsServers
      simp only [List.mem_cons] at h ⊢
      tauto

theorem plain_toString (n : Nat) : Plain (toString n) := by
  apply plain_of_solid
  intro c hc
  change c ∈ n.repr.toList at hc
  rw [Nat.toList_repr] at hc
  exact Lib.Text.isWhiteSpace_of_isDigit (Nat.isDigit_of_mem_toDigits (by decide) (by decide) hc)

theorem parseIpv4Mode_ipv4ModeStr (m : IpV4Mod) : parseIpv4Mode (ipv4ModeStr m) = m := by
  cases m <;> rfl

theorem parseIpv6Mode_ipv6ModeStr (m : IpV6Mod) : parseIpv6Mode (ipv6ModeStr m) = m := by
  cases m <;> rfl

theorem trimmed_ipv4ModeStr (m : IpV4Mod) : trimmed (ipv4ModeStr m) = ipv4ModeStr m := by
  cases m <;> rfl

theorem trimmed_ipv6ModeStr (m : IpV6Mod) : trimmed (ipv6ModeStr m) = ipv6ModeStr m := by
  cases m <;> rfl

theorem staticIpv4_of_endpointBlock {name : String} {ep : VlanEndpointConfig} {metric : Nat}
    (hsec : ∀ key, sec.lookup key =
      (lastValue key (endpointBlock name (some ep) metric).entries).map trimmed)
    (hplain : ∀ s ∈ endpointTexts (some ep), Plain s) :
    ({ ipAddress := (getStr sec "ipv4_address").getD ""
       subnetMask := (getStr sec "ipv4_netmask").getD "255.255.255.0"
       gateway := (getStr sec "ipv4_gateway").getD ""
       dnsServers := getList sec "ipv4_dns" } : StaticIpConfig) =
      (ep.staticIpv4.getD ⟨"", "", "", []⟩).inFile := by
  have hs : ∀ v ∈ [(ep.staticIpv4.getD ⟨"", "", "", []⟩).ipAddress,
      (ep.staticIpv4.getD ⟨"", "", "", []⟩).subnetMask,
      (ep.staticIpv4.getD ⟨"", "", "", []⟩).gateway], Plain v := by
    unfold endpointTexts staticTexts at hplain
    cases h : ep.staticIpv4 with
    | none => decide
    | some s =>
        intro v hv
        apply hplain
        simp only [Option.bind_some, h, Option.map_some, Option.getD_some] at hv ⊢
        rcases List.mem_cons.mp hv with rfl | hv
        · exact List.mem_cons_self
        · rcases List.mem_cons.mp hv with rfl | hv
          · simp
          · rw [List.mem_singleton.mp hv]
            simp
  rw [List.forall_mem_cons, List.forall_mem_cons, List.forall_mem_singleton] at hs
  unfold StaticIpConfig.inFile
  rw [getStr_getD_of_lookup (hsec "ipv4_address") hs.1,
    getStr_getD_of_lookup (hsec "ipv4_netmask") hs.2.1,
    getStr_getD_of_lookup (hsec "ipv4_gateway") hs.2.2, getList_of_lookup (hsec "ipv4_dns"),
    words_intercalate, ite_empty, ite_empty]

theorem parseVlanEndpoint_endpointBlock {name : String} {endpoint : Option VlanEndpointConfig}
    {metric : Nat} (hsec : ∀ key, sec.lookup key =
      (lastValue key (endpointBlock name endpoint metric).entries).map trimmed)
    (hplain : ∀ s ∈ endpointTexts endpoint, Plain s) :
    parseVlanEndpoint sec = endpoint.bind (·.inFile) := by
  cases endpoint with
  | none =>
      have hid : sec.lookup "id" = some "0" := hsec "id"
      unfold parseVlanEndpoint
      rw [hid]
      rfl
  | some ep =>
      have hid : sec.lookup "id" = some (trimmed (toString ep.vlanId)) := hsec "id"
      have hmode4 : sec.lookup "ipv4_mode" = some (trimmed (ipv4ModeStr ep.ipv4Mode)) :=
        hsec "ipv4_mode"
      have hmode6 : sec.lookup "ipv6_mode" =
          some (trimmed (ipv6ModeStr (ep.ipv6Mode.getD .slaac))) := hsec "ipv6_mode"
      rw [(plain_toString ep.vlanId).trimmed] at hid
      rw [trimmed_ipv4ModeStr] at hmode4
      rw [trimmed_ipv6ModeStr] at hmode6
      have hparse : ((sec.lookup "id").bind fun s => parseU16 s.toList) =
          if ep.vlanId < 2 ^ 16 then some ep.vlanId else none := by
        rw [hid]
        exact Lib.Text.parseU16_repr ep.vlanId
      have hipv6 : ∀ m, ((some (ipv6ModeStr m)).map parseIpv6Mode).filter (fun m' =>
          decide (m' ≠ .slaac ∨ (some (ipv6ModeStr m)).any (· ≠ "disabled") = true)) = some m := by
        intro m
        cases m <;> rfl
      unfold parseVlanEndpoint
      simp only [hparse, hmode4, hmode6, hipv6, Option.getD_some, parseIpv4Mode_ipv4ModeStr,
        staticIpv4_of_endpointBlock hsec hplain]
      change _ = ep.inFile
      unfold VlanEndpointConfig.inFile
      by_cases hlt : ep.vlanId < 2 ^ 16
      · by_cases hzero : ep.vlanId = 0
        · rw [if_pos hlt, if_pos (Or.inl hzero)]
          exact if_pos hzero
        · have hid : ¬ (ep.vlanId = 0 ∨ 2 ^ 16 ≤ ep.vlanId) := by omega
          rw [if_pos hlt, if_neg hid]
          exact if_neg hzero
      · rw [if_neg hlt, if_pos (Or.inr (by omega))]
        rfl

/-! ## The round trip -/

theorem newline_not_mem_intercalate {ss : List String} (h : ∀ s ∈ ss, '\n' ∉ s.toList) :
    '\n' ∉ (" ".intercalate ss).toList := by
  intro hmem
  rw [String.toList_intercalate] at hmem
  rcases Lib.Text.mem_intercalate hmem with hsep | ⟨l, hl, hc⟩
  · cases hsep with
    | tail _ h => cases h
  · obtain ⟨s, hs, rfl⟩ := List.mem_map.mp hl
    exact h s hs hc

theorem Plain.getD {o : Option String} (h : ∀ s ∈ o.toList, Plain s) {default : String}
    (hd : Plain default) : Plain (o.getD default) := by
  cases o with
  | none => exact hd
  | some s => exact h s (by simp)

theorem plain_ipv4ModeStr (m : IpV4Mod) : Plain (ipv4ModeStr m) := by cases m <;> decide

theorem plain_ipv6ModeStr (m : IpV6Mod) : Plain (ipv6ModeStr m) := by cases m <;> decide

def sectionNames : List String :=
  ["interface", "system", "dhcp", "ipv4", "ipv6", "dns", "vlan", "vlan.primary", "vlan.secondary"]

def keyNames : List String :=
  ["name", "hostname", "domain", "client", "mode", "address", "netmask", "gateway", "dns", "prefix",
    "servers", "enabled", "parent", "apply_mode", "id", "ipv4_mode", "ipv4_address", "ipv4_netmask",
    "ipv4_gateway", "ipv4_dns", "ipv6_mode", "ipv6_prefix", "ipv6_gateway", "ipv6_dns",
    "route_metric"]

def fixedValues : List String :=
  ["", "0", "eth0", "arkkvm", "dhcp", "udhcpc", "static", "slaac", "disabled", "true", "false"]

/-- A value of the file: one that the printer knows, a text of the configuration, a list of
such texts or a number. -/
inductive Printed (c : NetworkConfig) (mode : String) : String → Prop
  | fixed {v : String} : v ∈ fixedValues → Printed c mode v
  | text {v : String} : v ∈ texts c → Printed c mode v
  | mode : Printed c mode mode
  | servers {ss : List String} : (∀ s ∈ ss, s ∈ texts c) → Printed c mode (" ".intercalate ss)
  | number (n : Nat) : Printed c mode (toString n)

def PrintedEntry (c : NetworkConfig) (mode : String) (e : String × String) : Prop :=
  e.1 ∈ keyNames ∧ Printed c mode e.2

def PrintedBlock (c : NetworkConfig) (mode : String) (b : Block) : Prop :=
  b.name ∈ sectionNames ∧ ∀ e ∈ b.entries, PrintedEntry c mode e

section PrintedEntries

variable {c : NetworkConfig} {mode : String}

theorem PrintedEntry.of {key v : String} (hkey : key ∈ keyNames) (h : Printed c mode v) :
    PrintedEntry c mode (key, v) := ⟨hkey, h⟩

theorem PrintedEntry.fixed {key v : String} (h : key ∈ keyNames ∧ v ∈ fixedValues) :
    PrintedEntry c mode (key, v) := ⟨h.1, .fixed h.2⟩

theorem PrintedEntry.text {key v : String} (hkey : key ∈ keyNames) (h : v ∈ texts c) :
    PrintedEntry c mode (key, v) := ⟨hkey, .text h⟩

theorem PrintedEntry.getD {key default : String} (h : key ∈ keyNames ∧ default ∈ fixedValues)
    {o : Option String} (ho : ∀ v ∈ o, v ∈ texts c) :
    PrintedEntry c mode (key, o.getD default) := by
  cases o with
  | none => exact .fixed h
  | some v => exact .text h.1 (ho v rfl)

theorem ipv4ModeStr_mem (m : IpV4Mod) : ipv4ModeStr m ∈ fixedValues := by cases m <;> decide

theorem ipv6ModeStr_mem (m : IpV6Mod) : ipv6ModeStr m ∈ fixedValues := by cases m <;> decide

theorem printed_staticEntries {s : StaticIpConfig} (hgateway : s.gateway ∈ texts c)
    (hdns : ∀ t ∈ s.dnsServers, t ∈ texts c) :
    ∀ e ∈ staticEntries s, PrintedEntry c mode e := by
  unfold staticEntries
  rw [List.forall_mem_cons]
  refine ⟨.text (by decide) hgateway, ?_⟩
  split
  · rw [List.forall_mem_singleton]
    exact .of (by decide) (.servers hdns)
  · simp

theorem printed_ipv4Block (h : ∀ t ∈ staticTexts c.staticIpv4, t ∈ texts c) :
    ∀ e ∈ (ipv4Block c).entries, PrintedEntry c mode e := by
  unfold ipv4Block
  cases hs : c.staticIpv4 with
  | none =>
      simp only [List.forall_mem_cons]
      exact ⟨.fixed ⟨by decide, ipv4ModeStr_mem _⟩, .fixed (by decide), .fixed (by decide),
        .fixed (by decide), .fixed (by decide), by simp⟩
  | some s =>
      rw [hs] at h
      change ∀ t ∈ s.ipAddress :: s.subnetMask :: s.gateway :: s.dnsServers, t ∈ texts c at h
      simp only [List.forall_mem_cons] at h ⊢
      exact ⟨.fixed ⟨by decide, ipv4ModeStr_mem _⟩, .text (by decide) h.1,
        .text (by decide) h.2.1, printed_staticEntries h.2.2.1 h.2.2.2⟩

theorem printed_ipv6Block (h : ∀ t ∈ ipv6Texts c.staticIpv6, t ∈ texts c) :
    ∀ e ∈ (ipv6Block c).entries, PrintedEntry c mode e := by
  unfold ipv6Block
  cases hs : c.staticIpv6 with
  | none =>
      simp only [List.forall_mem_cons]
      exact ⟨.fixed ⟨by decide, ipv6ModeStr_mem _⟩, .fixed (by decide), .fixed (by decide),
        .fixed (by decide), by simp⟩
  | some s =>
      rw [hs] at h
      change ∀ t ∈ s.ipAddress :: s.gateway :: s.dnsServers, t ∈ texts c at h
      simp only [List.forall_mem_cons] at h ⊢
      exact ⟨.fixed ⟨by decide, ipv6ModeStr_mem _⟩, .text (by decide) h.1,
        printed_staticEntries h.2.1 h.2.2⟩

theorem printed_endpointBlock (name : String) {endpoint : Option VlanEndpointConfig}
    (metric : Nat) (h : ∀ t ∈ endpointTexts endpoint, t ∈ texts c) :
    ∀ e ∈ (endpointBlock name endpoint metric).entries, PrintedEntry c mode e := by
  have hmetric : PrintedEntry c mode ("route_metric", toString metric) :=
    .of (by decide) (.number metric)
  cases endpoint with
  | none =>
      unfold endpointBlock
      simp only [List.forall_mem_cons]
      exact ⟨.fixed (by decide), .fixed (by decide), .fixed (by decide), .fixed (by decide),
        .fixed (by decide), .fixed (by decide), .fixed (by decide), .fixed (by decide),
        .fixed (by decide), .fixed (by decide), hmetric, by simp⟩
  | some ep =>
      have hs : ∀ key ∈ keyNames, ∀ v ∈ [(ep.staticIpv4.getD ⟨"", "", "", []⟩).ipAddress,
          (ep.staticIpv4.getD ⟨"", "", "", []⟩).subnetMask,
          (ep.staticIpv4.getD ⟨"", "", "", []⟩).gateway], PrintedEntry c mode (key, v) := by
        unfold endpointTexts staticTexts at h
        intro key hkey v hv
        cases hep : ep.staticIpv4 with
        | none =>
            rw [hep] at hv
            have hempty : v = "" := by simpa using hv
            exact .fixed ⟨hkey, hempty ▸ (by decide)⟩
        | some s =>
            rw [hep] at hv
            apply PrintedEntry.text hkey
            apply h
            simp [hep] at hv ⊢
            tauto
      have hdns : PrintedEntry c mode
          ("ipv4_dns", " ".intercalate (ep.staticIpv4.getD ⟨"", "", "", []⟩).dnsServers) := by
        refine .of (by decide) (.servers fun t ht => ?_)
        unfold endpointTexts staticTexts at h
        cases hep : ep.staticIpv4 with
        | none =>
            rw [hep] at ht
            cases ht
        | some s =>
            rw [hep] at ht
            apply h
            simp [hep] at ht ⊢
            tauto
      unfold endpointBlock endpointEntries
      simp only [List.forall_mem_cons]
      exact ⟨.of (by decide) (.number _), .fixed ⟨by decide, ipv4ModeStr_mem _⟩,
        hs _ (by decide) _ (by simp), hs _ (by decide) _ (by simp), hs _ (by decide) _ (by simp),
        hdns, .fixed ⟨by decide, ipv6ModeStr_mem _⟩, .fixed (by decide), .fixed (by decide),
        .fixed (by decide), hmetric, by simp⟩

end PrintedEntries

theorem printed_blocks (c : NetworkConfig) (mode : String) :
    ∀ b ∈ blocks c mode, PrintedBlock c mode b := by
  have hsystem : ∀ e ∈ [("hostname", c.hostname.getD "arkkvm"), ("domain", c.domain.getD "dhcp")],
      PrintedEntry c mode e := by
    simp only [List.forall_mem_cons]
    exact ⟨.getD (by decide) fun v hv => by simp [texts, Option.mem_def.mp hv],
      .getD (by decide) fun v hv => by simp [texts, Option.mem_def.mp hv], by simp⟩
  have hvlan : ∀ e ∈ [("enabled", if c.vlanSettings.vlanEnabled then "true" else "false"),
      ("parent", "eth0"), ("apply_mode", mode)], PrintedEntry c mode e := by
    simp only [List.forall_mem_cons]
    refine ⟨?_, .fixed (by decide), .of (by decide) .mode, by simp⟩
    cases c.vlanSettings.vlanEnabled
    · exact .fixed (by decide)
    · exact .fixed (by decide)
  have h4 : ∀ t ∈ staticTexts c.staticIpv4, t ∈ texts c := fun t ht => by simp [texts, ht]
  have h6 : ∀ t ∈ ipv6Texts c.staticIpv6, t ∈ texts c := fun t ht => by simp [texts, ht]
  have hprimary : ∀ t ∈ endpointTexts c.vlanSettings.primaryVlan, t ∈ texts c :=
    fun t ht => by simp [texts, ht]
  have hsecondary : ∀ t ∈ endpointTexts c.vlanSettings.secondaryVlan, t ∈ texts c :=
    fun t ht => by simp [texts, ht]
  have hsingle : ∀ {name key v : String}, name ∈ sectionNames →
      key ∈ keyNames ∧ v ∈ fixedValues → PrintedBlock c mode ⟨name, [(key, v)]⟩ := by
    intro name key v hname he
    refine ⟨hname, ?_⟩
    rw [List.forall_mem_singleton]
    exact .fixed he
  have hname : ∀ {name : String}, name ∈ sectionNames → ∀ {entries : List (String × String)},
      (∀ e ∈ entries, PrintedEntry c mode e) → PrintedBlock c mode ⟨name, entries⟩ :=
    fun hname _ hentries => ⟨hname, hentries⟩
  unfold blocks
  simp only [List.forall_mem_cons]
  exact ⟨hsingle (by decide) (by decide), hname (by decide) hsystem,
    hsingle (by decide) (by decide), hname (by decide) (printed_ipv4Block h4),
    hname (by decide) (printed_ipv6Block h6), hsingle (by decide) (by decide),
    hname (by decide) hvlan,
    hname (by decide) (printed_endpointBlock "vlan.primary" 0 hprimary),
    hname (by decide) (printed_endpointBlock "vlan.secondary" 200 hsecondary), by simp⟩

theorem newline_not_mem_printed {c : NetworkConfig} {mode : String} (hmode : '\n' ∉ mode.toList)
    (h : ∀ s ∈ texts c, '\n' ∉ s.toList) {v : String} (hv : Printed c mode v) :
    '\n' ∉ v.toList := by
  cases hv with
  | fixed hv =>
      have hall : ∀ v ∈ fixedValues, '\n' ∉ v.toList := by decide
      exact hall v hv
  | text hv => exact h v hv
  | mode => exact hmode
  | servers hss => exact newline_not_mem_intercalate fun s hs => h s (hss s hs)
  | number n => exact (plain_toString n).1

theorem proper_blocks {c : NetworkConfig} {mode : String} (hmode : '\n' ∉ mode.toList)
    (h : ∀ s ∈ texts c, '\n' ∉ s.toList) : ∀ b ∈ blocks c mode, b.Proper := by
  have hnames : ∀ name ∈ sectionNames, Lib.Ini.IsName name := by decide
  have hkeys : ∀ key ∈ keyNames, Lib.Ini.IsName key := by decide
  intro b hb
  obtain ⟨hname, hentries⟩ := printed_blocks c mode b hb
  refine ⟨hnames _ hname, fun e he => ?_⟩
  obtain ⟨hkey, hv⟩ := hentries e he
  exact ⟨hkeys _ hkey, newline_not_mem_printed hmode h hv⟩

theorem lookup_printed {c : NetworkConfig} {mode : String} (hmode : '\n' ∉ mode.toList)
    (h : ∀ s ∈ texts c, Plain s) (name key : String) :
    (sectionOf (parseIni (networkConfigToIni c mode)) name).lookup key =
      (valueOf name key (blocks c mode)).map trimmed := by
  have hcomment : ∀ r : Lib.Ini.Reading, comment.foldl Lib.Ini.Reading.line r = r := by
    intro r
    simp [comment, Lib.Ini.line_comment, Lib.Ini.line_blank]
  unfold parseIni
  rw [toList_networkConfigToIni]
  exact Lib.Ini.lookup_parse hcomment (by decide)
    (proper_blocks hmode fun s hs => (h s hs).1) name key

section Sections

variable (c : NetworkConfig) (mode key : String)

theorem valueOf_system : valueOf "system" key (blocks c mode) =
    lastValue key [("hostname", c.hostname.getD "arkkvm"), ("domain", c.domain.getD "dhcp")] := by
  simp [blocks, valueOf, ipv4Block, ipv6Block, endpointBlock]

theorem valueOf_ipv4 :
    valueOf "ipv4" key (blocks c mode) = lastValue key (ipv4Block c).entries := by
  simp [blocks, valueOf, ipv4Block, ipv6Block, endpointBlock]

theorem valueOf_ipv6 :
    valueOf "ipv6" key (blocks c mode) = lastValue key (ipv6Block c).entries := by
  simp [blocks, valueOf, ipv4Block, ipv6Block, endpointBlock]

theorem valueOf_vlan : valueOf "vlan" key (blocks c mode) =
    lastValue key [("enabled", if c.vlanSettings.vlanEnabled then "true" else "false"),
      ("parent", "eth0"), ("apply_mode", mode)] := by
  simp [blocks, valueOf, ipv4Block, ipv6Block, endpointBlock]

theorem valueOf_vlanPrimary : valueOf "vlan.primary" key (blocks c mode) =
    lastValue key (endpointBlock "vlan.primary" c.vlanSettings.primaryVlan 0).entries := by
  simp [blocks, valueOf, ipv4Block, ipv6Block, endpointBlock]

theorem valueOf_vlanSecondary : valueOf "vlan.secondary" key (blocks c mode) =
    lastValue key (endpointBlock "vlan.secondary" c.vlanSettings.secondaryVlan 200).entries := by
  simp [blocks, valueOf, ipv4Block, ipv6Block, endpointBlock]

end Sections

theorem mode_of_lookup {m : String} (h : sec.lookup "mode" = some (trimmed m)) (hm : Plain m)
    (default : String) : (sec.lookup "mode").getD default = m := by
  rw [h, hm.trimmed]
  rfl

theorem lastValue_staticEntries (s : StaticIpConfig) (key : String) :
    lastValue key (staticEntries s) =
      if key = "gateway" then some s.gateway
      else if key = "dns" ∧ s.dnsServers ≠ [] then some (" ".intercalate s.dnsServers)
      else none := by
  unfold staticEntries
  by_cases hdns : s.dnsServers = []
  · simp [hdns, lastValue, eq_comm]
  · simp [hdns, lastValue]
    grind

theorem getList_staticEntries {s : StaticIpConfig}
    (h : sec.lookup "dns" = (lastValue "dns" (staticEntries s)).map trimmed) :
    getList sec "dns" = s.dnsServers.flatMap words := by
  rw [lastValue_staticEntries] at h
  by_cases hdns : s.dnsServers = []
  · rw [getList, getStr, h]
    simp [hdns]
  · rw [getList_of_lookup (v := " ".intercalate s.dnsServers) (by rw [h]; simp [hdns]),
      words_intercalate]

theorem parseStaticIpv4_ipv4Block {c : NetworkConfig}
    (hsec : ∀ key, sec.lookup key = (lastValue key (ipv4Block c).entries).map trimmed)
    (hplain : ∀ s ∈ staticTexts c.staticIpv4, Plain s) :
    parseStaticIpv4 sec =
      c.staticIpv4.bind fun s => if s.ipAddress = "" then none else some s.inFile := by
  unfold ipv4Block at hsec
  cases hs : c.staticIpv4 with
  | none =>
      rw [hs] at hsec
      have haddress : sec.lookup "address" = some (trimmed "") := hsec "address"
      unfold parseStaticIpv4
      rw [getStr_of_lookup haddress (by decide)]
      rfl
  | some s =>
      rw [hs] at hsec hplain
      change ∀ t ∈ s.ipAddress :: s.subnetMask :: s.gateway :: s.dnsServers, Plain t at hplain
      simp only [List.forall_mem_cons] at hplain
      have hlookup := fun key => lastValue_staticEntries s key
      have haddress : sec.lookup "address" = some (trimmed s.ipAddress) := by
        rw [hsec]
        simp [lastValue, hlookup]
      have hnetmask : sec.lookup "netmask" = some (trimmed s.subnetMask) := by
        rw [hsec]
        simp [lastValue, hlookup]
      have hgateway : sec.lookup "gateway" = some (trimmed s.gateway) := by
        rw [hsec]
        simp [lastValue, hlookup]
      have hdns : sec.lookup "dns" = (lastValue "dns" (staticEntries s)).map trimmed := by
        rw [hsec]
        simp [lastValue]
      unfold parseStaticIpv4
      rw [getStr_of_lookup haddress hplain.1, getStr_getD_of_lookup hnetmask hplain.2.1,
        getStr_getD_of_lookup hgateway hplain.2.2.1, getList_staticEntries hdns, ite_empty]
      change _ = if s.ipAddress = "" then none else some s.inFile
      by_cases hip : s.ipAddress = ""
      · rw [if_pos hip, if_pos hip]
        rfl
      · rw [if_neg hip, if_neg hip]
        rfl

theorem parseStaticIpv6_ipv6Block {c : NetworkConfig}
    (hsec : ∀ key, sec.lookup key = (lastValue key (ipv6Block c).entries).map trimmed)
    (hplain : ∀ s ∈ ipv6Texts c.staticIpv6, Plain s) :
    parseStaticIpv6 sec = c.staticIpv6.bind fun s =>
      if s.ipAddress = "" then none else some { s.inFile with subnetMask := "" } := by
  unfold ipv6Block at hsec
  cases hs : c.staticIpv6 with
  | none =>
      rw [hs] at hsec
      have hprefix : sec.lookup "prefix" = some (trimmed "") := hsec "prefix"
      unfold parseStaticIpv6
      rw [getStr_of_lookup hprefix (by decide)]
      rfl
  | some s =>
      rw [hs] at hsec hplain
      change ∀ t ∈ s.ipAddress :: s.gateway :: s.dnsServers, Plain t at hplain
      simp only [List.forall_mem_cons] at hplain
      have hlookup := fun key => lastValue_staticEntries s key
      have hprefix : sec.lookup "prefix" = some (trimmed s.ipAddress) := by
        rw [hsec]
        simp [lastValue, hlookup]
      have hgateway : sec.lookup "gateway" = some (trimmed s.gateway) := by
        rw [hsec]
        simp [lastValue, hlookup]
      have hdns : sec.lookup "dns" = (lastValue "dns" (staticEntries s)).map trimmed := by
        rw [hsec]
        simp [lastValue]
      unfold parseStaticIpv6
      rw [getStr_of_lookup hprefix hplain.1, getStr_getD_of_lookup hgateway hplain.2.1,
        getList_staticEntries hdns, ite_empty]
      change _ = if s.ipAddress = "" then none else some { s.inFile with subnetMask := "" }
      by_cases hip : s.ipAddress = ""
      · rw [if_pos hip, if_pos hip]
        rfl
      · rw [if_neg hip, if_neg hip]
        rfl

theorem lastValue_mode_ipv4Block (c : NetworkConfig) :
    lastValue "mode" (ipv4Block c).entries = some (ipv4ModeStr c.ipv4Mode) := by
  unfold ipv4Block
  cases c.staticIpv4 <;> simp [lastValue, lastValue_staticEntries]

theorem lastValue_mode_ipv6Block (c : NetworkConfig) :
    lastValue "mode" (ipv6Block c).entries = some (ipv6ModeStr c.ipv6Mode) := by
  unfold ipv6Block
  cases c.staticIpv6 <;> simp [lastValue, lastValue_staticEntries]

theorem iniToNetworkConfig_networkConfigToIni {c : NetworkConfig} {mode : String}
    (hmode : '\n' ∉ mode.toList) (h : ∀ s ∈ texts c, Plain s) :
    iniToNetworkConfig (networkConfigToIni c mode) = c.inFile := by
  have hsec := lookup_printed hmode h
  simp only [texts, List.forall_mem_append] at h
  obtain ⟨⟨⟨⟨⟨hhost, hdomain⟩, h4⟩, h6⟩, hprimary⟩, hsecondary⟩ := h
  unfold iniToNetworkConfig
  generalize parseIni (networkConfigToIni c mode) = sections at hsec
  have hhostname := hsec "system" "hostname"
  have hdomainname := hsec "system" "domain"
  have hipv4 := hsec "ipv4"
  have hipv6 := hsec "ipv6"
  have henabled := hsec "vlan" "enabled"
  have hvlan1 := hsec "vlan.primary"
  have hvlan2 := hsec "vlan.secondary"
  simp only [valueOf_system, valueOf_ipv4, valueOf_ipv6, valueOf_vlan, valueOf_vlanPrimary,
    valueOf_vlanSecondary] at hhostname hdomainname hipv4 hipv6 henabled hvlan1 hvlan2
  have hmode4 := hipv4 "mode"
  have hmode6 := hipv6 "mode"
  rw [lastValue_mode_ipv4Block] at hmode4
  rw [lastValue_mode_ipv6Block] at hmode6
  have hbool : getBool (sectionOf sections "vlan") "enabled" false =
      c.vlanSettings.vlanEnabled := by
    have htext : (sectionOf sections "vlan").lookup "enabled" =
        some (trimmed (if c.vlanSettings.vlanEnabled then "true" else "false")) := henabled
    unfold getBool
    rw [htext]
    cases c.vlanSettings.vlanEnabled <;> decide
  simp only [getStr_of_lookup hhostname (Plain.getD hhost (by decide)),
    getStr_of_lookup hdomainname (Plain.getD hdomain (by decide)),
    mode_of_lookup hmode4 (plain_ipv4ModeStr _), mode_of_lookup hmode6 (plain_ipv6ModeStr _),
    parseIpv4Mode_ipv4ModeStr, parseIpv6Mode_ipv6ModeStr, parseStaticIpv4_ipv4Block hipv4 h4,
    parseStaticIpv6_ipv6Block hipv6 h6, hbool, parseVlanEndpoint_endpointBlock hvlan1 hprimary,
    parseVlanEndpoint_endpointBlock hvlan2 hsecondary]
  rfl

/-! ## The form in which the file keeps a configuration -/

theorem words_of_solid {s : String} (hne : s ≠ "")
    (h : ∀ c ∈ s.toList, Lib.Text.isWhiteSpace c = false) : words s = [s] := by
  unfold words
  rw [Lib.Text.splitWhitespace_of_solid h (by simpa using hne)]
  simp

theorem solid_of_mem_words {s w : String} (h : w ∈ words s) :
    w ≠ "" ∧ ∀ c ∈ w.toList, Lib.Text.isWhiteSpace c = false := by
  obtain ⟨l, hl, rfl⟩ := List.mem_map.mp h
  obtain ⟨hne, hsolid⟩ := Lib.Text.splitWhitespace_solid hl
  rw [String.toList_ofList]
  exact ⟨by simpa [← String.toList_inj] using hne, hsolid⟩

theorem flatMap_words_of_solid {ss : List String}
    (h : ∀ s ∈ ss, s ≠ "" ∧ ∀ c ∈ s.toList, Lib.Text.isWhiteSpace c = false) :
    ss.flatMap words = ss := by
  induction ss with
  | nil => rfl
  | cons s ss ih =>
      obtain ⟨hs, hss⟩ := List.forall_mem_cons.mp h
      rw [List.flatMap_cons, words_of_solid hs.1 hs.2, ih hss]
      rfl

theorem flatMap_words_words (s : String) : (words s).flatMap words = words s :=
  flatMap_words_of_solid fun _ hw => solid_of_mem_words hw

theorem getStr_ne_empty (sec : Section) (key : String) {v : String}
    (h : getStr sec key = some v) : v ≠ "" := by
  simpa using (Option.filter_eq_some_iff.mp h).2

theorem inFile_parsed (sec : Section) (ip netmask gateway dns : String) :
    ({ ipAddress := (getStr sec ip).getD ""
       subnetMask := (getStr sec netmask).getD "255.255.255.0"
       gateway := (getStr sec gateway).getD ""
       dnsServers := getList sec dns } : StaticIpConfig).inFile =
      { ipAddress := (getStr sec ip).getD ""
        subnetMask := (getStr sec netmask).getD "255.255.255.0"
        gateway := (getStr sec gateway).getD ""
        dnsServers := getList sec dns } := by
  have hmask : (getStr sec netmask).getD "255.255.255.0" ≠ "" := by
    cases h : getStr sec netmask with
    | none => decide
    | some v => exact getStr_ne_empty sec netmask h
  have hdns : (getList sec dns).flatMap words = getList sec dns := by
    unfold getList
    cases getStr sec dns with
    | none => rfl
    | some v => exact flatMap_words_words v
  unfold StaticIpConfig.inFile
  rw [if_neg hmask, hdns]

theorem inFile_parseVlanEndpoint {sec : Section} {ep : VlanEndpointConfig}
    (h : parseVlanEndpoint sec = some ep) : ep.inFile = some ep := by
  unfold parseVlanEndpoint at h
  obtain ⟨id, hid, h⟩ := Option.bind_eq_some_iff.mp h
  obtain ⟨s, -, hparse⟩ := Option.bind_eq_some_iff.mp hid
  have hlt : id < 2 ^ 16 := by simpa using (Option.filter_eq_some_iff.mp hparse).2
  split at h
  · cases h
  · next hzero =>
      cases h
      have hid : ¬ (id = 0 ∨ 2 ^ 16 ≤ id) := by omega
      unfold VlanEndpointConfig.inFile
      dsimp only
      rw [if_neg hid]
      split
      · simp only [Option.getD_some, inFile_parsed]
      · rfl

theorem staticIpv4_read (content : String) : (iniToNetworkConfig content).staticIpv4 =
    if (iniToNetworkConfig content).ipv4Mode = .static then
      parseStaticIpv4 (sectionOf (parseIni content) "ipv4") else none := rfl

theorem staticIpv6_read (content : String) : (iniToNetworkConfig content).staticIpv6 =
    if (iniToNetworkConfig content).ipv6Mode = .static then
      parseStaticIpv6 (sectionOf (parseIni content) "ipv6") else none := rfl

theorem inFile_vlanSettings (content : String) :
    (iniToNetworkConfig content).vlanSettings.inFile =
      (iniToNetworkConfig content).vlanSettings := by
  have hbind : ∀ sec, (parseVlanEndpoint sec).bind (·.inFile) = parseVlanEndpoint sec := by
    intro sec
    cases h : parseVlanEndpoint sec with
    | none => rfl
    | some ep => exact inFile_parseVlanEndpoint h
  unfold VlanSettings.inFile iniToNetworkConfig
  simp only [hbind]

theorem inFile_parseStaticIpv4 {sec : Section} {s : StaticIpConfig}
    (h : parseStaticIpv4 sec = some s) : s.ipAddress ≠ "" ∧ s.inFile = s := by
  unfold parseStaticIpv4 at h
  obtain ⟨ip, hip, h⟩ := Option.bind_eq_some_iff.mp h
  cases h
  have hparsed := inFile_parsed sec "address" "netmask" "gateway" "dns"
  rw [hip] at hparsed
  exact ⟨getStr_ne_empty sec "address" hip, hparsed⟩

theorem inFile_parseStaticIpv6 {sec : Section} {s : StaticIpConfig}
    (h : parseStaticIpv6 sec = some s) :
    s.ipAddress ≠ "" ∧ { s.inFile with subnetMask := "" } = s := by
  unfold parseStaticIpv6 at h
  obtain ⟨pre, hpre, rfl⟩ := Option.map_eq_some_iff.mp h
  have hdns := congrArg StaticIpConfig.dnsServers
    (inFile_parsed sec "prefix" "netmask" "gateway" "dns")
  refine ⟨getStr_ne_empty sec "prefix" hpre, ?_⟩
  unfold StaticIpConfig.inFile at hdns ⊢
  dsimp only at hdns ⊢
  rw [hdns]

theorem nonBlank_getD {o : Option String} (h : ∀ s, o = some s → s ≠ "") {default : String}
    (hd : default ≠ "") : nonBlank (o.getD default) = some (o.getD default) := by
  apply if_neg
  cases o with
  | none => exact hd
  | some s => exact h s rfl

/-- A configuration that was read is in the form of the file, but for names that are
missing. -/
theorem inFile_read (content : String) :
    (iniToNetworkConfig content).inFile = { iniToNetworkConfig content with
      hostname := some ((iniToNetworkConfig content).hostname.getD "arkkvm")
      domain := some ((iniToNetworkConfig content).domain.getD "dhcp") } := by
  have hhostname := nonBlank_getD (o := (iniToNetworkConfig content).hostname)
    (fun s h => getStr_ne_empty _ _ h) (show "arkkvm" ≠ "" by decide)
  have hdomain := nonBlank_getD (o := (iniToNetworkConfig content).domain)
    (fun s h => getStr_ne_empty _ _ h) (show "dhcp" ≠ "" by decide)
  have h4 : (if (iniToNetworkConfig content).ipv4Mode = .static then
      (iniToNetworkConfig content).staticIpv4.bind fun s =>
        if s.ipAddress = "" then none else some s.inFile
      else none) = (iniToNetworkConfig content).staticIpv4 := by
    rw [staticIpv4_read]
    split
    · cases h : parseStaticIpv4 (sectionOf (parseIni content) "ipv4") with
      | none => rfl
      | some s =>
          obtain ⟨hip, hkept⟩ := inFile_parseStaticIpv4 h
          rw [Option.bind_some, if_neg hip, hkept]
    · rfl
  have h6 : (if (iniToNetworkConfig content).ipv6Mode = .static then
      (iniToNetworkConfig content).staticIpv6.bind fun s =>
        if s.ipAddress = "" then none else some { s.inFile with subnetMask := "" }
      else none) = (iniToNetworkConfig content).staticIpv6 := by
    rw [staticIpv6_read]
    split
    · cases h : parseStaticIpv6 (sectionOf (parseIni content) "ipv6") with
      | none => rfl
      | some s =>
          obtain ⟨hip, hkept⟩ := inFile_parseStaticIpv6 h
          rw [Option.bind_some, if_neg hip, hkept]
    · rfl
  unfold NetworkConfig.inFile
  rw [hhostname, hdomain, h4, h6, inFile_vlanSettings]
  rfl

theorem plain_of_mem_texts_parsed (content : String) :
    ∀ s ∈ texts (iniToNetworkConfig content), Plain s := by
  have hlookup : ∀ name key v, (sectionOf (parseIni content) name).lookup key = some v → Plain v :=
    fun _ _ _ h => Lib.Ini.plain_of_lookup_parse h
  have hstr : ∀ name key v, getStr (sectionOf (parseIni content) name) key = some v → Plain v :=
    fun name key v h => hlookup name key v (Option.filter_eq_some_iff.mp h).1
  have hgetD : ∀ name key default, Plain default →
      Plain ((getStr (sectionOf (parseIni content) name) key).getD default) := by
    intro name key default hd
    cases h : getStr (sectionOf (parseIni content) name) key with
    | none => exact hd
    | some v => exact hstr name key v h
  have hlist : ∀ name key, ∀ v ∈ getList (sectionOf (parseIni content) name) key, Plain v := by
    intro name key v hv
    unfold getList at hv
    cases h : getStr (sectionOf (parseIni content) name) key with
    | none =>
        rw [h] at hv
        cases hv
    | some text =>
        rw [h] at hv
        exact plain_of_solid (solid_of_mem_words hv).2
  have hstatic4 : ∀ v ∈ staticTexts (iniToNetworkConfig content).staticIpv4, Plain v := by
    unfold iniToNetworkConfig
    dsimp only
    split
    · unfold parseStaticIpv4
      cases h : getStr (sectionOf (parseIni content) "ipv4") "address" with
      | none => exact fun v hv => by cases hv
      | some ip =>
          change ∀ v ∈ ip :: _ :: _ :: _, Plain v
          simp only [List.forall_mem_cons]
          exact ⟨hstr _ _ _ h, hgetD _ _ _ (by decide), hgetD _ _ _ (by decide), hlist _ _⟩
    · exact fun v hv => by cases hv
  have hstatic6 : ∀ v ∈ ipv6Texts (iniToNetworkConfig content).staticIpv6, Plain v := by
    unfold iniToNetworkConfig
    dsimp only
    split
    · unfold parseStaticIpv6
      cases h : getStr (sectionOf (parseIni content) "ipv6") "prefix" with
      | none => exact fun v hv => by cases hv
      | some ip =>
          change ∀ v ∈ ip :: _ :: _, Plain v
          simp only [List.forall_mem_cons]
          exact ⟨hstr _ _ _ h, hgetD _ _ _ (by decide), hlist _ _⟩
    · exact fun v hv => by cases hv
  have hendpoint : ∀ name, ∀ v ∈ endpointTexts (parseVlanEndpoint
      (sectionOf (parseIni content) name)), Plain v := by
    intro name
    cases h : parseVlanEndpoint (sectionOf (parseIni content) name) with
    | none => exact fun v hv => by cases hv
    | some ep =>
        unfold parseVlanEndpoint at h
        obtain ⟨id, -, h⟩ := Option.bind_eq_some_iff.mp h
        split at h
        · cases h
        · cases h
          unfold endpointTexts
          rw [Option.bind_some]
          dsimp only
          split
          · change ∀ v ∈ _ :: _ :: _ :: _, Plain v
            simp only [List.forall_mem_cons]
            exact ⟨hgetD _ _ _ (by decide), hgetD _ _ _ (by decide), hgetD _ _ _ (by decide),
              hlist _ _⟩
          · exact fun v hv => by cases hv
  have hopt : ∀ name key, ∀ v ∈ (getStr (sectionOf (parseIni content) name) key).toList,
      Plain v := fun name key v hv => hstr name key v (Option.mem_toList.mp hv)
  unfold texts
  simp only [List.forall_mem_append]
  exact ⟨⟨⟨⟨⟨hopt _ _, hopt _ _⟩, hstatic4⟩, hstatic6⟩, hendpoint _⟩, hendpoint _⟩

end NetworkConf

end ArkKvm
