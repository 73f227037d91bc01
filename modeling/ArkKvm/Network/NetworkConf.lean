import ArkKvm.Config.Types
import ArkKvm.Lib.Ini

/-!
# `network.conf`

The printer and the reader of `network/network_conf.rs`.
-/

namespace ArkKvm

open Lib.Text (parseU16 splitWhitespace)
open Lib.Ini (Section sectionOf)

namespace NetworkConf

/-! ## Reading -/

def parseIni (content : String) : Lib.Ini.Sections := Lib.Ini.parse content.toList

def getStr (sec : Section) (key : String) : Option String := (sec.lookup key).filter (· ≠ "")

def getBool (sec : Section) (key : String) (default : Bool) : Bool :=
  ((sec.lookup key).map fun v => v == "true" || v == "1" || v == "yes").getD default

def parseIpv4Mode (s : String) : IpV4Mod := if s = "static" then .static else .dhcp

def parseIpv6Mode (s : String) : IpV6Mod := if s = "static" then .static else .slaac

def ipv4ModeStr : IpV4Mod → String
  | .dhcp => "dhcp"
  | .static => "static"

def ipv6ModeStr : IpV6Mod → String
  | .slaac => "slaac"
  | .static => "static"

def getList (sec : Section) (key : String) : List String :=
  ((getStr sec key).map fun s => (splitWhitespace s.toList).map String.ofList).getD []

def parseStaticIpv4 (sec : Section) : Option StaticIpConfig := do
  let ip ← getStr sec "address"
  some {
    ipAddress := ip
    subnetMask := (getStr sec "netmask").getD "255.255.255.0"
    gateway := (getStr sec "gateway").getD ""
    dnsServers := getList sec "dns" }

def parseVlanEndpoint (sec : Section) : Option VlanEndpointConfig := do
  let id ← (sec.lookup "id").bind fun s => parseU16 s.toList
  if id = 0 then none
  else
    let ipv4Mode := parseIpv4Mode ((sec.lookup "ipv4_mode").getD "dhcp")
    let ipv6Mode := ((sec.lookup "ipv6_mode").map parseIpv6Mode).filter fun m =>
      m ≠ .slaac ∨ (sec.lookup "ipv6_mode").any (· ≠ "disabled")
    some {
      vlanId := id
      ipv4Mode := ipv4Mode
      ipv6Mode := some (ipv6Mode.getD .slaac)
      staticIpv4 :=
        if ipv4Mode = .static then
          some {
            ipAddress := (getStr sec "ipv4_address").getD ""
            subnetMask := (getStr sec "ipv4_netmask").getD "255.255.255.0"
            gateway := (getStr sec "ipv4_gateway").getD ""
            dnsServers := getList sec "ipv4_dns" }
        else none
      staticIpv6 := none }

def parseStaticIpv6 (sec : Section) : Option StaticIpConfig :=
  (getStr sec "prefix").map fun pre => {
    ipAddress := pre
    subnetMask := ""
    gateway := (getStr sec "gateway").getD ""
    dnsServers := getList sec "dns" }

def iniToNetworkConfig (content : String) : NetworkConfig :=
  let sections := parseIni content
  let sys := sectionOf sections "system"
  let ipv4 := sectionOf sections "ipv4"
  let ipv6 := sectionOf sections "ipv6"
  let vlan := sectionOf sections "vlan"
  let ipv4Mode := parseIpv4Mode ((ipv4.lookup "mode").getD "dhcp")
  let ipv6Mode := parseIpv6Mode ((ipv6.lookup "mode").getD "slaac")
  { hostname := getStr sys "hostname"
    httpProxy := none
    domain := getStr sys "domain"
    ipv4Mode := ipv4Mode
    staticIpv4 := if ipv4Mode = .static then parseStaticIpv4 ipv4 else none
    ipv6Mode := ipv6Mode
    staticIpv6 := if ipv6Mode = .static then parseStaticIpv6 ipv6 else none
    lldpMode := "disabled"
    lldpTxTlvs := []
    mdnsMode := "disabled"
    timeSyncMode := "ntp"
    timeSyncOrdering := []
    timeSyncDisableFallback := false
    timeSyncParallel := 1
    vlanSettings := {
      vlanEnabled := getBool vlan "enabled" false
      primaryVlan := parseVlanEndpoint (sectionOf sections "vlan.primary")
      secondaryVlan := parseVlanEndpoint (sectionOf sections "vlan.secondary") } }

def mergeL3FromFile (base fromFile : NetworkConfig) : NetworkConfig :=
  { base with
    hostname := fromFile.hostname.orElse fun _ => base.hostname
    domain := fromFile.domain.orElse fun _ => base.domain
    ipv4Mode := fromFile.ipv4Mode
    staticIpv4 := fromFile.staticIpv4
    ipv6Mode := fromFile.ipv6Mode
    staticIpv6 := fromFile.staticIpv6
    vlanSettings := fromFile.vlanSettings }

/-! ## Printing -/

def writeVlanEndpointSection (sectionName : String) (endpoint : Option VlanEndpointConfig)
    (defaultMetric : Nat) : String :=
  "[" ++ sectionName ++ "]\n" ++ match endpoint with
    | none =>
        "id=0\nipv4_mode=disabled\nipv4_address=\nipv4_netmask=\nipv4_gateway=\nipv4_dns=\n" ++
        "ipv6_mode=disabled\nipv6_prefix=\nipv6_gateway=\nipv6_dns=\n" ++
        "route_metric=" ++ toString defaultMetric ++ "\n\n"
    | some ep =>
        "id=" ++ toString ep.vlanId ++ "\n" ++
        "ipv4_mode=" ++ ipv4ModeStr ep.ipv4Mode ++ "\n" ++
        (match ep.staticIpv4 with
          | some s =>
              "ipv4_address=" ++ s.ipAddress ++ "\n" ++
              "ipv4_netmask=" ++ s.subnetMask ++ "\n" ++
              "ipv4_gateway=" ++ s.gateway ++ "\n" ++
              (if s.dnsServers ≠ [] then "ipv4_dns=" ++ " ".intercalate s.dnsServers ++ "\n"
                else "ipv4_dns=\n")
          | none => "ipv4_address=\nipv4_netmask=\nipv4_gateway=\nipv4_dns=\n") ++
        "ipv6_mode=" ++ ipv6ModeStr (ep.ipv6Mode.getD .slaac) ++ "\n" ++
        "ipv6_prefix=\nipv6_gateway=\nipv6_dns=\n" ++
        "route_metric=" ++ toString defaultMetric ++ "\n\n"

def ipv4Section (config : NetworkConfig) : String :=
  "[ipv4]\n" ++
  "mode=" ++ ipv4ModeStr config.ipv4Mode ++ "\n" ++
  (match config.staticIpv4 with
    | some s =>
        "address=" ++ s.ipAddress ++ "\n" ++
        "netmask=" ++ s.subnetMask ++ "\n" ++
        "gateway=" ++ s.gateway ++ "\n" ++
        (if s.dnsServers ≠ [] then "dns=" ++ " ".intercalate s.dnsServers ++ "\n" else "")
    | none => "address=\nnetmask=\ngateway=\ndns=\n") ++
  "\n"

def ipv6Section (config : NetworkConfig) : String :=
  "[ipv6]\n" ++
  "mode=" ++ ipv6ModeStr config.ipv6Mode ++ "\n" ++
  (match config.staticIpv6 with
    | some s =>
        "prefix=" ++ s.ipAddress ++ "\n" ++
        "gateway=" ++ s.gateway ++ "\n" ++
        (if s.dnsServers ≠ [] then "dns=" ++ " ".intercalate s.dnsServers ++ "\n" else "")
    | none => "prefix=\ngateway=\ndns=\n") ++
  "\n"

def networkConfigToIni (config : NetworkConfig) (vlanApplyMode : String) : String :=
  "# network.conf — managed by arkkvm_app\n# Apply: refresh-network.sh\n\n" ++
  "[interface]\nname=eth0\n\n" ++
  "[system]\n" ++
  "hostname=" ++ config.hostname.getD "arkkvm" ++ "\n" ++
  "domain=" ++ config.domain.getD "dhcp" ++ "\n\n" ++
  "[dhcp]\nclient=udhcpc\n\n" ++
  ipv4Section config ++
  ipv6Section config ++
  "[dns]\nservers=\n\n" ++
  "[vlan]\n" ++
  "enabled=" ++ (if config.vlanSettings.vlanEnabled then "true" else "false") ++ "\n" ++
  "parent=eth0\n" ++
  "apply_mode=" ++ vlanApplyMode ++ "\n\n" ++
  writeVlanEndpointSection "vlan.primary" config.vlanSettings.primaryVlan 0 ++
  writeVlanEndpointSection "vlan.secondary" config.vlanSettings.secondaryVlan 200

end NetworkConf

end ArkKvm
