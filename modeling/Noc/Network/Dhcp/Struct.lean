import Noc.Foundation.Json

/-!
# DNS and DHCP configuration

The records of `core/network/dhcp/dhcp.c` and their codecs.
-/

namespace Noc
namespace Network

open Foundation
open Foundation.Json

structure DhcpInfo where
  timestamp : Int32 := 0
  mac : Option String := none
  ip : Option String := none
  hostName : Option String := none
  deriving DecidableEq, Repr

structure CustomHostname where
  name : Option String := none
  domain : Option String := none
  ip : Option String := none
  deriving DecidableEq, Repr

/-- A `char **` with its count.  A decoder can store an integer over the
pointer, and the count then counts nothing that can be read. -/
inductive ServerArray where
  | servers (list : List (Option String))
  | overwritten (address : Int32) (count : Nat)
  deriving DecidableEq, Repr

/-- What the count of an array says. -/
def ServerArray.count : ServerArray -> Nat
  | .servers list => list.length
  | .overwritten _ count => count

structure Dns where
  customHostname : List CustomHostname := []
  additionalDns : List (Option String) := []
  forwardingDns : ServerArray := .servers []
  forwardingDnsEnabled : Bool := false
  deriving DecidableEq, Repr

structure Dhcp4 where
  startIp : Option String := none
  pools : Int32 := 0
  relayEnabled : Bool := false
  relayServerAddress : Option String := none
  relayLocalAddress : Option String := none
  staticDhcp4Clients : List DhcpInfo := []
  deriving DecidableEq, Repr

structure DnsDhcp where
  dns : Option Dns := none
  dhcp4 : Option Dhcp4 := none
  deriving DecidableEq, Repr

/-!
## Encoders
-/

def cvtDhcpInfoToJson (info : DhcpInfo) : Json :=
  mkObject
    [("timestamp", ofInt info.timestamp),
     ("mac", ofString info.mac),
     ("ip", ofString info.ip),
     ("host_name", ofString info.hostName)]

def cvtCustomHostnameToJson (customHostname : CustomHostname) : Json :=
  mkObject
    [("name", ofString customHostname.name),
     ("domain", ofString customHostname.domain),
     ("ip", ofString customHostname.ip)]

/-- Encoding an array reads as many pointers as the count says, so an
overwritten array is only readable while its count is zero. -/
def ServerArray.readable : ServerArray -> Bool
  | .servers _ => true
  | .overwritten address count => address == 0 || count == 0

def ServerArray.toJson : ServerArray -> Option Json
  | .servers list => createStringArray list
  | .overwritten address _ => if address = 0 then none else some (arr [])

def cvtDnsToJson (dns : Dns) : Json :=
  mkObject
    [("custom_hostname",
       some (encodeList cvtCustomHostnameToJson dns.customHostname)),
     ("additional_dns", createStringArray dns.additionalDns),
     ("forwarding_dns", dns.forwardingDns.toJson),
     ("forwarding_dns_enabled", ofBool dns.forwardingDnsEnabled)]

def cvtDhcp4ToJson (dhcp4 : Dhcp4) : Json :=
  mkObject
    [("start_ip", ofString dhcp4.startIp),
     ("pools", ofInt dhcp4.pools),
     ("relay_enabled", ofBool dhcp4.relayEnabled),
     ("relay_server_address", ofString dhcp4.relayServerAddress),
     ("relay_local_address", ofString dhcp4.relayLocalAddress),
     ("static_dhcp4_clients",
       some (encodeList cvtDhcpInfoToJson dhcp4.staticDhcp4Clients))]

/-- Defined for a configuration whose server arrays are readable. -/
def cvtDnsDhcpToJson (dnsDhcp : DnsDhcp) : Json :=
  mkObject
    [("dns", dnsDhcp.dns.map cvtDnsToJson),
     ("dhcp4", dnsDhcp.dhcp4.map cvtDhcp4ToJson)]

/-!
## Decoders
-/

def cvtJsonToDhcpInfo (json : Option Json) : DhcpInfo :=
  { timestamp := readInt json "timestamp"
    mac := readString json "mac"
    ip := readString json "ip"
    hostName := readString json "host_name" }

def cvtJsonToCustomHostname (json : Option Json) : CustomHostname :=
  { name := readString json "name"
    domain := readString json "domain"
    ip := readString json "ip" }

/-- A member `custom_hostname` that counts no items ends the decoder early. -/
def cvtJsonToDns (json : Option Json) : Option Dns :=
  let customHostname := getItem json "custom_hostname"
  let forwardingDns := stringArray (getItem json "forwarding_dns")
  if customHostname.isSome ∧ arrayItems customHostname = [] then none
  else
    some
      { customHostname := decodeList cvtJsonToCustomHostname customHostname
        additionalDns := stringArray (getItem json "additional_dns")
        forwardingDns :=
          -- The flag is stored into the pointer, not into the flag.
          match numberValue (getItem json "forwarding_dns_enabled") with
          | some address => .overwritten address forwardingDns.length
          | none => .servers forwardingDns }

def cvtJsonToDhcp4 (json : Option Json) : Dhcp4 :=
  { startIp := readString json "start_ip"
    pools := readInt json "pools"
    relayEnabled := readInt json "relay_enabled" != 0
    relayServerAddress := readString json "relay_server_address"
    relayLocalAddress := readString json "relay_local_address"
    staticDhcp4Clients :=
      decodeList cvtJsonToDhcpInfo (getItem json "static_dhcp4_clients") }

def cvtJsonToDnsDhcp (json : Option Json) : DnsDhcp :=
  { dns := (getItem json "dns").bind fun dns => cvtJsonToDns (some dns)
    dhcp4 := (getItem json "dhcp4").map fun dhcp4 =>
      cvtJsonToDhcp4 (some dhcp4) }

/-!
## Round trips

The list codecs are exact.  What is lost between encoding and decoding is an
empty list of host names, which takes the whole DNS record with it, and the two
flags, which are written as booleans and read as numbers.
-/

theorem cvtJsonToDhcpInfo_cvtDhcpInfoToJson (info : DhcpInfo) :
    cvtJsonToDhcpInfo (some (cvtDhcpInfoToJson info)) = info := by
  simp [cvtJsonToDhcpInfo, cvtDhcpInfoToJson, readString, readInt]

theorem cvtJsonToCustomHostname_cvtCustomHostnameToJson
    (customHostname : CustomHostname) :
    cvtJsonToCustomHostname (some (cvtCustomHostnameToJson customHostname)) =
      customHostname := by
  simp [cvtJsonToCustomHostname, cvtCustomHostnameToJson, readString]

theorem arrayItems_encodeList_eq_nil {α : Type} (encode : α -> Json)
    (values : List α) :
    arrayItems (some (encodeList encode values)) = [] <-> values = [] := by
  simp [arrayItems, encodeList, children]

theorem cvtJsonToDns_cvtDnsToJson (dns : Dns) :
    cvtJsonToDns (some (cvtDnsToJson dns)) =
      if dns.customHostname = [] then none
      else
        some
          { customHostname := dns.customHostname
            additionalDns := stringArray (createStringArray dns.additionalDns)
            forwardingDns := .servers (stringArray dns.forwardingDns.toJson)
            forwardingDnsEnabled := false } := by
  have hnames : decodeList cvtJsonToCustomHostname
      (some (encodeList cvtCustomHostnameToJson dns.customHostname)) =
        dns.customHostname :=
    decodeList_encodeList fun customHostname _ =>
      cvtJsonToCustomHostname_cvtCustomHostnameToJson customHostname
  simp [cvtJsonToDns, cvtDnsToJson, arrayItems_encodeList_eq_nil, hnames,
    ofBool, numberValue]

theorem cvtJsonToDhcp4_cvtDhcp4ToJson (dhcp4 : Dhcp4) :
    cvtJsonToDhcp4 (some (cvtDhcp4ToJson dhcp4)) =
      { dhcp4 with relayEnabled := false } := by
  have hclients : decodeList cvtJsonToDhcpInfo
      (some (encodeList cvtDhcpInfoToJson dhcp4.staticDhcp4Clients)) =
        dhcp4.staticDhcp4Clients :=
    decodeList_encodeList fun info _ =>
      cvtJsonToDhcpInfo_cvtDhcpInfoToJson info
  simp [cvtJsonToDhcp4, cvtDhcp4ToJson, readString, readInt, hclients]
  simp [ofBool, intValue, numberValue]

end Network
end Noc
