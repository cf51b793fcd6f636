import Noc.Foundation.Json

/-!
# Firewall profiles

The profile records of `core/network/iptables/iptables_struct.c` and their
codecs.
-/

namespace Noc
namespace Network

open Foundation
open Foundation.Json

structure Iptable where
  id : Option String := none
  name : Option String := none
  portRange : Option String := none
  ipMask : Option String := none
  protocol : Option String := none
  dnatIp : Option String := none
  dnatPortRange : Option String := none
  interface : Option String := none
  enable : Bool := false
  deriving DecidableEq, Repr

/-- `port_profiles` is NULL when the decoded member was no array. -/
structure IptableNovaService where
  name : Option String := none
  portProfiles : Option (List Iptable) := none
  deriving DecidableEq, Repr

/-!
## Profiles

A profile whose memory is all zero is encoded as the empty object.
-/

def cvtIptableToJson (iptable : Iptable) : Json :=
  if iptable = {} then mkObject []
  else
    mkObject
      [("id", ofString iptable.id),
       ("name", ofString iptable.name),
       ("port_range", ofString iptable.portRange),
       ("ip_mask", ofString iptable.ipMask),
       ("protocol", ofString iptable.protocol),
       ("dnat_ip", ofString iptable.dnatIp),
       ("dnat_port_range", ofString iptable.dnatPortRange),
       ("interface", ofString iptable.interface),
       ("enable", ofBool iptable.enable)]

def cvtJsonToIptable (json : Option Json) : Iptable :=
  { id := readString json "id"
    name := readString json "name"
    portRange := readString json "port_range"
    ipMask := readString json "ip_mask"
    protocol := readString json "protocol"
    dnatIp := readString json "dnat_ip"
    dnatPortRange := readString json "dnat_port_range"
    interface := readString json "interface"
    enable := readTrue json "enable" }

def cvtIptableListToJson (iptables : List Iptable) : Json :=
  encodeList cvtIptableToJson iptables

def cvtJsonToIptableList (json : Option Json) : List Iptable :=
  decodeList cvtJsonToIptable json

@[simp] theorem cvtJsonToIptable_cvtIptableToJson (iptable : Iptable) :
    cvtJsonToIptable (some (cvtIptableToJson iptable)) = iptable := by
  by_cases hzero : iptable = {}
  · rw [hzero]
    rfl
  · simp [cvtIptableToJson, hzero, cvtJsonToIptable, readString, readTrue]

@[simp] theorem cvtJsonToIptableList_cvtIptableListToJson
    (iptables : List Iptable) :
    cvtJsonToIptableList (some (cvtIptableListToJson iptables)) = iptables :=
  decodeList_encodeList fun iptable _ =>
    cvtJsonToIptable_cvtIptableToJson iptable

/-!
## Nova services

The encoder walks the port profiles of every service without a NULL test, so it
is defined only when each service carries them; `none` is the NULL access.
-/

def cvtIptableNovaServiceToJson (service : IptableNovaService) : Option Json :=
  service.portProfiles.map fun profiles =>
    mkObject
      [("name", ofString service.name),
       ("port_profiles", some (cvtIptableListToJson profiles))]

def cvtJsonToIptableNovaService (json : Option Json) : IptableNovaService :=
  { name := readString json "name"
    portProfiles := (readArray json "port_profiles").map fun profiles =>
      cvtJsonToIptableList (some profiles) }

def cvtIptableNovaServiceListToJson (services : List IptableNovaService) :
    Option Json :=
  encodeListM cvtIptableNovaServiceToJson services

def cvtJsonToIptableNovaServiceList (json : Option Json) :
    List IptableNovaService :=
  decodeList cvtJsonToIptableNovaService json

def CarriesPortProfiles (services : List IptableNovaService) : Prop :=
  forall service, service ∈ services -> service.portProfiles ≠ none

instance (services : List IptableNovaService) :
    Decidable (CarriesPortProfiles services) :=
  inferInstanceAs (Decidable (forall service, service ∈ services ->
    service.portProfiles ≠ none))

theorem cvtJsonToIptableNovaService_of_encoded
    (service : IptableNovaService) (tree : Json)
    (h : cvtIptableNovaServiceToJson service = some tree) :
    cvtJsonToIptableNovaService (some tree) = service := by
  cases service with
  | mk name portProfiles =>
      cases portProfiles with
      | none => cases h
      | some profiles =>
          cases h
          simp [cvtJsonToIptableNovaService, readString, readArray,
            cvtIptableListToJson]
          exact cvtJsonToIptableList_cvtIptableListToJson profiles

/-- The list encoder succeeds exactly when every service carries profiles. -/
theorem cvtIptableNovaServiceListToJson_eq_none_iff
    (services : List IptableNovaService) :
    cvtIptableNovaServiceListToJson services = none <->
      ¬ CarriesPortProfiles services := by
  unfold cvtIptableNovaServiceListToJson CarriesPortProfiles
  rw [encodeListM_eq_none_iff]
  simp [cvtIptableNovaServiceToJson]

theorem cvtIptableNovaServiceListToJson_of_carries
    {services : List IptableNovaService} (h : CarriesPortProfiles services) :
    exists tree, cvtIptableNovaServiceListToJson services = some tree := by
  apply Option.ne_none_iff_exists'.mp
  intro hnone
  exact (cvtIptableNovaServiceListToJson_eq_none_iff services).mp hnone h

theorem cvtJsonToIptableNovaServiceList_of_encoded
    {services : List IptableNovaService} {tree : Json}
    (h : cvtIptableNovaServiceListToJson services = some tree) :
    cvtJsonToIptableNovaServiceList (some tree) = services :=
  decodeList_of_encodeListM cvtJsonToIptableNovaService_of_encoded h

end Network
end Noc
