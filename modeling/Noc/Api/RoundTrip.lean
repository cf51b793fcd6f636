import Noc.Api.Message

/-!
# Round trips of messages

Printing a request or a response and decoding it again, for the payload its
message type names.
-/

namespace Noc
namespace Api

open Foundation
open Foundation.Json
open Mesh
open Network

/-!
## Payloads

The codec of the union's member, without the test of the JSON kind that
`cvt_json_to_data` makes first.
-/

def decodeMember (json : Json) : MsgType -> Data
  | .meshDeviceList => .deviceList (cvtJsonToDeviceList (some json))
  | .meshSetting => .meshSetting (cvtJsonToMeshSetting (some json))
  | .meshQuality => .qualityProfileList (cvtJsonToQualityProfileList (some json))
  | .networkDnsDhcp => .dnsDhcp (cvtJsonToDnsDhcp (some json))
  | .networkDhcp4Leases => .dhcp4Lease (cvtJsonToDhcp4Lease (some json))
  | .networkLan => .lan (cvtJsonToLan (some json))
  | .networkWan => .wan (cvtJsonToWan (some json))
  | .networkStaticRoute => .routesList (cvtJsonToRouteList (some json))
  | .iptablesDnatProfile => .iptableList (cvtJsonToIptableList (some json))
  | .iptablesDnatDmzProfile => .iptable (cvtJsonToIptable (some json))
  | .iptableNovaServicePortProfile =>
      .iptableNovaServiceList (cvtJsonToIptableNovaServiceList (some json))
  | .empty => .null

/-- The union holds the member of the type and the member's own codec brings it
back. -/
structure Carries (data : Data) (msgType : MsgType) (tree : Json) : Prop where
  member : data ≠ .null
  encodes : cvtUnionToJson data msgType = some (some tree)
  decodes : decodeMember tree msgType = data

/-- The types whose payload is printed as an array. -/
def MsgType.printsArray : MsgType -> Bool
  | .meshDeviceList => true
  | .meshQuality => true
  | .networkDhcp4Leases => true
  | .networkStaticRoute => true
  | .iptablesDnatProfile => true
  | .iptableNovaServicePortProfile => true
  | _ => false

/-- The types whose payload is only read from an array. -/
def MsgType.readsArray : MsgType -> Bool
  | .meshDeviceList => true
  | .networkStaticRoute => true
  | .iptablesDnatProfile => true
  | .iptableNovaServicePortProfile => true
  | _ => false

section

variable {data : Data} {msgType : MsgType} {tree : Json}

theorem isArray_of_carries (h : Carries data msgType tree) :
    tree.isArray = msgType.printsArray ∧
      tree.isObject = !msgType.printsArray := by
  have hencodes := h.encodes
  rw [← h.decodes] at hencodes
  cases msgType with
  | empty => exact absurd h.decodes.symm h.member
  | networkDnsDhcp =>
      simp [cvtUnionToJson, decodeMember, Data.toDnsDhcp, encodedDnsDhcp] at hencodes
      rw [← hencodes.2]
      exact ⟨rfl, rfl⟩
  | iptablesDnatDmzProfile =>
      have htree := Option.some_inj.mp (Option.some_inj.mp hencodes)
      rw [← htree]
      unfold cvtIptableToJson
      split <;> exact ⟨rfl, rfl⟩
  | iptableNovaServicePortProfile =>
      simp [cvtUnionToJson, decodeMember, Data.toIptableNovaServiceList,
        cvtIptableNovaServiceListToJson, encodeListM] at hencodes
      rcases hencodes with ⟨trees, _, rfl⟩
      exact ⟨rfl, rfl⟩
  | _ =>
      have htree := Option.some_inj.mp (Option.some_inj.mp hencodes)
      rw [← htree]
      exact ⟨rfl, rfl⟩

/-- The decoder of a payload tests the kind and then leaves it to the member's
decoder. -/
theorem cvtJsonToData_eq_iff (h : Carries data msgType tree) :
    cvtJsonToData tree msgType = data <->
      msgType.printsArray = msgType.readsArray := by
  rcases isArray_of_carries h with ⟨harray, hobject⟩
  have hnull : Data.null ≠ data := h.member.symm
  have hdecodes := h.decodes
  cases msgType with
  | empty => exact absurd hdecodes.symm h.member
  | meshQuality =>
      have hkind : tree.isObject = false := hobject
      simp [cvtJsonToData, hkind, hnull, MsgType.printsArray, MsgType.readsArray]
  | networkDhcp4Leases =>
      have hkind : tree.isObject = false := hobject
      simp [cvtJsonToData, hkind, hnull, MsgType.printsArray, MsgType.readsArray]
  | _ =>
      simp only [MsgType.printsArray, Bool.not_true, Bool.not_false] at harray hobject
      rw [← hdecodes]
      simp [cvtJsonToData, decodeMember, harray, hobject, MsgType.printsArray,
        MsgType.readsArray]

end

/-!
## Envelopes
-/

section

variable {data : Data} {msgType : MsgType} {tree : Json}

def RequestRoundTrips (msgRequest : MsgRequest) (msgType : MsgType) : Prop :=
  exists json, cvtMsgRequestToJson msgRequest msgType = some json ∧
    cvtJsonToMsgRequest (some json) msgType = msgRequest

def RespondRoundTrips (msgRespond : MsgRespond) (msgType : MsgType) : Prop :=
  exists json, cvtMsgRespondToJson msgRespond msgType = some json ∧
    cvtJsonToMsgRespond (some json) msgType = ⟨msgRespond, true⟩

theorem requestRoundTrips_iff {msgRequest : MsgRequest}
    (hdata : msgRequest.data = some data) (hcarries : Carries data msgType tree)
    (htime : InIntRange msgRequest.createdTime) :
    RequestRoundTrips msgRequest msgType <->
      cvtJsonToData tree msgType = data := by
  have hround := (toInt_valueInt_iff msgRequest.createdTime).mpr htime
  have hprinted : cvtDataToJson msgRequest.data msgType = some (some tree) := by
    rw [hdata]
    exact hcarries.encodes
  unfold RequestRoundTrips cvtMsgRequestToJson
  rw [hprinted]
  cases msgRequest with
  | mk =>
      cases hdata
      simp [cvtJsonToMsgRequest, readString, readInt, intValue, numberValue, hround]

theorem cvtJsonToError_cvtErrorToJson (error : Option Error) :
    (objectValue (cvtErrorToJson error)).map
      (fun json => cvtJsonToError (some json)) = error := by
  cases error with
  | none => rfl
  | some record =>
      simp [cvtErrorToJson, cvtJsonToError, readInt, readString]

theorem respondRoundTrips_iff {msgRespond : MsgRespond}
    (hdata : msgRespond.respondData.data = some data)
    (hcarries : Carries data msgType tree)
    (htime : InIntRange msgRespond.createdTime) :
    RespondRoundTrips msgRespond msgType <->
      tree.isObject = true ∧ cvtJsonToData tree msgType = data := by
  have hround := (toInt_valueInt_iff msgRespond.createdTime).mpr htime
  have hprinted : cvtDataToJson msgRespond.respondData.data msgType =
      some (some tree) := by
    rw [hdata]
    exact hcarries.encodes
  have herror := cvtJsonToError_cvtErrorToJson msgRespond.respondData.error
  unfold RespondRoundTrips cvtMsgRespondToJson cvtRespondDataToJson
  rw [hprinted]
  cases msgRespond with
  | mk name scope source homeId userId id authToken parentId clientId respondData =>
      cases respondData with
      | mk error member =>
          cases hdata
          simp [cvtJsonToMsgRespond, cvtJsonToRespondData, readString, readInt,
            readObject, intValue, numberValue, hround, herror]
          cases tree <;> simp [objectValue, isObject]

/-!
A response's payload stands inside an object of its own and is only looked at
when it is an object itself.
-/

theorem respondRoundTrips_iff_of_carries {msgRespond : MsgRespond}
    (hdata : msgRespond.respondData.data = some data)
    (hcarries : Carries data msgType tree)
    (htime : InIntRange msgRespond.createdTime) :
    RespondRoundTrips msgRespond msgType <-> msgType.printsArray = false := by
  rw [respondRoundTrips_iff hdata hcarries htime, cvtJsonToData_eq_iff hcarries,
    (isArray_of_carries hcarries).2, Bool.not_eq_true']
  cases msgType <;> simp [MsgType.printsArray, MsgType.readsArray]

/-- A request gives its payload back unless the decoder of its type asks for the
other JSON kind; a response only when the payload is an object. -/
theorem roundTrips_iff (msgRequest : MsgRequest) (msgRespond : MsgRespond)
    (hcarries : exists tree, Carries data msgType tree)
    (hrequest : msgRequest.data = some data)
    (hrequestTime : InIntRange msgRequest.createdTime)
    (hrespond : msgRespond.respondData.data = some data)
    (hrespondTime : InIntRange msgRespond.createdTime) :
    (RequestRoundTrips msgRequest msgType <->
        msgType ≠ .meshQuality ∧ msgType ≠ .networkDhcp4Leases) ∧
      (RespondRoundTrips msgRespond msgType <-> msgType.printsArray = false) := by
  rcases hcarries with ⟨tree, htree⟩
  constructor
  · rw [requestRoundTrips_iff hrequest htree hrequestTime,
      cvtJsonToData_eq_iff htree]
    cases msgType <;> simp [MsgType.printsArray, MsgType.readsArray]
  · exact respondRoundTrips_iff_of_carries hrespond htree hrespondTime

end

theorem carries_lan (lan : Lan) :
    Carries (.lan lan) .networkLan (cvtLanToJson lan) where
  member := by simp
  encodes := rfl
  decodes := by simp [decodeMember]

theorem carries_deviceList (devices : List DeviceInfo) :
    Carries (.deviceList devices) .meshDeviceList
      (cvtDeviceListToJson devices) where
  member := by simp
  encodes := rfl
  decodes := by simp [decodeMember]

theorem carries_qualityProfileList (profiles : List QualityProfile) :
    Carries (.qualityProfileList profiles) .meshQuality
      (cvtQualityProfileListToJson profiles) where
  member := by simp
  encodes := rfl
  decodes := by simp [decodeMember]

def lanRequested : MsgRequest :=
  { name := some "hub.ezm.network.lan.created"
    data := some (.lan { ipaddr := some "192.168.1.1" })
    createdTime := 1700000000 }

theorem roundTrips_iff_lanRequested :
    RequestRoundTrips lanRequested .networkLan ∧
      RespondRoundTrips (cvtMsgRequestToMsgRespond lanRequested)
        .networkLan := by
  have hboth := roundTrips_iff lanRequested
    (cvtMsgRequestToMsgRespond lanRequested) ⟨_, carries_lan _⟩ rfl (by decide)
    rfl (by decide)
  exact ⟨hboth.1.mpr (by decide), hboth.2.mpr rfl⟩

def devicesResponded : MsgRespond :=
  { name := some "ezm.hub.mesh.devices.responded"
    respondData :=
      { error := some ⟨0, some "Success"⟩
        data := some (.deviceList [{ mac := some "02:00:00:00:00:01" }]) } }

/-- A device list comes back without its devices, as does a quality report in a
request. -/
theorem not_roundTrips_of_arrays :
    ((exists tree, Carries
          (.deviceList [{ mac := some "02:00:00:00:00:01" }]) .meshDeviceList
          tree) ∧
        InIntRange devicesResponded.createdTime ∧
        ¬ RespondRoundTrips devicesResponded .meshDeviceList) ∧
      (exists tree, Carries (.qualityProfileList [{}]) .meshQuality tree) ∧
        ¬ RequestRoundTrips { data := some (.qualityProfileList [{}]) }
          .meshQuality := by
  refine ⟨⟨⟨_, carries_deviceList _⟩, by decide, ?_⟩,
    ⟨_, carries_qualityProfileList _⟩, ?_⟩
  · rw [respondRoundTrips_iff_of_carries rfl (carries_deviceList _) (by decide)]
    decide
  · rw [requestRoundTrips_iff rfl (carries_qualityProfileList _) (by decide),
      cvtJsonToData_eq_iff (carries_qualityProfileList _)]
    decide

end Api
end Noc
