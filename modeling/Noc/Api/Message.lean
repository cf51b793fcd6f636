import Noc.Mesh.Quality
import Noc.Mesh.WorkMode
import Noc.Network.Dhcp.Apply
import Noc.Network.Iptables.Struct
import Noc.Network.LanWan

/-!
# Messages

The envelope and the payload of `api/message/message_struct.c`, with the codecs
of requests and responses and the name a response gets.
-/

namespace Noc
namespace Api

open Foundation
open Foundation.Exec
open Foundation.Json
open Mesh
open Network
open Utils

inductive MsgType where
  | empty
  | meshDeviceList
  | meshSetting
  | meshQuality
  | networkLan
  | networkWan
  | networkDnsDhcp
  | networkDhcp4Leases
  | networkStaticRoute
  | iptablesDnatProfile
  | iptablesDnatDmzProfile
  | iptableNovaServicePortProfile
  deriving DecidableEq, Repr

/-- `data_t`: a union of pointers, NULL or the member written last.  A member is
only ever read when it was written last or when the union is NULL. -/
inductive Data where
  | null
  | meshSetting (setting : MeshSetting)
  | deviceList (devices : List DeviceInfo)
  | qualityProfileList (profiles : List QualityProfile)
  | dnsDhcp (dnsDhcp : DnsDhcp)
  | dhcp4Lease (leases : List DhcpInfo)
  | lan (lan : Lan)
  | wan (wan : Wan)
  | routesList (routes : List Route)
  | iptableList (iptables : List Iptable)
  | iptable (iptable : Iptable)
  | iptableNovaServiceList (services : List IptableNovaService)

namespace Data

def toMeshSetting : Data -> Option MeshSetting
  | meshSetting setting => some setting
  | _ => none

def toDeviceList : Data -> Option (List DeviceInfo)
  | deviceList devices => some devices
  | _ => none

def toQualityProfileList : Data -> Option (List QualityProfile)
  | qualityProfileList profiles => some profiles
  | _ => none

def toDnsDhcp : Data -> Option DnsDhcp
  | dnsDhcp config => some config
  | _ => none

def toDhcp4Lease : Data -> Option (List DhcpInfo)
  | dhcp4Lease leases => some leases
  | _ => none

def toLan : Data -> Option Lan
  | lan record => some record
  | _ => none

def toWan : Data -> Option Wan
  | wan record => some record
  | _ => none

def toRoutesList : Data -> Option (List Route)
  | routesList routes => some routes
  | _ => none

def toIptableList : Data -> Option (List Iptable)
  | iptableList iptables => some iptables
  | _ => none

def toIptable : Data -> Option Iptable
  | iptable profile => some profile
  | _ => none

def toIptableNovaServiceList : Data -> Option (List IptableNovaService)
  | iptableNovaServiceList services => some services
  | _ => none

end Data

/-- `error_t`. -/
structure Error where
  code : Int32
  message : Option String

structure MsgRequest where
  name : Option String := none
  scope : Option String := none
  source : Option String := none
  homeId : Option String := none
  userId : Option String := none
  id : Option String := none
  authToken : Option String := none
  parentId : Option String := none
  clientId : Option String := none
  data : Option Data := none
  createdTime : Int := 0

structure RespondData where
  error : Option Error := none
  data : Option Data := none

/-- The response data is allocated with the response. -/
structure MsgRespond where
  name : Option String := none
  scope : Option String := none
  source : Option String := none
  homeId : Option String := none
  userId : Option String := none
  id : Option String := none
  authToken : Option String := none
  parentId : Option String := none
  clientId : Option String := none
  respondData : RespondData := {}
  createdTime : Int := 0

/-!
## Payloads

The outer `none` of an encoder is a NULL access: an element codec follows its
argument without a test.  The inner one is a payload left out.
-/

def encodedDnsDhcp (dnsDhcp : DnsDhcp) : Option Json :=
  if dnsDhcp.dns.all fun dns => dns.forwardingDns.readable then
    some (cvtDnsDhcpToJson dnsDhcp)
  else none

def cvtDhcp4LeaseToJson (leases : List DhcpInfo) : Json :=
  encodeList cvtDhcpInfoToJson leases

def cvtJsonToDhcp4Lease (json : Option Json) : List DhcpInfo :=
  decodeList cvtJsonToDhcpInfo json

def cvtUnionToJson (data : Data) : MsgType -> Option (Option Json)
  | .meshDeviceList => data.toDeviceList.map fun devices =>
      some (cvtDeviceListToJson devices)
  | .meshSetting => some (cvtMeshSettingToJson data.toMeshSetting)
  | .meshQuality => data.toQualityProfileList.map fun profiles =>
      some (cvtQualityProfileListToJson profiles)
  | .networkDnsDhcp => (data.toDnsDhcp.bind encodedDnsDhcp).map some
  | .networkDhcp4Leases => data.toDhcp4Lease.map fun leases =>
      some (cvtDhcp4LeaseToJson leases)
  | .networkLan => data.toLan.map fun lan => some (cvtLanToJson lan)
  | .networkWan => data.toWan.map fun wan => some (cvtWanToJson wan)
  | .networkStaticRoute => data.toRoutesList.map fun routes =>
      some (cvtRouteListToJson routes)
  | .iptablesDnatProfile => data.toIptableList.map fun iptables =>
      some (cvtIptableListToJson iptables)
  | .iptablesDnatDmzProfile => data.toIptable.map fun iptable =>
      some (cvtIptableToJson iptable)
  | .iptableNovaServicePortProfile =>
      (data.toIptableNovaServiceList.bind
        cvtIptableNovaServiceListToJson).map some
  | .empty => some (some (mkObject []))

def cvtDataToJson (data : Option Data) (msgType : MsgType) :
    Option (Option Json) :=
  match data with
  | none => some none
  | some data => cvtUnionToJson data msgType

/-- A payload of another kind than the type asks for leaves the union NULL. -/
def cvtJsonToData (json : Json) : MsgType -> Data
  | .meshDeviceList =>
      if json.isArray then .deviceList (cvtJsonToDeviceList (some json))
      else .null
  | .meshSetting =>
      if json.isObject then .meshSetting (cvtJsonToMeshSetting (some json))
      else .null
  | .meshQuality =>
      if json.isObject then
        .qualityProfileList (cvtJsonToQualityProfileList (some json))
      else .null
  | .networkDnsDhcp =>
      if json.isObject then .dnsDhcp (cvtJsonToDnsDhcp (some json)) else .null
  | .networkDhcp4Leases =>
      if json.isObject then .dhcp4Lease (cvtJsonToDhcp4Lease (some json))
      else .null
  | .networkLan =>
      if json.isObject then .lan (cvtJsonToLan (some json)) else .null
  | .networkWan =>
      if json.isObject then .wan (cvtJsonToWan (some json)) else .null
  | .networkStaticRoute =>
      if json.isArray then .routesList (cvtJsonToRouteList (some json))
      else .null
  | .iptablesDnatProfile =>
      if json.isArray then .iptableList (cvtJsonToIptableList (some json))
      else .null
  | .iptablesDnatDmzProfile =>
      if json.isObject then .iptable (cvtJsonToIptable (some json)) else .null
  | .iptableNovaServicePortProfile =>
      if json.isArray then
        .iptableNovaServiceList (cvtJsonToIptableNovaServiceList (some json))
      else .null
  | .empty => .null

/-!
## Envelopes
-/

def cvtErrorToJson (error : Option Error) : Option Json :=
  error.map fun record =>
    mkObject
      [("code", ofInt record.code), ("message", ofString record.message)]

def cvtJsonToError (json : Option Json) : Error :=
  { code := readInt json "code"
    message := readString json "message" }

def cvtRespondDataToJson (respondData : RespondData) (msgType : MsgType) :
    Option Json :=
  (cvtDataToJson respondData.data msgType).map fun data =>
    mkObject [("data", data), ("error", cvtErrorToJson respondData.error)]

/-- A payload that is no object is left out. -/
def cvtJsonToRespondData (json : Option Json) (msgType : MsgType) :
    RespondData :=
  { error := (readObject json "error").map fun error => cvtJsonToError (some error)
    data := (readObject json "data").map fun data => cvtJsonToData data msgType }

/-- The member `created_time` goes through `valueint`. -/
def cvtJsonToMsgRequest (json : Option Json) (msgType : MsgType) :
    MsgRequest :=
  { name := readString json "name"
    scope := readString json "scope"
    source := readString json "source"
    homeId := readString json "home_id"
    userId := readString json "user_id"
    id := readString json "id"
    authToken := readString json "auth_token"
    parentId := readString json "parent_id"
    clientId := readString json "client_id"
    data := (getItem json "data").map fun data => cvtJsonToData data msgType
    createdTime := (readInt json "created_time").toInt }

def cvtMsgRequestToJson (msgRequest : MsgRequest) (msgType : MsgType) :
    Option Json :=
  (cvtDataToJson msgRequest.data msgType).map fun data =>
    mkObject
      [("name", ofString msgRequest.name),
       ("scope", ofString msgRequest.scope),
       ("source", ofString msgRequest.source),
       ("home_id", ofString msgRequest.homeId),
       ("user_id", ofString msgRequest.userId),
       ("id", ofString msgRequest.id),
       ("auth_token", ofString msgRequest.authToken),
       ("parent_id", ofString msgRequest.parentId),
       ("client_id", ofString msgRequest.clientId),
       ("data", data),
       ("created_time", some (num msgRequest.createdTime))]

def cvtMsgRespondToJson (msgRespond : MsgRespond) (msgType : MsgType) :
    Option Json :=
  (cvtRespondDataToJson msgRespond.respondData msgType).map fun data =>
    mkObject
      [("name", ofString msgRespond.name),
       ("scope", ofString msgRespond.scope),
       ("source", ofString msgRespond.source),
       ("home_id", ofString msgRespond.homeId),
       ("user_id", ofString msgRespond.userId),
       ("id", ofString msgRespond.id),
       ("auth_token", ofString msgRespond.authToken),
       ("parent_id", ofString msgRespond.parentId),
       ("client_id", ofString msgRespond.clientId),
       ("data", some data),
       ("created_time", some (num msgRespond.createdTime))]

/-- What a response is decoded to: a response made from a request always has its
response data, a decoded one has it when the member is an object. -/
structure DecodedRespond where
  msgRespond : MsgRespond
  hasRespondData : Bool

def cvtJsonToMsgRespond (json : Option Json) (msgType : MsgType) :
    DecodedRespond :=
  let data := readObject json "data"
  { msgRespond :=
      { name := readString json "name"
        scope := readString json "scope"
        source := readString json "source"
        homeId := readString json "home_id"
        userId := readString json "user_id"
        id := readString json "id"
        authToken := readString json "auth_token"
        parentId := readString json "parent_id"
        clientId := readString json "client_id"
        respondData :=
          if data.isSome then cvtJsonToRespondData data msgType else {}
        createdTime := (readInt json "created_time").toInt }
    hasRespondData := data.isSome }

/-- The function ends without a return; its result is read as the record. -/
def cvtMsgRequestToMsgRespond (msgRequest : MsgRequest) : MsgRespond :=
  { name := msgRequest.name
    scope := msgRequest.scope
    source := msgRequest.source
    homeId := msgRequest.homeId
    userId := msgRequest.userId
    id := msgRequest.id
    authToken := msgRequest.authToken
    parentId := msgRequest.parentId
    clientId := msgRequest.clientId
    respondData := { data := msgRequest.data }
    createdTime := msgRequest.createdTime }

/-!
## The name of a response

The first two segments change places and a last segment that contains
`requested` becomes `responded`.  A name without a segment is logged and gives
the empty name; one with a single segment is indexed past its end.
-/

def lastSegment (segment : String) : String :=
  if strstr segment "requested" then "responded" else segment

/-- The segments between the second and the last. -/
def middleSegments (segments : List String) : List String :=
  (segments.drop 2).dropLast

def cvtReqNameToResName (reqName : Option String) : Daemon String := do
  let nameSplit := (reqName.map (strtok '.')).getD []
  match nameSplit with
  | [] => return ""
  | first :: _ =>
      let second <- deref Fault.pastSplit nameSplit[1]?
      let last := nameSplit.getLastD ""
      return second ++ "." ++ first ++
        String.join ((middleSegments nameSplit).map fun segment =>
          "." ++ segment) ++ "." ++ lastSegment last

/-!
## Filling a response in
-/

def errorTableLookup (env : Surroundings) (code : ErrorCode) : Error :=
  { code := code.code
    message := env.message code }

namespace MsgRespond

def withError (env : Surroundings) (code : ErrorCode)
    (msgRespond : MsgRespond) : MsgRespond :=
  { msgRespond with
    respondData :=
      { msgRespond.respondData with error := some (errorTableLookup env code) } }

def withData (data : Data) (msgRespond : MsgRespond) : MsgRespond :=
  { msgRespond with
    respondData := { msgRespond.respondData with data := some data } }

/-- Writing a member of the union follows the pointer to it. -/
def putData (data : Data) (msgRespond : MsgRespond) : Daemon MsgRespond := do
  let _ <- field msgRespond.respondData.data
  return msgRespond.withData data

end MsgRespond

/-!
## Releasing a response

Most releases accept a NULL pointer.  A list of routes is followed without a
test, a mesh setting to its interface and a DNS record to its server arrays.
-/

def routeListFree (routeList : Option (List Route)) : Daemon Unit := do
  let _ <- field routeList
  return ()

def dataFree (data : Option Data) (msgType : MsgType) : Daemon Unit :=
  match data with
  | none => return ()
  | some data =>
      match msgType with
      | .meshSetting => meshSettingFree data.toMeshSetting
      | .networkDnsDhcp => dnsDhcpFree data.toDnsDhcp
      | .networkStaticRoute => routeListFree data.toRoutesList
      | _ => return ()

def msgRespondFree (msgRespond : MsgRespond) (msgType : MsgType) :
    Daemon Unit :=
  dataFree msgRespond.respondData.data msgType

end Api
end Noc
