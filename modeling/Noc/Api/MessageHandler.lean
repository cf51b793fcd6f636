import Noc.Api.MeshDevices
import Noc.Api.MeshSetting
import Noc.Api.Network

/-!
# Dispatching messages

The table of `api/message/message_handler.c` and the callback that starts the
first handler whose key occurs in the name of a message.
-/

namespace Noc
namespace Api

open Foundation
open Foundation.Exec
open Foundation.Json
open Mesh
open Network
open Utils

inductive MessageHandler where
  | createMesh
  | requestMesh
  | updateMesh
  | deleteMesh
  | requestMeshDevices
  | requestPairMeshDevices
  | requestDevicesAvailableForPairing
  | updateMeshDevices
  | deleteMeshDevices
  | requestActivateAgentDevice
  | requestInactivateAgentDevice
  | requestMeshQuality
  | requestLan
  | createLan
  | requestWan
  | createWan
  | requestDnsDhcp
  | createDnsDhcp
  | requestDhcp4Leases
  | requestStaticRoutes
  | createStaticRoute
  | deleteStaticRoute
  | updateStaticRoutes
  | requestDnatPortForwardingProfiles
  | updateDnatPortForwardingProfiles
  | createDnatPortForwardingProfile
  | deleteDnatPortForwardingProfile
  | requestDnatDmz
  | createDnatDmz
  | requestNovaServicesPortProfiles
  | createNovaServicesPortProfiles
  deriving DecidableEq, Repr

def messageHandlerEntry : List (String × MessageHandler) :=
  [("mesh.created", .createMesh),
   ("mesh.requested", .requestMesh),
   ("mesh.updated", .updateMesh),
   ("mesh.deleted", .deleteMesh),
   ("mesh.devices.requested", .requestMeshDevices),
   ("mesh.devices.pair.requested", .requestPairMeshDevices),
   ("mesh.devices.available_for_pairing.requested",
     .requestDevicesAvailableForPairing),
   ("mesh.devices.updated", .updateMeshDevices),
   ("mesh.devices.deleted", .deleteMeshDevices),
   ("mesh.device.agent.activate.requested", .requestActivateAgentDevice),
   ("mesh.device.agent.inactivate.requested", .requestInactivateAgentDevice),
   ("mesh.quality.requested", .requestMeshQuality),
   ("network.lan.requested", .requestLan),
   ("network.lan.created", .createLan),
   ("network.wan.requested", .requestWan),
   ("network.wan.created", .createWan),
   ("network.dns_dhcp.requested", .requestDnsDhcp),
   ("network.dns_dhcp.created", .createDnsDhcp),
   ("network.dhcp4.leases.requested", .requestDhcp4Leases),
   ("network.static.routes.requested", .requestStaticRoutes),
   ("network.static.routes.created", .createStaticRoute),
   ("network.static.routes.deleted", .deleteStaticRoute),
   ("network.static.routes.updated", .updateStaticRoutes),
   ("iptables.dnat.port_forwarding.profiles.requested",
     .requestDnatPortForwardingProfiles),
   ("iptables.dnat.port_forwarding.profiles.updated",
     .updateDnatPortForwardingProfiles),
   ("iptables.dnat.port_forwarding.profiles.created",
     .createDnatPortForwardingProfile),
   ("iptables.dnat.port_forwarding.profiles.deleted",
     .deleteDnatPortForwardingProfile),
   ("iptables.dnat.dmz.profiles.requested", .requestDnatDmz),
   ("iptables.dnat.dmz.profiles.created", .createDnatDmz),
   ("iptables.nova-services.port-profiles.requested",
     .requestNovaServicesPortProfiles),
   ("iptables.nova-services.port-profiles.created",
     .createNovaServicesPortProfiles)]

def MessageHandler.run (env : Surroundings) (msgJson : Json) :
    MessageHandler -> Daemon Unit
  | createMesh => Api.createMesh env msgJson
  | requestMesh => Api.requestMesh env msgJson
  | updateMesh => Api.updateMesh env msgJson
  | deleteMesh => Api.deleteMesh env msgJson
  | requestMeshDevices => Api.requestMeshDevices env msgJson
  | requestPairMeshDevices => Api.requestPairMeshDevices env msgJson
  | requestDevicesAvailableForPairing =>
      Api.requestDevicesAvailableForPairing env msgJson
  | updateMeshDevices => Api.updateMeshDevices env msgJson
  | deleteMeshDevices => Api.deleteMeshDevices env msgJson
  | requestActivateAgentDevice => Api.requestActivateAgentDevice env msgJson
  | requestInactivateAgentDevice =>
      Api.requestInactivateAgentDevice env msgJson
  | requestMeshQuality => Api.requestMeshQuality env msgJson
  | requestLan => Api.requestLan env msgJson
  | createLan => Api.createLan env msgJson
  | requestWan => Api.requestWan env msgJson
  | createWan => Api.createWan env msgJson
  | requestDnsDhcp => Api.requestDnsDhcp env msgJson
  | createDnsDhcp => Api.createDnsDhcp env msgJson
  | requestDhcp4Leases => Api.requestDhcp4Leases env msgJson
  | requestStaticRoutes => Api.requestStaticRoutes env msgJson
  | createStaticRoute => Api.createStaticRoute env msgJson
  | deleteStaticRoute => Api.deleteStaticRoute env msgJson
  | updateStaticRoutes => Api.updateStaticRoutes env msgJson
  | requestDnatPortForwardingProfiles =>
      Api.requestDnatPortForwardingProfiles env msgJson
  | updateDnatPortForwardingProfiles =>
      Api.updateDnatPortForwardingProfiles env msgJson
  | createDnatPortForwardingProfile =>
      Api.createDnatPortForwardingProfile env msgJson
  | deleteDnatPortForwardingProfile =>
      Api.deleteDnatPortForwardingProfile env msgJson
  | requestDnatDmz => Api.requestDnatDmz env msgJson
  | createDnatDmz => Api.createDnatDmz env msgJson
  | requestNovaServicesPortProfiles =>
      Api.requestNovaServicesPortProfiles env msgJson
  | createNovaServicesPortProfiles =>
      Api.createNovaServicesPortProfiles env msgJson

/-!
## The callback
-/

/-- The first entry whose key occurs in the name. -/
def selectedHandler (requestName : String) : Option MessageHandler :=
  (messageHandlerEntry.find? fun entry =>
    appStrstr (some requestName) (some entry.1)).map Prod.snd

/-- No entry fits: the converted name goes nowhere.  The conversion frees the
name inside the message, and the decoder then reads what is left there. -/
def respondRequestInvalid (env : Surroundings) (requestName : String)
    (msgJson : Json) : Daemon Unit := do
  let _ <- cvtReqNameToResName (some requestName)
  let msgRequest :=
    { cvtJsonToMsgRequest (some msgJson) .empty with name := some env.freedName }
  let msgRespond := (cvtMsgRequestToMsgRespond msgRequest).withError env
    .requestInvalid
  mqttPublishMessage msgRespond .empty

/-- `none` is a message that does not parse.  The handler runs in a thread of
its own. -/
def mqttOnMessageCbHandler (env : Surroundings) (msgJson : Option Json) :
    Daemon Unit :=
  match msgJson with
  | none => return ()
  | some json =>
      match readString msgJson "name" with
      | none => return ()
      | some requestName =>
          match selectedHandler requestName with
          | some handler => handler.run env json
          | none => respondRequestInvalid env requestName json

/-!
## Names that select a handler

Every key holds a separator with something on either side of it.
-/

def splitsKey (key : List Char) : Bool :=
  match key.dropWhile (· != '.') with
  | [] => false
  | _ :: after =>
      (key.takeWhile (· != '.')).any (· != '.') && after.any (· != '.')

def keyLetters : List (List Char) :=
  messageHandlerEntry.map fun entry => entry.1.toList

/-- A check of the keys, on their letters written out. -/
theorem check_of_letters (check : List (List Char) -> Bool)
    {letters : List (List Char)} (hletters : keyLetters = letters)
    (hcheck : check letters = true) : check keyLetters = true := by
  rw [hletters]
  exact hcheck

theorem letters_cons {key : String} {letters : List Char}
    {keys rest : List (List Char)} (hkey : key = String.ofList letters)
    (hrest : keys = rest) : key.toList :: keys = letters :: rest := by
  rw [hkey, String.toList_ofList, hrest]

theorem splitsKey_keyLetters : keyLetters.all splitsKey = true := by
  apply check_of_letters fun keys => keys.all splitsKey
  · unfold keyLetters messageHandlerEntry
    simp only [List.map_cons, List.map_nil]
    repeat apply letters_cons rfl
    rfl
  · decide

theorem splitsKey_of_mem {entry : String × MessageHandler}
    (hmem : entry ∈ messageHandlerEntry) :
    splitsKey entry.1.toList = true :=
  List.all_eq_true.mp splitsKey_keyLetters _ (List.mem_map_of_mem hmem)

theorem two_le_of_splitsKey {name key : String}
    (hsplits : splitsKey key.toList = true)
    (hfound : strstr name key = true) : 2 <= (strtok '.' name).length := by
  rcases strstr_iff.mp hfound with ⟨front, back, htext⟩
  have hhead := List.head?_dropWhile_not (· != '.') key.toList
  unfold splitsKey at hsplits
  cases hdrop : key.toList.dropWhile (· != '.') with
  | nil => simp [hdrop] at hsplits
  | cons c after =>
      have hc : c = '.' := by simpa [hdrop] using hhead
      rw [hc] at hdrop
      have hkey : key.toList =
          key.toList.takeWhile (· != '.') ++ '.' :: after := by
        rw [← hdrop, List.takeWhile_append_dropWhile]
      simp only [hdrop, Bool.and_eq_true, List.any_eq_true, bne_iff_ne]
        at hsplits
      rcases hsplits with ⟨⟨a, ha, hane⟩, ⟨b, hb, hbne⟩⟩
      have hname : name.toList = front ++
          (key.toList.takeWhile (· != '.') ++ '.' :: after) ++ back := by
        rw [← hkey, htext]
      exact two_le_length_strtok hname ha hane hb hbne

theorem two_le_of_selectedHandler {name : String} {handler : MessageHandler}
    (h : selectedHandler name = some handler) :
    2 <= (strtok '.' name).length := by
  unfold selectedHandler at h
  rcases Option.map_eq_some_iff.mp h with ⟨entry, hfind, _⟩
  have hfound := List.find?_some hfind
  exact two_le_of_splitsKey
    (splitsKey_of_mem (List.mem_of_find?_eq_some hfind)) hfound

/-!
## When a handler answers

For each handler, the condition under which no pointer that it follows is NULL.
-/

def FieldsPresent (env : Surroundings) (msgJson : Json) (w : World) :
    MessageHandler -> Prop
  | .createMesh => ModeReadable w ∧
      if (storedSetting w).mode = some .controller then
        RequestReleasable msgJson
      else Creatable env msgJson w
  | .requestMesh => ModeReadable w ∧
      ((storedSetting w).mode = some .controller -> HasData msgJson)
  | .updateMesh =>
      if env.deamonIsRunning = false then RequestReleasable msgJson
      else ModeReadable w ∧
        if (storedSetting w).mode = some .controller then
          Updatable msgJson (storedSetting w)
        else RequestReleasable msgJson
  | .deleteMesh => env.deamonIsRunning = true -> ModeReadable w ∧
      ((storedSetting w).mode = some .controller -> SwitchReady w)
  | .requestMeshDevices => env.deamonIsRunning = true -> HasData msgJson
  | .requestPairMeshDevices => env.deamonIsRunning = true ->
      Pairable env msgJson
  | .requestDevicesAvailableForPairing => env.deamonIsRunning = true ->
      HasData msgJson ∧ env.available ≠ none ∧
        CarriesPortProfiles (storedNova w)
  | .updateMeshDevices | .deleteMeshDevices => env.deamonIsRunning = true ->
      requestedDevices msgJson ≠ none
  | .requestActivateAgentDevice | .requestInactivateAgentDevice => False
  | .requestMeshQuality => True
  | .requestLan | .requestWan | .requestDhcp4Leases | .requestStaticRoutes
  | .requestDnatPortForwardingProfiles | .requestDnatDmz => HasData msgJson
  | .createLan => DataFits msgJson isObject cvtJsonToLan fun _ => True
  | .createWan => DataFits msgJson isObject cvtJsonToWan fun _ => True
  | .requestDnsDhcp => HasData msgJson ∧ Releasable (storedDnsDhcp w)
  | .createDnsDhcp => DataFits msgJson isObject cvtJsonToDnsDhcp fun dnsDhcp =>
      Applicable dnsDhcp ∧ Releasable dnsDhcp
  | .createStaticRoute | .deleteStaticRoute | .updateStaticRoutes =>
      DataFits msgJson isArray cvtJsonToRouteList fun _ => True
  | .updateDnatPortForwardingProfiles | .createDnatPortForwardingProfile
  | .deleteDnatPortForwardingProfile =>
      DataFits msgJson isArray cvtJsonToIptableList fun _ =>
        CarriesPortProfiles (storedNova w)
  | .createDnatDmz => DataFits msgJson isObject cvtJsonToIptable fun _ =>
      CarriesPortProfiles (storedNova w)
  | .requestNovaServicesPortProfiles => HasData msgJson ∧
      CarriesPortProfiles (storedNova w)
  | .createNovaServicesPortProfiles =>
      DataFits msgJson isArray cvtJsonToIptableNovaServiceList
        CarriesPortProfiles

/-- The message selects none of the two handlers that other devices use. -/
def WebFacing (msgJson : Json) : Prop :=
  forall name handler, readString (some msgJson) "name" = some name ->
    selectedHandler name = some handler ->
    handler ≠ .requestActivateAgentDevice ∧
      handler ≠ .requestInactivateAgentDevice

section

variable {msgJson : Json} {env : Surroundings} {w : World}

theorem answers_run (h : Healthy w.files) (hrouted : Routed msgJson)
    {handler : MessageHandler} (hactivate : handler ≠ .requestActivateAgentDevice)
    (hinactivate : handler ≠ .requestInactivateAgentDevice) :
    Answers env msgJson (handler.run env msgJson) w <->
      FieldsPresent env msgJson w handler := by
  cases handler with
  | createMesh => exact answers_createMesh h hrouted
  | requestMesh => exact answers_requestMesh h hrouted
  | updateMesh => exact answers_updateMesh h hrouted
  | deleteMesh => exact answers_deleteMesh h hrouted
  | requestMeshDevices => exact answers_requestMeshDevices h hrouted
  | requestPairMeshDevices => exact answers_requestPairMeshDevices h hrouted
  | requestDevicesAvailableForPairing =>
      exact answers_requestDevicesAvailableForPairing h hrouted
  | updateMeshDevices => exact answers_updateMeshDevices h hrouted
  | deleteMeshDevices => exact answers_deleteMeshDevices h hrouted
  | requestActivateAgentDevice => exact absurd rfl hactivate
  | requestInactivateAgentDevice => exact absurd rfl hinactivate
  | requestMeshQuality =>
      exact iff_of_true (answers_requestMeshQuality hrouted) trivial
  | requestLan => exact answers_requestLan h hrouted
  | createLan => exact answers_createLan h hrouted
  | requestWan => exact answers_requestWan h hrouted
  | createWan => exact answers_createWan h hrouted
  | requestDnsDhcp => exact answers_requestDnsDhcp h hrouted
  | createDnsDhcp => exact answers_createDnsDhcp h hrouted
  | requestDhcp4Leases => exact answers_requestDhcp4Leases h hrouted
  | requestStaticRoutes => exact answers_requestStaticRoutes h hrouted
  | createStaticRoute => exact answers_createStaticRoute h hrouted
  | deleteStaticRoute => exact answers_deleteStaticRoute h hrouted
  | updateStaticRoutes => exact answers_updateStaticRoutes h hrouted
  | requestDnatPortForwardingProfiles =>
      exact answers_requestDnatPortForwardingProfiles h hrouted
  | updateDnatPortForwardingProfiles =>
      exact answers_updateDnatPortForwardingProfiles h hrouted
  | createDnatPortForwardingProfile =>
      exact answers_createDnatPortForwardingProfile h hrouted
  | deleteDnatPortForwardingProfile =>
      exact answers_deleteDnatPortForwardingProfile h hrouted
  | requestDnatDmz => exact answers_requestDnatDmz h hrouted
  | createDnatDmz => exact answers_createDnatDmz h hrouted
  | requestNovaServicesPortProfiles =>
      exact answers_requestNovaServicesPortProfiles h hrouted
  | createNovaServicesPortProfiles =>
      exact answers_createNovaServicesPortProfiles h hrouted

theorem answers_respondRequestInvalid (name : String) :
    Answers env msgJson (respondRequestInvalid env name msgJson) w <->
      (strtok '.' name).length ≠ 1 := by
  let answer := (cvtMsgRequestToMsgRespond
    { cvtJsonToMsgRequest (some msgJson) .empty with
      name := some env.freedName }).withError env .requestInvalid
  have henvelope : answer.envelope = envelope msgJson := rfl
  have hanswers : wp (mqttPublishMessage answer .empty)
      (fun _ w' => AnsweredBetween env msgJson w.published w'.published) w := by
    rcases exists_printed_iff.mpr (encodable_empty answer.respondData.data) with
      ⟨message, hmessage⟩
    unfold mqttPublishMessage field
    rw [wp_bind, wp_deref]
    refine ⟨message, hmessage, message, [], World.published_publish w message,
      isAnswer_of_printed henvelope (Option.some_ne_none _) hmessage, ?_⟩
    simp
  unfold Answers respondRequestInvalid
  rw [wp_bind]
  refine (wp_cvtReqNameToResName _).trans ?_
  exact and_iff_left hanswers

/-!
## Requests of the LAN setting
-/

def lanRequestName : String := "hub.ezm.network.lan.requested"

theorem selectedHandler_lanRequestName :
    selectedHandler lanRequestName = some .requestLan := by
  decide +kernel

def lanRequest (members : List (String × Json)) : Json :=
  .obj (("name", .str lanRequestName) :: members)

theorem readString_lanRequest (members : List (String × Json)) :
    readString (some (lanRequest members)) "name" = some lanRequestName := rfl

theorem webFacing_lanRequest (members : List (String × Json)) :
    WebFacing (lanRequest members) := by
  intro name handler hname hselected
  rw [readString_lanRequest] at hname
  cases hname
  rw [selectedHandler_lanRequestName] at hselected
  cases hselected
  constructor <;> decide

end

end Api
end Noc
