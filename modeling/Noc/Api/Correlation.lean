import Noc.Api.MessageHandler
import Noc.Api.Published

/-!
# Correlating answers with requests

Which fields an answer takes over from its request, and under which name it
goes out.
-/

namespace Noc
namespace Api

open Config
open Foundation
open Foundation.Exec
open Foundation.Json
open Mesh
open Network
open Utils

/-!
## The network handlers
-/

section

variable {α β : Type} {env : Surroundings} {msgJson : Json}

theorem replies_requestSetting {load : Daemon (ErrorCode × Data)}
    (hload : Silent load) (msgType : MsgType) :
    Replies env (IsReply msgJson (answerName msgJson))
      (requestSetting env load msgType msgJson) := by
  apply replies_receive
  intro msgRespond hreceived
  apply replies_bind hload
  rintro ⟨err, data⟩
  apply replies_putData hreceived
  intro answer hanswer
  exact replies_of_received (hanswer.withError env err) silent_msgRespondFree

theorem replies_applyRecord {record : Data -> Option α}
    {apply : α -> Daemon (ErrorCode × Data)}
    {release : Option α -> Daemon Unit} (msgType : MsgType)
    (happly : forall value, Silent (apply value))
    (hrelease : forall pointer, Silent (release pointer)) :
    Replies env (IsReply msgJson (answerName msgJson))
      (applyRecord env record apply release msgType msgJson) := by
  apply replies_receive
  intro msgRespond hreceived
  apply replies_bind (silent_field _)
  intro data
  cases record data with
  | none =>
      exact replies_of_silent
        (silent_bind (hrelease none) fun _ => silent_msgRespondFree)
  | some value =>
      apply replies_bind (happly value)
      rintro ⟨err, result⟩
      apply replies_putData hreceived
      intro answer hanswer
      exact replies_of_received (hanswer.withError env err)
        (silent_bind (hrelease _) fun _ => silent_msgRespondFree)

theorem silent_load (file : DaemonFile) (decode : Option Json -> α) :
    Silent (readJson file >>= fun json => pure (decode json)) :=
  silent_bind (silent_readJson file) fun _ => silent_pure _

theorem silent_coded {wrap : α -> Data} {program : Daemon (ErrorCode × α)}
    (h : Silent program) : Silent (coded wrap program) :=
  silent_bind h fun _ => silent_pure _

theorem silent_given {wrap : α -> Data} {set : α -> Daemon ErrorCode}
    (h : forall value, Silent (set value)) (value : α) :
    Silent (given wrap set value) :=
  silent_bind (h value) fun _ => silent_pure _

theorem silent_keep (pointer : Option α) : Silent (keep pointer) :=
  silent_pure _

/-!
What the handlers load and apply.
-/

theorem silent_iptablesRefresh : Silent iptablesRefresh :=
  silent_of_beside [] respects_iptablesRefresh

/-- Save, then rebuild the firewall. -/
theorem silent_saveThenRefresh {save : Daemon ErrorCode} (h : Silent save) :
    Silent (untilError [save, iptablesRefresh]) := by
  apply respects_untilError
  intro step hmem
  rcases List.mem_cons.mp hmem with rfl | hmem
  · exact h
  · rw [List.mem_singleton.mp hmem]
    exact silent_iptablesRefresh

theorem silent_writeThen (tree : Json) (file : DaemonFile)
    (result : Int32 -> α) :
    Silent (writeJson tree file >>= fun ret => pure (result ret)) :=
  silent_bind (silent_writeJson tree file) fun _ => silent_pure _

theorem silent_lanSet (lan : Lan) : Silent (lanSet lan) :=
  silent_bind (silent_appUci _) fun _ =>
    silent_bind (silent_writeThen _ _ _) fun _ =>
      silent_ite (silent_pure _)
        (silent_bind (silent_appUci _) fun _ => silent_pure _)

theorem silent_wanSet (wan : Wan) : Silent (wanSet wan) :=
  silent_bind (silent_appUci _) fun _ =>
    silent_bind (silent_writeThen _ _ _) fun _ =>
      silent_ite (silent_pure _)
        (silent_bind (silent_appUci _) fun _ => silent_pure _)

theorem silent_dnsDhcpSet (dnsDhcp : Option DnsDhcp) :
    Silent (dnsDhcpSet dnsDhcp) :=
  silent_of_beside [.dhcpSetting] (respects_dnsDhcpSet List.mem_cons_self dnsDhcp)

theorem silent_dhcpLeaseGet : Silent dhcpLeaseGet := by
  apply silent_bind (silent_onFiles _)
  intro lines
  cases lines with
  | none => exact silent_pure _
  | some lines => exact silent_pure _

theorem silent_routeLoop
    (commands : Route -> List Route -> List IpRouteCommand)
    (edit : Route -> List Route -> List Route) (requests setting : List Route)
    (foundId : Bool) :
    Silent (routeLoop commands edit requests setting foundId) := by
  induction requests generalizing setting foundId with
  | nil => exact silent_pure _
  | cons request rest ih =>
      exact silent_bind (silent_execlIpRoute _) fun _ => ih _ _

theorem silent_routeCreate (uuid : Nat -> String) (creates : List Route) :
    Silent (routeCreate uuid creates) :=
  silent_bind (silent_load _ _) fun _ =>
    silent_bind (silent_execlIpRoute _) fun _ =>
      silent_bind (silent_writeThen _ _ _) fun _ => silent_pure _

theorem silent_routeUpdate (updates : List Route) :
    Silent (routeUpdate updates) :=
  silent_bind (silent_load _ _) fun _ =>
    silent_bind (silent_routeLoop _ _ _ _ _) fun _ =>
      silent_ite
        (silent_bind (silent_writeThen _ _ _) fun _ => silent_pure _)
        (silent_pure _)

theorem silent_routeDelete (deletes : List Route) :
    Silent (routeDelete deletes) :=
  silent_bind (silent_load _ _) fun _ =>
    silent_bind (silent_routeLoop _ _ _ _ _) fun _ =>
      silent_bind (silent_writeThen _ _ _) fun _ =>
        silent_ite (silent_pure _) (silent_pure _)

theorem silent_saveForwarding (iptables : List Iptable) :
    Silent (saveForwarding iptables) :=
  silent_saveThenRefresh (silent_writeThen _ _ _)

theorem silent_iptablesDnatForwardingCreate (uuid : Nat -> String)
    (creates : List Iptable) :
    Silent (iptablesDnatForwardingCreate uuid creates) :=
  silent_bind (silent_load _ _) fun _ =>
    silent_ite (silent_pure _)
      (silent_bind (silent_saveForwarding _) fun _ => silent_pure _)

theorem silent_iptablesDnatForwardingUpdate (updates : List Iptable) :
    Silent (iptablesDnatForwardingUpdate updates) :=
  silent_bind (silent_load _ _) fun _ =>
    silent_bind (silent_saveForwarding _) fun _ =>
      silent_ite (silent_pure _)
        (silent_ite (silent_pure _) (silent_pure _))

theorem silent_iptablesDnatForwardingDelete (deletes : List Iptable) :
    Silent (iptablesDnatForwardingDelete deletes) :=
  silent_bind (silent_load _ _) fun _ =>
    silent_bind (silent_saveForwarding _) fun _ =>
      silent_ite (silent_pure _)
        (silent_ite (silent_pure _) (silent_pure _))

theorem silent_iptableDnatDmzUpdate (iptables : Iptable) :
    Silent (iptableDnatDmzUpdate iptables) :=
  silent_saveThenRefresh (silent_writeThen _ _ _)

theorem silent_iptableNovaServiceSet (services : List IptableNovaService) :
    Silent (iptableNovaServiceSet services) :=
  silent_saveThenRefresh
    (silent_bind (silent_field _) fun _ => silent_writeThen _ _ _)

theorem silent_routeListFree (routes : Option (List Route)) :
    Silent (routeListFree routes) :=
  silent_bind (silent_field routes) fun _ => silent_pure _

theorem replies_createDnsDhcp :
    Replies env (IsReply msgJson (answerName msgJson))
      (createDnsDhcp env msgJson) := by
  apply replies_receive
  intro msgRespond hreceived
  apply replies_bind (silent_field _)
  intro data
  apply replies_bind (silent_field _)
  intro dnsDhcp
  apply replies_bind (silent_dnsDhcpSet _)
  intro err
  exact replies_of_received ((hreceived.withData _).withError env err)
    silent_msgRespondFree

end

/-!
## The mesh setting handlers
-/

section

variable {env : Surroundings} {msgJson : Json} {msgRespond : MsgRespond}

theorem silent_readMeshSetting : Silent readMeshSetting :=
  silent_load _ _

theorem silent_meshSettingFree (setting : Option MeshSetting) :
    Silent (meshSettingFree setting) :=
  respects_meshSettingFree setting

theorem silent_getWorkMode : Silent getWorkMode := by
  apply silent_bind silent_readMeshSetting
  intro setting
  apply silent_bind (silent_field _)
  intro text
  cases recognisedMode text with
  | none => exact silent_pure _
  | some mode =>
      exact silent_bind (silent_meshSettingFree _) fun _ => silent_pure _

theorem silent_writeMeshSetting (setting : MeshSetting) :
    Silent (writeMeshSetting setting) :=
  silent_of_beside [.meshSetting]
    (respects_writeMeshSetting List.mem_cons_self setting)

theorem silent_enter (mode : WorkMode) : Silent (enter mode) :=
  respects_modify fun _ => rfl

theorem silent_runStandaloneMode : Silent (runStandaloneMode env) :=
  silent_bind (silent_enter _) fun _ =>
    silent_of_beside modeFiles (respects_standaloneSteps env)

theorem silent_runAgentMode : Silent (runAgentMode env) :=
  silent_bind (silent_enter _) fun _ =>
    silent_of_beside modeFiles (respects_agentSteps env)

theorem silent_runControllerMode : Silent (runControllerMode env) :=
  silent_bind (silent_enter _) fun _ =>
    silent_of_beside modeFiles (respects_controllerSteps env)

theorem silent_iptablesAllowAllTraffic : Silent iptablesAllowAllTraffic :=
  silent_bind (silent_execlIptables _) fun _ => silent_pure _

theorem silent_switchAgent {run : Daemon Unit} (mode : WorkMode)
    (hrun : Silent run) : Silent (switchAgent mode run) :=
  silent_bind silent_readMeshSetting fun _ =>
    silent_bind (silent_writeMeshSetting _) fun _ =>
      silent_bind hrun fun _ => silent_meshSettingFree _

theorem replies_createMesh :
    Replies env (IsReply msgJson (answerName msgJson)) (createMesh env msgJson) := by
  apply replies_receive
  intro msgRespond hreceived
  apply replies_bind silent_getWorkMode
  intro workMode
  refine replies_ite ?_ (replies_respondCode hreceived _ _)
  apply replies_bind (silent_field _)
  intro data
  apply replies_bind (silent_field _)
  intro requested
  apply replies_bind (silent_field _)
  intro wireless
  apply replies_bind (silent_field _)
  intro iface
  refine replies_of_received ((hreceived.withData _).withError env _) ?_
  exact silent_bind (silent_writeMeshSetting _) fun _ =>
    silent_bind silent_iptablesAllowAllTraffic fun _ =>
      silent_bind silent_runControllerMode fun _ => silent_msgRespondFree

theorem replies_requestMesh :
    Replies env (IsReply msgJson (answerName msgJson))
      (requestMesh env msgJson) := by
  apply replies_receive
  intro msgRespond hreceived
  apply replies_bind silent_getWorkMode
  intro workMode
  refine replies_ite (replies_respondCode hreceived _ _) ?_
  apply replies_bind silent_readMeshSetting
  intro setting
  apply replies_putData hreceived
  intro answer hanswer
  exact replies_of_received (hanswer.withError env _) silent_msgRespondFree

/-- The name after both conversions. -/
def downName (msgJson : Json) : String :=
  responseName (segments (some (answerName msgJson)))

theorem replies_respondDeamonDown
    (hreceived : Received msgJson (answerName msgJson) msgRespond) :
    Replies env (IsReply msgJson (downName msgJson))
      (respondDeamonDown env msgRespond) := by
  apply replies_bind_of_spec (silent_cvtReqNameToResName _)
    (wlp_cvtReqNameToResName_eq _)
  rintro name rfl
  have hrenamed : Received msgJson (downName msgJson)
      { msgRespond with
        name := some (responseName (segments msgRespond.name)) } := by
    refine ⟨hreceived.envelope, hreceived.createdTime, ?_⟩
    rw [hreceived.name]
    rfl
  exact replies_respondCode hrenamed _ _

/-- The name an update and a deletion answer under. -/
def checkedName (env : Surroundings) (msgJson : Json) : String :=
  if env.deamonIsRunning = false then downName msgJson else answerName msgJson

theorem replies_whenRunning {running : Daemon Unit}
    (hreceived : Received msgJson (answerName msgJson) msgRespond)
    (hrunning : Replies env (IsReply msgJson (answerName msgJson)) running) :
    Replies env (IsReply msgJson (checkedName env msgJson))
      (if env.deamonIsRunning = false then respondDeamonDown env msgRespond
        else running) := by
  unfold checkedName
  split
  · exact replies_respondDeamonDown hreceived
  · exact hrunning

theorem replies_updateMesh :
    Replies env (IsReply msgJson (checkedName env msgJson))
      (updateMesh env msgJson) := by
  apply replies_receive
  intro msgRespond hreceived
  apply replies_whenRunning hreceived
  apply replies_bind silent_getWorkMode
  intro workMode
  refine replies_ite (replies_respondCode hreceived _ _) ?_
  apply replies_bind silent_readMeshSetting
  intro setting
  apply replies_bind (silent_field _)
  intro data
  apply replies_bind (silent_field _)
  intro requested
  refine replies_ite ?_ ?_
  · apply replies_bind (silent_writeMeshSetting _)
    intro _
    refine replies_of_received (hreceived.withError env _) ?_
    exact silent_bind (silent_meshSettingFree _) fun _ =>
      silent_bind (silent_field _) fun _ =>
        silent_bind (silent_of_beside [] (respects_changeWifiIface _)) fun _ =>
          silent_msgRespondFree
  · refine replies_of_received (hreceived.withError env _) ?_
    exact silent_bind (silent_meshSettingFree _) fun _ => silent_msgRespondFree

theorem replies_deleteMesh :
    Replies env (IsReply msgJson (checkedName env msgJson))
      (deleteMesh env msgJson) := by
  apply replies_receive
  intro msgRespond hreceived
  apply replies_whenRunning hreceived
  apply replies_bind silent_getWorkMode
  intro workMode
  refine replies_ite (replies_respondCode hreceived _ _) ?_
  apply replies_bind silent_readMeshSetting
  intro stored
  apply replies_bind (silent_writeMeshSetting _)
  intro _
  refine replies_of_received (hreceived.withError env _) ?_
  exact silent_bind silent_runStandaloneMode fun _ =>
    silent_bind (silent_meshSettingFree _) fun _ => silent_msgRespondFree

end

/-!
## The device handlers
-/

section

variable {env : Surroundings} {msgJson : Json} {msgRespond : MsgRespond}

theorem silent_saveDeviceListToFile (devices : List DeviceInfo) :
    Silent (saveDeviceListToFile devices) :=
  silent_writeThen _ _ _

theorem silent_requestDeviceListFromFile : Silent requestDeviceListFromFile :=
  silent_load _ _

theorem silent_requestDeviceListFromFileByStatus (status : Int32) :
    Silent (requestDeviceListFromFileByStatus status) :=
  silent_bind silent_requestDeviceListFromFile fun _ => silent_pure _

/-- Read the stored devices and write others back. -/
theorem silent_editDevices (edit : List DeviceInfo -> List DeviceInfo) :
    Silent (requestDeviceListFromFile >>= fun current =>
      saveDeviceListToFile (edit current)) :=
  silent_bind silent_requestDeviceListFromFile fun _ =>
    silent_saveDeviceListToFile _

theorem silent_deleteDeviceListFromFile (devices : List DeviceInfo) :
    Silent (deleteDeviceListFromFile devices) :=
  silent_bind silent_requestDeviceListFromFile fun _ =>
    silent_bind (silent_saveDeviceListToFile _) fun _ => silent_pure _

theorem silent_updateDeviceListToFileFromWeb (devices : List DeviceInfo) :
    Silent (updateDeviceListToFileFromWeb devices) :=
  silent_bind silent_requestDeviceListFromFile fun _ =>
    silent_bind (silent_saveDeviceListToFile _) fun _ => silent_pure _

theorem silent_openWhile {α : Type} {query : Daemon α} (h : Silent query) :
    Silent (openWhile query) :=
  silent_bind silent_iptablesAllowAllTraffic fun _ =>
    silent_bind h fun _ =>
      silent_bind silent_iptablesRefresh fun _ => silent_pure _

theorem replies_requestMeshDevices :
    Replies env (IsReply msgJson (answerName msgJson))
      (requestMeshDevices env msgJson) := by
  apply replies_receive
  intro msgRespond hreceived
  refine replies_ite (replies_respondCode hreceived _ _) ?_
  apply replies_bind (silent_editDevices _)
  intro _
  apply replies_bind (silent_requestDeviceListFromFileByStatus _)
  intro devices
  apply replies_putData hreceived
  intro answer hanswer
  exact replies_of_received (hanswer.withError env _) silent_msgRespondFree

theorem replies_requestPairMeshDevices :
    Replies env (IsReply msgJson (answerName msgJson))
      (requestPairMeshDevices env msgJson) := by
  apply replies_receive
  intro msgRespond hreceived
  refine replies_ite (replies_respondCode hreceived _ _) ?_
  apply replies_bind (silent_field _)
  intro data
  apply replies_bind (silent_field _)
  intro devices
  apply replies_bind (silent_of_beside [] (respects_pairDevices _ _))
  intro stopped
  cases stopped with
  | some code => exact replies_respondCode hreceived _ _
  | none =>
      apply replies_bind (silent_editDevices _)
      intro _
      refine replies_ite ?_ (replies_respondCode (hreceived.withData _) _ _)
      exact replies_of_received ((hreceived.withData _).withError env _)
        silent_msgRespondFree

theorem replies_requestDevicesAvailableForPairing :
    Replies env (IsReply msgJson (answerName msgJson))
      (requestDevicesAvailableForPairing env msgJson) := by
  apply replies_receive
  intro msgRespond hreceived
  refine replies_ite (replies_respondCode hreceived _ _) ?_
  apply replies_bind (silent_openWhile (silent_field _))
  intro devices
  apply replies_putData hreceived
  intro answer hanswer
  exact replies_of_received (hanswer.withError env _) silent_msgRespondFree

theorem replies_updateMeshDevices :
    Replies env (IsReply msgJson (answerName msgJson))
      (updateMeshDevices env msgJson) := by
  apply replies_receive
  intro msgRespond hreceived
  refine replies_ite (replies_respondCode hreceived _ _) ?_
  apply replies_bind (silent_field _)
  intro data
  apply replies_bind (silent_field _)
  intro devices
  apply replies_bind (silent_updateDeviceListToFileFromWeb devices)
  intro ret
  exact replies_of_received ((hreceived.withData _).withError env _)
    silent_msgRespondFree

/-- The announcement goes out after the answer. -/
theorem replies_deleteMeshDevices :
    Replies env (IsReply msgJson (answerName msgJson))
      (deleteMeshDevices env msgJson) := by
  apply replies_receive
  intro msgRespond hreceived
  refine replies_ite (replies_respondCode hreceived _ _) ?_
  apply replies_bind (silent_editDevices _)
  intro _
  apply replies_bind (silent_requestDeviceListFromFileByStatus _)
  intro before
  apply replies_bind (silent_field _)
  intro data
  apply replies_bind (silent_field _)
  intro deleted
  apply replies_bind (silent_deleteDeviceListFromFile deleted)
  intro ret
  refine replies_ite (replies_respondCode hreceived _ _) ?_
  apply replies_bind (silent_of_beside [] (respects_requestInactivation _ _))
  intro _
  refine replies_ite ?_ (replies_respondCode hreceived _ _)
  have hanswer := hreceived.withError env .success
  refine replies_publish
    (fun _ hmessage => isReply_of_received hanswer hmessage) ?_
  exact respects_bind (respects_broadcast rfl) fun _ =>
    onlyBroadcasts_of_silent silent_msgRespondFree

theorem replies_requestMeshQuality :
    Replies env (IsReply msgJson (answerName msgJson))
      (requestMeshQuality env msgJson) := by
  apply replies_bind_of_spec (silent_cvtReqNameToResName _)
    (wlp_cvtReqNameToResName_eq _)
  rintro name rfl
  have hreceived : Received msgJson (answerName msgJson)
      { ((cvtMsgRequestToMsgRespond (cvtJsonToMsgRequest (some msgJson)
          .empty)).withData (.qualityProfileList getMeshQuality)).withError env
            .success with name := some (answerName msgJson) } :=
    ⟨rfl, rfl, rfl⟩
  exact replies_of_received hreceived silent_msgRespondFree

end

/-!
## Every handler
-/

/-- The name a handler's answer goes out under. -/
def MessageHandler.replyName (env : Surroundings) (msgJson : Json) :
    MessageHandler -> String
  | updateMesh => checkedName env msgJson
  | deleteMesh => checkedName env msgJson
  | _ => answerName msgJson

section

variable {env : Surroundings} {msgJson : Json}

theorem replies_run (handler : MessageHandler) :
    Replies env (IsReply msgJson (handler.replyName env msgJson))
      (handler.run env msgJson) := by
  cases handler with
  | createMesh => exact replies_createMesh
  | requestMesh => exact replies_requestMesh
  | updateMesh => exact replies_updateMesh
  | deleteMesh => exact replies_deleteMesh
  | requestMeshDevices => exact replies_requestMeshDevices
  | requestPairMeshDevices => exact replies_requestPairMeshDevices
  | requestDevicesAvailableForPairing =>
      exact replies_requestDevicesAvailableForPairing
  | updateMeshDevices => exact replies_updateMeshDevices
  | deleteMeshDevices => exact replies_deleteMeshDevices
  | requestActivateAgentDevice =>
      exact replies_of_silent (silent_switchAgent _ silent_runAgentMode)
  | requestInactivateAgentDevice =>
      exact replies_of_silent (silent_switchAgent _ silent_runStandaloneMode)
  | requestMeshQuality => exact replies_requestMeshQuality
  | requestLan => exact replies_requestSetting (silent_coded (silent_load _ _)) _
  | createLan =>
      exact replies_applyRecord _ (silent_given silent_lanSet) silent_keep
  | requestWan => exact replies_requestSetting (silent_coded (silent_load _ _)) _
  | createWan =>
      exact replies_applyRecord _ (silent_given silent_wanSet) silent_keep
  | requestDnsDhcp =>
      exact replies_requestSetting
        (silent_bind (silent_load _ _) fun _ => silent_pure _) _
  | createDnsDhcp => exact replies_createDnsDhcp
  | requestDhcp4Leases =>
      exact replies_requestSetting (silent_coded silent_dhcpLeaseGet) _
  | requestStaticRoutes =>
      exact replies_requestSetting
        (silent_coded (silent_bind (silent_load _ _) fun _ => silent_pure _)) _
  | createStaticRoute =>
      exact replies_applyRecord _
        (fun _ => silent_coded (silent_routeCreate _ _)) silent_keep
  | deleteStaticRoute =>
      exact replies_applyRecord _
        (fun _ => silent_coded (silent_routeDelete _)) silent_routeListFree
  | updateStaticRoutes =>
      exact replies_applyRecord _
        (fun _ => silent_coded (silent_routeUpdate _)) silent_routeListFree
  | requestDnatPortForwardingProfiles =>
      exact replies_requestSetting (silent_coded (silent_load _ _)) _
  | updateDnatPortForwardingProfiles =>
      exact replies_applyRecord _
        (fun _ => silent_coded (silent_iptablesDnatForwardingUpdate _)) silent_keep
  | createDnatPortForwardingProfile =>
      exact replies_applyRecord _
        (fun _ => silent_coded (silent_iptablesDnatForwardingCreate _ _))
        silent_keep
  | deleteDnatPortForwardingProfile =>
      exact replies_applyRecord _
        (fun _ => silent_coded (silent_iptablesDnatForwardingDelete _)) silent_keep
  | requestDnatDmz =>
      exact replies_requestSetting (silent_coded (silent_load _ _)) _
  | createDnatDmz =>
      exact replies_applyRecord _ (silent_given silent_iptableDnatDmzUpdate)
        silent_keep
  | requestNovaServicesPortProfiles =>
      exact replies_requestSetting (silent_coded (silent_load _ _)) _
  | createNovaServicesPortProfiles =>
      exact replies_applyRecord _ (silent_given silent_iptableNovaServiceSet)
        silent_keep

/-- An invalid name is answered under what is left of it. -/
theorem replies_respondRequestInvalid (name : String) :
    Replies env (IsReply msgJson env.freedName)
      (respondRequestInvalid env name msgJson) := by
  apply replies_bind (silent_cvtReqNameToResName _)
  intro _
  have hreceived : Received msgJson env.freedName
      ((cvtMsgRequestToMsgRespond
        { cvtJsonToMsgRequest (some msgJson) .empty with
          name := some env.freedName }).withError env .requestInvalid) :=
    ⟨rfl, rfl, rfl⟩
  exact replies_publish_last fun _ hmessage =>
    isReply_of_received hreceived hmessage

end

/-!
## The fields of an answer

A field is taken over as a string and the time through a C `int`.
-/

/-- Clients tell by these members which request an answer is for. -/
def correlationKeys : List String :=
  "created_time" :: envelopeKeys

/-- The answer has the members of the request, the absent ones left out. -/
def SameFields (msgJson message : Json) : Prop :=
  forall key, key ∈ correlationKeys ->
    getItem (some message) key = getItem (some msgJson) key

/-- The members that are there are strings, and the time is a number a C `int`
holds. -/
structure FieldsFit (msgJson : Json) : Prop where
  strings : forall key, key ∈ envelopeKeys ->
    forall value, getItem (some msgJson) key = some value ->
      value.isString = true
  createdTime : exists n, getItem (some msgJson) "created_time" = some (num n) ∧
    InIntRange n

theorem ofString_stringValue_iff (item : Option Json) :
    ofString (stringValue item) = item <->
      forall value, item = some value -> value.isString = true := by
  cases item with
  | none => simp [stringValue, ofString]
  | some value => cases value <;> simp [stringValue, ofString, isString]

theorem toInt_intValue_iff (item : Option Json) :
    some (num (intValue item).toInt) = item <->
      exists n, item = some (num n) ∧ InIntRange n := by
  cases item with
  | none => simp
  | some value =>
      cases value with
      | num n => simp [intValue, numberValue, toInt_valueInt_iff]
      | _ => simp

section

variable {env : Surroundings} {msgJson message : Json}

theorem sameFields_iff {name : String} (h : IsReply msgJson name message) :
    SameFields msgJson message <-> FieldsFit msgJson := by
  have hstrings : forall key, key ∈ envelopeKeys ->
      (getItem (some message) key = getItem (some msgJson) key <->
        forall value, getItem (some msgJson) key = some value ->
          value.isString = true) := by
    intro key hkey
    rw [h.fields key hkey]
    exact ofString_stringValue_iff _
  have htime : getItem (some message) "created_time" =
      getItem (some msgJson) "created_time" <->
        exists n, getItem (some msgJson) "created_time" = some (num n) ∧
          InIntRange n := by
    rw [h.createdTime]
    exact toInt_intValue_iff _
  unfold SameFields correlationKeys
  rw [List.forall_mem_cons, htime]
  constructor
  · rintro ⟨hcreated, hall⟩
    exact ⟨fun key hkey => (hstrings key hkey).mp (hall key hkey), hcreated⟩
  · intro hfit
    exact ⟨hfit.createdTime, fun key hkey =>
      (hstrings key hkey).mpr (hfit.strings key hkey)⟩

/-- Whatever a message makes the daemon do, its answer carries the fields of
the request exactly when they survive the decoding. -/
theorem carriesFields_iff (env : Surroundings) (msgJson : Json) :
    Replies env (fun message => SameFields msgJson message <-> FieldsFit msgJson)
      (mqttOnMessageCbHandler env (some msgJson)) := by
  unfold mqttOnMessageCbHandler
  dsimp only
  cases hname : readString (some msgJson) "name" with
  | none => exact replies_of_silent (silent_pure _)
  | some name =>
      dsimp only
      cases selectedHandler name with
      | none =>
          exact (replies_respondRequestInvalid name).mono
            fun _ hreply => sameFields_iff hreply
      | some handler =>
          exact (replies_run handler).mono fun _ hreply => sameFields_iff hreply

end

/-- A request that carries the time in milliseconds. -/
def timedRequest : Json :=
  lanRequest [("data", .obj []), ("created_time", .num 1700000000000)]

theorem not_fieldsFit_timedRequest : ¬ FieldsFit timedRequest := by
  intro hfit
  rcases hfit.createdTime with ⟨n, hn, hrange⟩
  have htime : (1700000000000 : Int) = n := by
    simpa [timedRequest, lanRequest, getItem, List.lookup_cons] using hn
  rw [← htime] at hrange
  revert hrange
  decide

/-- The request is answered, and with another time. -/
theorem not_carriesFields_of_milliseconds :
    exists answer broadcasts,
      (final (mqttOnMessageCbHandler .alone (some timedRequest))
        World.installed).published = answer :: broadcasts ∧
      ¬ SameFields timedRequest answer := by
  have hrouted : Routed timedRequest :=
    ⟨lanRequestName, rfl,
      two_le_of_selectedHandler selectedHandler_lanRequestName⟩
  have hcallback : mqttOnMessageCbHandler .alone (some timedRequest) =
      requestLan .alone timedRequest := by
    have hname : readString (some timedRequest) "name" = some lanRequestName :=
      rfl
    unfold mqttOnMessageCbHandler
    dsimp only
    rw [hname]
    dsimp only
    rw [selectedHandler_lanRequestName]
    rfl
  have hanswers : Answers .alone timedRequest (requestLan .alone timedRequest)
      World.installed :=
    (answers_requestLan healthy_installed hrouted).mpr (Option.some_ne_none _)
  have hreplies : Replies .alone (IsReply timedRequest (answerName timedRequest))
      (requestLan .alone timedRequest) := replies_run .requestLan
  rcases exists_reply_of_answers hanswers hreplies with
    ⟨answer, broadcasts, hafter, hreply⟩
  refine ⟨answer, broadcasts, ?_, ?_⟩
  · rw [hcallback]
    exact hafter
  · rw [sameFields_iff hreply]
    exact not_fieldsFit_timedRequest

end Api
end Noc
