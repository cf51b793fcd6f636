import Noc.Api.Reply
import Noc.Mesh.RunMode
import Noc.Network.Iptables.Store

/-!
# The mesh device handlers

The handlers of `api/mesh/mesh_handler.c` that list, pair, rename and delete
devices, and the one that reports the quality of the mesh.
-/

namespace Noc
namespace Api

open Foundation
open Foundation.Exec
open Foundation.Json
open Mesh
open Network
open Utils

def activateRequestName : String :=
  "ezm.ezm.mesh.device.agent.activate.requested"

def inactivateRequestName : String :=
  "ezm.ezm.mesh.device.agent.inactivate.requested"

/-!
## Handlers
-/

def requestMeshDevices (env : Surroundings) (msgJson : Json) : Daemon Unit := do
  let (_, msgRespond) <- receive msgJson .empty
  if env.deamonIsRunning = false then
    respondCode env .success .empty msgRespond
  else
    updateDeviceListToFileFromEmtDevice env.topology
    let devices <- requestDeviceListFromFileByStatus deviceOn
    let msgRespond <- msgRespond.putData (.deviceList devices)
    let msgRespond := msgRespond.withError env .success
    mqttPublishMessage msgRespond .meshDeviceList
    msgRespondFree msgRespond .meshDeviceList

/-- Only a standalone device is asked to join.  The first device that is not
one, or that cannot be reached, ends the pairing with a code. -/
def pairDevices (env : Surroundings) (msgRequest : MsgRequest) :
    List DeviceInfo -> Daemon (Option ErrorCode)
  | [] => return none
  | device :: rest => do
      let role <- field device.role
      if role = "standalone" then
        let ret <- mqttPublishMessageToExternal env device.ip device.ezmId
          { msgRequest with name := some activateRequestName } .empty
        if ret = -1 then return some .internalServer
        else pairDevices env msgRequest rest
      else return some .unknown

def requestPairMeshDevices (env : Surroundings) (msgJson : Json) :
    Daemon Unit := do
  let (msgRequest, msgRespond) <- receive msgJson .meshDeviceList
  if env.deamonIsRunning = false then
    respondCode env .ezmeshDeamonConnectFail .meshDeviceList msgRespond
  else
    let data <- field msgRequest.data
    let devices <- field data.toDeviceList
    match <- pairDevices env msgRequest devices with
    | some code => respondCode env code .meshDeviceList msgRespond
    | none =>
        let paired := devices.map fun device =>
          { device with status := devicePairing }
        let msgRespond := msgRespond.withData (.deviceList paired)
        setDeviceListToFile paired
        if env.polled.any fun polled =>
            env.topology.length < polled.length then
          let msgRespond := msgRespond.withError env .success
          mqttPublishMessage msgRespond .meshDeviceList
          msgRespondFree msgRespond .meshDeviceList
        else respondCode env .timeout .meshDeviceList msgRespond

def requestDevicesAvailableForPairing (env : Surroundings) (msgJson : Json) :
    Daemon Unit := do
  let (_, msgRespond) <- receive msgJson .empty
  if env.deamonIsRunning = false then
    respondCode env .success .empty msgRespond
  else
    let devices <- openWhile (field env.available)
    let msgRespond <- msgRespond.putData (.deviceList devices)
    let msgRespond := msgRespond.withError env .success
    mqttPublishMessage msgRespond .meshDeviceList
    msgRespondFree msgRespond .meshDeviceList

def updateMeshDevices (env : Surroundings) (msgJson : Json) : Daemon Unit := do
  let (msgRequest, msgRespond) <- receive msgJson .meshDeviceList
  if env.deamonIsRunning = false then
    respondCode env .ezmeshDeamonConnectFail .meshDeviceList msgRespond
  else
    let data <- field msgRequest.data
    let devices <- field data.toDeviceList
    let ret <- updateDeviceListToFileFromWeb devices
    let msgRespond := (msgRespond.withData (.deviceList devices)).withError env
      (if ret then .success else .deviceNotFound)
    mqttPublishMessage msgRespond .meshDeviceList
    msgRespondFree msgRespond .meshDeviceList

/-- A successful deletion is answered and then announced under the broadcast
name. -/
def deleteMeshDevices (env : Surroundings) (msgJson : Json) : Daemon Unit := do
  let (msgRequest, msgRespond) <- receive msgJson .meshDeviceList
  if env.deamonIsRunning = false then
    respondCode env .ezmeshDeamonConnectFail .meshDeviceList msgRespond
  else
    updateDeviceListToFileFromEmtDevice env.topology
    let before <- requestDeviceListFromFileByStatus deviceOn
    let data <- field msgRequest.data
    let deleted <- field data.toDeviceList
    let ret <- deleteDeviceListFromFile deleted
    if ret = false then
      respondCode env .deviceNotFound .meshDeviceList msgRespond
    else
      each
        (fun device => mqttPublishMessageToMqttBridge device.ezmId
          { msgRequest with name := some inactivateRequestName } .empty)
        deleted
      if env.polled.any fun polled => polled.length < before.length then
        let msgRespond := msgRespond.withError env .success
        mqttPublishMessage msgRespond .meshDeviceList
        let broadcast :=
          { msgRespond with name := some env.broadcastRequestName }
        mqttPublishMessage broadcast .meshDeviceList
        msgRespondFree broadcast .meshDeviceList
      else respondCode env .timeout .meshDeviceList msgRespond

/-- The only handler that makes up for a request without data. -/
def requestMeshQuality (env : Surroundings) (msgJson : Json) :
    Daemon Unit := do
  let msgRequest := cvtJsonToMsgRequest (some msgJson) .empty
  let msgRespond := ((cvtMsgRequestToMsgRespond msgRequest).withData
    (.qualityProfileList getMeshQuality)).withError env .success
  let name <- cvtReqNameToResName msgRespond.name
  let msgRespond := { msgRespond with name := some name }
  mqttPublishMessage msgRespond .meshQuality
  msgRespondFree msgRespond .meshQuality

/-!
## When they answer
-/

/-- No device lacks a role up to the one that ends the pairing. -/
def rolesNamed (env : Surroundings) : List DeviceInfo -> Bool
  | [] => true
  | device :: rest =>
      match device.role with
      | none => false
      | some role =>
          if role = "standalone" && env.reaches device.ip device.ezmId then
            rolesNamed env rest
          else true

/-- The devices a message carries. -/
def requestedDevices (msgJson : Json) : Option (List DeviceInfo) :=
  (payload msgJson .meshDeviceList).bind Data.toDeviceList

section

variable {msgJson : Json} {msgRespond : MsgRespond} {env : Surroundings}
  {w : World}

theorem respects_mqttPublishMessageToExternal {touched : List DaemonFile}
    (host ezmId : Option String) (msgRequest : MsgRequest)
    (msgType : MsgType) :
    Respects (Beside touched)
      (mqttPublishMessageToExternal env host ezmId msgRequest msgType) :=
  respects_bind (respects_deref _ _) fun _ =>
    respects_ite
      (respects_bind
        (respects_modify fun _ => ⟨id, fun _ _ => rfl, rfl, rfl⟩)
        fun _ => respects_pure _)
      (respects_pure _)

theorem respects_pairDevices {touched : List DaemonFile}
    (msgRequest : MsgRequest) (devices : List DeviceInfo) :
    Respects (Beside touched) (pairDevices env msgRequest devices) := by
  induction devices with
  | nil => exact respects_pure _
  | cons device rest ih =>
      refine respects_bind (respects_deref _ _) ?_
      intro role
      refine respects_ite ?_ (respects_pure _)
      refine respects_bind (respects_mqttPublishMessageToExternal _ _ _ _) ?_
      intro ret
      exact respects_ite (respects_pure _) ih

/-- A message without payload is always printed. -/
theorem exists_printedRequest (msgRequest : MsgRequest) :
    exists message, cvtMsgRequestToJson msgRequest .empty = some message := by
  unfold cvtMsgRequestToJson cvtDataToJson
  cases msgRequest.data <;> exact ⟨_, rfl⟩

theorem wp_mqttPublishMessageToExternal (host ezmId : Option String)
    (msgRequest : MsgRequest) :
    wp (mqttPublishMessageToExternal env host ezmId msgRequest .empty)
      (fun ret _ => ret = if env.reaches host ezmId then 0 else -1) w := by
  rcases exists_printedRequest msgRequest with ⟨message, hmessage⟩
  unfold mqttPublishMessageToExternal field
  rw [wp_bind, wp_deref]
  refine ⟨message, hmessage, ?_⟩
  cases env.reaches host ezmId <;> simp

theorem returns_pairDevices (msgRequest : MsgRequest)
    (devices : List DeviceInfo) (w : World) :
    wp (pairDevices env msgRequest devices) (fun _ _ => True) w <->
      rolesNamed env devices = true := by
  induction devices generalizing w with
  | nil => simp [pairDevices, rolesNamed]
  | cons device rest ih =>
      unfold pairDevices rolesNamed field
      rw [wp_bind, wp_deref]
      cases device.role with
      | none => simp
      | some role =>
          simp only [Option.some_inj, exists_eq_left', wp_ite]
          by_cases hrole : role = "standalone"
          · have hsent : wp (mqttPublishMessageToExternal env device.ip
                device.ezmId { msgRequest with
                  name := some activateRequestName } .empty >>= fun ret =>
                if ret = -1 then (pure (some .internalServer) :
                  Daemon (Option ErrorCode))
                else pairDevices env msgRequest rest) (fun _ _ => True) w <->
                True ∧ (env.reaches device.ip device.ezmId = true ->
                  rolesNamed env rest = true) := by
              apply wp_bind_iff_of_wlp
                (wlp_of_wp (wp_mqttPublishMessageToExternal _ _ _))
              · exact iff_of_true (wp_mono (fun _ _ _ => trivial)
                  (wp_mqttPublishMessageToExternal _ _ _)) trivial
              · intro ret w' hret
                rw [hret]
                cases env.reaches device.ip device.ezmId with
                | false => simp
                | true => simpa using ih w'
            rw [if_pos hrole, hsent, true_and]
            cases env.reaches device.ip device.ezmId <;> simp [hrole]
          · simp [hrole]

theorem encodable_deviceList (devices : List DeviceInfo) :
    Encodable (some (.deviceList devices)) .meshDeviceList :=
  Option.some_ne_none _

theorem freeable_deviceList (data : Option Data) :
    Freeable data .meshDeviceList :=
  fun _ _ => trivial

theorem answers_requestMeshDevices (h : Healthy w.files)
    (hrouted : Routed msgJson) :
    Answers env msgJson (requestMeshDevices env msgJson) w <->
      (env.deamonIsRunning = true -> HasData msgJson) := by
  rcases run_receive (w := w) hrouted .empty with ⟨msgRespond, hopened, hrun⟩
  unfold Answers requestMeshDevices
  rw [wp_bind, wp_of_run hrun]
  show wp (if env.deamonIsRunning = false then _ else _) _ w <-> _
  cases env.deamonIsRunning with
  | false =>
      rw [if_pos rfl]
      refine iff_of_true ?_ (by simp)
      exact (wp_respondCode rfl hopened.envelope).mpr fun _ _ => trivial
  | true =>
      have hstored := healthy_storeDevices h
        (pollDeviceList env.topology (storedDevices w))
      rw [if_neg (by simp), imp_iff_right (rfl : true = true), wp_bind,
        wp_of_run (run_updateDeviceListToFileFromEmtDevice h _), wp_bind,
        wp_of_run (run_requestDeviceListFromFileByStatus hstored _), wp_bind,
        wp_putData, hopened.hasData_iff]
      apply and_iff_left
      let devices := (storedDevices (storeDevices
        (pollDeviceList env.topology (storedDevices w)) w)).filter
          fun device => device.status = deviceOn
      let answer := (msgRespond.withData (.deviceList devices)).withError env
        .success
      have henvelope : answer.envelope = envelope msgJson := hopened.envelope
      exact (wp_publish_free rfl henvelope (Option.some_ne_none _)).mpr
        ⟨encodable_deviceList devices, freeable_deviceList _⟩

theorem answers_requestDevicesAvailableForPairing (h : Healthy w.files)
    (hrouted : Routed msgJson) :
    Answers env msgJson (requestDevicesAvailableForPairing env msgJson) w <->
      (env.deamonIsRunning = true -> HasData msgJson ∧
        env.available ≠ none ∧ CarriesPortProfiles (storedNova w)) := by
  rcases run_receive (w := w) hrouted .empty with ⟨msgRespond, hopened, hrun⟩
  unfold Answers requestDevicesAvailableForPairing
  rw [wp_bind, wp_of_run hrun]
  show wp (if env.deamonIsRunning = false then _ else _) _ w <-> _
  cases env.deamonIsRunning with
  | false =>
      rw [if_pos rfl]
      refine iff_of_true ?_ (by simp)
      exact (wp_respondCode rfl hopened.envelope).mpr fun _ _ => trivial
  | true =>
      rw [if_neg (by simp), imp_iff_right (rfl : true = true), wp_bind,
        wp_openWhile_field h]
      have hanswer : forall devices : List DeviceInfo,
          wp (msgRespond.putData (.deviceList devices) >>= fun msgRespond =>
            mqttPublishMessage (msgRespond.withError env .success)
              .meshDeviceList >>= fun _ =>
                msgRespondFree (msgRespond.withError env .success)
                  .meshDeviceList)
            (fun _ w' => AnsweredBetween env msgJson w.published w'.published)
            (refreshed w) <-> HasData msgJson := by
        intro devices
        rw [wp_bind, wp_putData, hopened.hasData_iff]
        apply and_iff_left
        let answer := (msgRespond.withData (.deviceList devices)).withError env
          .success
        have henvelope : answer.envelope = envelope msgJson := hopened.envelope
        exact (wp_publish_free rfl henvelope (Option.some_ne_none _)).mpr
          ⟨encodable_deviceList devices, freeable_deviceList _⟩
      constructor
      · rintro ⟨devices, hfound, hcarries, hanswers⟩
        exact ⟨(hanswer devices).mp hanswers,
          by rw [hfound]; exact Option.some_ne_none _, hcarries⟩
      · rintro ⟨hdata, havailable, hcarries⟩
        rcases Option.ne_none_iff_exists'.mp havailable with ⟨devices, hfound⟩
        exact ⟨devices, hfound, hcarries, (hanswer devices).mpr hdata⟩

theorem answers_updateMeshDevices (h : Healthy w.files)
    (hrouted : Routed msgJson) :
    Answers env msgJson (updateMeshDevices env msgJson) w <->
      (env.deamonIsRunning = true -> requestedDevices msgJson ≠ none) := by
  rcases run_receive (w := w) hrouted .meshDeviceList with
    ⟨msgRespond, hopened, hrun⟩
  unfold Answers updateMeshDevices
  rw [wp_bind, wp_of_run hrun]
  show wp (if env.deamonIsRunning = false then _ else _) _ w <-> _
  cases env.deamonIsRunning with
  | false =>
      rw [if_pos rfl]
      refine iff_of_true ?_ (by simp)
      exact (wp_respondCode rfl hopened.envelope).mpr fun _ _ => trivial
  | true =>
      rw [if_neg (by simp), imp_iff_right (rfl : true = true)]
      show wp (field (payload msgJson .meshDeviceList) >>= _) _ w <-> _
      unfold requestedDevices field
      rw [wp_bind, wp_deref]
      cases payload msgJson .meshDeviceList with
      | none => simp
      | some data =>
          simp only [Option.some_inj, exists_eq_left', Option.bind_some]
          rw [wp_bind, wp_deref]
          cases data.toDeviceList with
          | none => simp
          | some devices =>
              simp only [Option.some_inj, exists_eq_left']
              rw [wp_bind, wp_of_run (run_updateDeviceListToFileFromWeb h _)]
              refine iff_of_true ?_ (Option.some_ne_none _)
              have henvelope : forall code : ErrorCode,
                  ((msgRespond.withData (.deviceList devices)).withError env
                    code).envelope = envelope msgJson :=
                fun _ => hopened.envelope
              exact (wp_publish_free rfl (henvelope _)
                (Option.some_ne_none _)).mpr
                  ⟨encodable_deviceList devices, freeable_deviceList _⟩

/-- The devices of a pairing are there and name their roles. -/
def Pairable (env : Surroundings) (msgJson : Json) : Prop :=
  exists devices, requestedDevices msgJson = some devices ∧
    rolesNamed env devices = true

theorem answers_requestPairMeshDevices (h : Healthy w.files)
    (hrouted : Routed msgJson) :
    Answers env msgJson (requestPairMeshDevices env msgJson) w <->
      (env.deamonIsRunning = true -> Pairable env msgJson) := by
  rcases run_receive (w := w) hrouted .meshDeviceList with
    ⟨msgRespond, hopened, hrun⟩
  unfold Answers requestPairMeshDevices
  rw [wp_bind, wp_of_run hrun]
  show wp (if env.deamonIsRunning = false then _ else _) _ w <-> _
  cases env.deamonIsRunning with
  | false =>
      rw [if_pos rfl]
      refine iff_of_true ?_ (by simp)
      exact (wp_respondCode rfl hopened.envelope).mpr fun _ _ => trivial
  | true =>
      rw [if_neg (by simp), imp_iff_right (rfl : true = true)]
      show wp (field (payload msgJson .meshDeviceList) >>= _) _ w <-> _
      unfold Pairable requestedDevices field
      rw [wp_bind, wp_deref]
      cases payload msgJson .meshDeviceList with
      | none => simp
      | some data =>
          simp only [Option.some_inj, exists_eq_left', Option.bind_some]
          rw [wp_bind, wp_deref]
          apply exists_congr
          intro devices
          apply and_congr_right
          intro _
          have hpair : Respects (Beside []) (pairDevices env
              (cvtJsonToMsgRequest (some msgJson) .meshDeviceList) devices) :=
            respects_pairDevices _ _
          refine (wp_bind_iff_of_respects hpair (returns_pairDevices _ _ _)
            ?_).trans (iff_of_eq (and_true _))
          intro code w' hbeside
          refine iff_of_true ?_ trivial
          cases code with
          | some code =>
              exact (wp_respondCode hbeside.published hopened.envelope).mpr
                fun _ _ => trivial
          | none =>
              show wp (setDeviceListToFile _ >>= _) _ w'
              rw [wp_bind, wp_of_run
                (run_setDeviceListToFile (hbeside.healthy h) _), wp_ite]
              let paired := devices.map fun device =>
                { device with status := devicePairing }
              let answer := (msgRespond.withData (.deviceList paired)).withError
                env .success
              have henvelope : answer.envelope = envelope msgJson :=
                hopened.envelope
              split
              · exact (wp_publish_free hbeside.published henvelope
                  (Option.some_ne_none _)).mpr
                    ⟨encodable_deviceList paired, freeable_deviceList _⟩
              · exact (wp_respondCode hbeside.published henvelope).mpr
                  (freeable_deviceList _)

theorem respects_requestInactivation {touched : List DaemonFile}
    (msgRequest : MsgRequest) (devices : List DeviceInfo) :
    Respects (Beside touched)
      (each (fun device => mqttPublishMessageToMqttBridge
        device.ezmId msgRequest .empty) devices) := by
  apply respects_each
  intro device
  exact respects_bind (respects_deref _ _) fun _ =>
    respects_modify fun _ => ⟨id, fun _ _ => rfl, rfl, rfl⟩

theorem returns_requestInactivation (msgRequest : MsgRequest)
    (devices : List DeviceInfo) (w : World) :
    wp (each (fun device => mqttPublishMessageToMqttBridge
      device.ezmId msgRequest .empty) devices) (fun _ _ => True) w := by
  rcases exists_printedRequest msgRequest with ⟨message, hmessage⟩
  apply wp_each (fun _ _ => True)
  · intro device rest w' _
    unfold mqttPublishMessageToMqttBridge field
    rw [wp_bind, wp_deref]
    exact ⟨message, hmessage, trivial⟩
  · trivial

/-- What goes out under the broadcast name is a broadcast. -/
theorem respects_broadcast {answer : MsgRespond} {msgType : MsgType}
    (hname : answer.name = some env.broadcastRequestName) :
    Respects (OnlyBroadcasts env) (mqttPublishMessage answer msgType) := by
  apply respects_mqttPublishMessage
  intro message hmessage w
  refine ⟨[message], World.published_publish w message, ?_⟩
  intro broadcast hmem
  rw [List.mem_singleton.mp hmem]
  unfold cvtMsgRespondToJson at hmessage
  rcases Option.map_eq_some_iff.mp hmessage with ⟨data, _, rfl⟩
  simp [IsBroadcast, readString, hname]

theorem wp_answer_broadcast {before : List Json} {data : Data}
    {deleted : List DeviceInfo} (hbefore : w.published = before)
    (hopened : Opened msgJson .meshDeviceList msgRespond)
    (hdata : payload msgJson .meshDeviceList = some data)
    (hdevices : data.toDeviceList = some deleted) :
    wp (let answer := msgRespond.withError env .success
        let broadcast := { answer with name := some env.broadcastRequestName }
        mqttPublishMessage answer .meshDeviceList >>= fun _ =>
          mqttPublishMessage broadcast .meshDeviceList >>= fun _ =>
            msgRespondFree broadcast .meshDeviceList)
        (fun _ w' => AnsweredBetween env msgJson before w'.published) w := by
  let answer := msgRespond.withError env .success
  let broadcast := { answer with name := some env.broadcastRequestName }
  have henvelope : answer.envelope = envelope msgJson := hopened.envelope
  have hencodable : Encodable answer.respondData.data .meshDeviceList := by
    show Encodable msgRespond.respondData.data .meshDeviceList
    rw [hopened.data, hdata]
    unfold Encodable cvtDataToJson cvtUnionToJson
    simp [hdevices]
  rcases exists_printed_iff.mpr hencodable with ⟨message, hmessage⟩
  have hprinted : exists announcement,
      cvtMsgRespondToJson broadcast .meshDeviceList = some announcement :=
    exists_printed_iff.mpr hencodable
  rcases hprinted with ⟨announcement, hannouncement⟩
  have hfree : Respects (Beside [])
      (msgRespondFree broadcast .meshDeviceList) := respects_msgRespondFree
  refine (wp_publish_then hbefore henvelope (Option.some_ne_none _)
    (respects_bind (respects_broadcast rfl) fun _ =>
      respects_onlyBroadcasts hfree)).mpr ⟨message, hmessage, ?_⟩
  unfold mqttPublishMessage field
  rw [wp_bind, wp_bind, wp_deref]
  refine ⟨announcement, hannouncement, ?_⟩
  rw [wp_modify, wp_msgRespondFree]
  exact ⟨freeable_deviceList _, trivial⟩

theorem answers_deleteMeshDevices (h : Healthy w.files)
    (hrouted : Routed msgJson) :
    Answers env msgJson (deleteMeshDevices env msgJson) w <->
      (env.deamonIsRunning = true -> requestedDevices msgJson ≠ none) := by
  rcases run_receive (w := w) hrouted .meshDeviceList with
    ⟨msgRespond, hopened, hrun⟩
  unfold Answers deleteMeshDevices
  rw [wp_bind, wp_of_run hrun]
  show wp (if env.deamonIsRunning = false then _ else _) _ w <-> _
  cases env.deamonIsRunning with
  | false =>
      rw [if_pos rfl]
      refine iff_of_true ?_ (by simp)
      exact (wp_respondCode rfl hopened.envelope).mpr fun _ _ => trivial
  | true =>
      have hstored := healthy_storeDevices h
        (pollDeviceList env.topology (storedDevices w))
      rw [if_neg (by simp), imp_iff_right (rfl : true = true), wp_bind,
        wp_of_run (run_updateDeviceListToFileFromEmtDevice h _), wp_bind,
        wp_of_run (run_requestDeviceListFromFileByStatus hstored _)]
      have hpayload := hopened.data
      show wp (field (payload msgJson .meshDeviceList) >>= _) _ _ <-> _
      unfold requestedDevices field
      rw [wp_bind, wp_deref]
      cases hdata : payload msgJson .meshDeviceList with
      | none => simp
      | some data =>
          simp only [Option.some_inj, exists_eq_left', Option.bind_some]
          rw [wp_bind, wp_deref]
          cases hdevices : data.toDeviceList with
          | none => simp
          | some deleted =>
              simp only [Option.some_inj, exists_eq_left']
              refine iff_of_true ?_ (Option.some_ne_none _)
              rw [wp_bind, wp_of_run (run_deleteDeviceListFromFile hstored _),
                wp_ite]
              split
              · exact (wp_respondCode rfl hopened.envelope).mpr
                  (freeable_deviceList _)
              · rename_i hfound
                have hrequests : Respects (Beside []) (each (fun device =>
                    mqttPublishMessageToMqttBridge device.ezmId
                      { cvtJsonToMsgRequest (some msgJson) .meshDeviceList with
                        name := some inactivateRequestName } .empty) deleted) :=
                  respects_requestInactivation _ _
                refine (wp_bind_iff_of_returns hrequests
                  (returns_requestInactivation _ _ _) ?_).mpr trivial
                intro _ w' hbeside
                refine iff_of_true ?_ trivial
                rw [wp_ite]
                split
                · exact wp_answer_broadcast hbeside.published hopened hdata
                    hdevices
                · exact (wp_respondCode hbeside.published hopened.envelope).mpr
                    (freeable_deviceList _)

theorem answers_requestMeshQuality (hrouted : Routed msgJson) :
    Answers env msgJson (requestMeshQuality env msgJson) w := by
  rcases hrouted with ⟨name, hname, hsegments⟩
  rcases run_cvtReqNameToResName (w := w) hsegments with
    ⟨respondName, _, hrun⟩
  unfold Answers requestMeshQuality
  show wp (cvtReqNameToResName (readString (some msgJson) "name") >>= _) _ w
  rw [hname, wp_bind, wp_of_run hrun]
  have henvelope : forall msgRespond : MsgRespond,
      msgRespond.envelope = envelope msgJson ->
      ({ (msgRespond.withData (.qualityProfileList getMeshQuality)).withError
          env .success with name := some respondName } : MsgRespond).envelope =
        envelope msgJson := fun _ hsame => hsame
  exact (wp_publish_free rfl (henvelope _ rfl) (Option.some_ne_none _)).mpr
    ⟨Option.some_ne_none _, fun _ _ => trivial⟩

end

end Api
end Noc
