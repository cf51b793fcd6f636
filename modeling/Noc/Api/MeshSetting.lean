import Noc.Api.Reply
import Noc.Mesh.RunMode

/-!
# The mesh setting handlers

The handlers of `api/mesh/mesh_handler.c` that read or write the mesh setting,
and the two by which a controller takes another device in and lets it go.
-/

namespace Noc
namespace Api

open Foundation
open Foundation.Exec
open Foundation.Json
open Mesh
open Network
open Utils

/-- Without the mesh daemon the name is converted once more. -/
def respondDeamonDown (env : Surroundings) (msgRespond : MsgRespond) :
    Daemon Unit := do
  let name <- cvtReqNameToResName msgRespond.name
  respondCode env .ezmeshDeamonConnectFail .meshSetting
    { msgRespond with name := some name }

/-!
## Handlers
-/

/-- The identifier is made up before the answer, the mode is set after it. -/
def createMesh (env : Surroundings) (msgJson : Json) : Daemon Unit := do
  let (msgRequest, msgRespond) <- receive msgJson .meshSetting
  let workMode <- getWorkMode
  if workMode ≠ some .controller then
    let data <- field msgRequest.data
    let requested <- field data.toMeshSetting
    let wireless <- field requested.wireless
    let _ <- field wireless.wifiIface
    let named := { requested with meshId := some (uuidGen "mesh" (env.uuid 0)) }
    let msgRespond := (msgRespond.withData (.meshSetting named)).withError env
      .success
    mqttPublishMessage msgRespond .meshSetting
    let setting := { named with workMode := some (workModeText .controller) }
    writeMeshSetting setting
    let _ <- iptablesAllowAllTraffic
    runControllerMode env
    msgRespondFree (msgRespond.withData (.meshSetting setting)) .meshSetting
  else respondCode env .meshSetupedBefore .meshSetting msgRespond

def requestMesh (env : Surroundings) (msgJson : Json) : Daemon Unit := do
  let (_, msgRespond) <- receive msgJson .empty
  let workMode <- getWorkMode
  if workMode ≠ some .controller then
    respondCode env .success .meshSetting msgRespond
  else
    let setting <- readMeshSetting
    let msgRespond <- msgRespond.putData (.meshSetting setting)
    let msgRespond := msgRespond.withError env .success
    mqttPublishMessage msgRespond .meshSetting
    msgRespondFree msgRespond .meshSetting

/-- A matching identifier has the record of the request written as it is. -/
def updateMesh (env : Surroundings) (msgJson : Json) : Daemon Unit := do
  let (msgRequest, msgRespond) <- receive msgJson .meshSetting
  if env.deamonIsRunning = false then respondDeamonDown env msgRespond
  else
    let workMode <- getWorkMode
    if workMode ≠ some .controller then
      respondCode env .ezmeshDeamonConnectFail .meshSetting msgRespond
    else
      let setting <- readMeshSetting
      let data <- field msgRequest.data
      let requested <- field data.toMeshSetting
      if appStrstr setting.meshId requested.meshId then
        writeMeshSetting requested
        let msgRespond := msgRespond.withError env .success
        mqttPublishMessage msgRespond .meshSetting
        meshSettingFree (some setting)
        let wireless <- field requested.wireless
        changeWifiIface wireless.wifiIface
        msgRespondFree msgRespond .meshSetting
      else
        let msgRespond := msgRespond.withError env .meshNotFound
        mqttPublishMessage msgRespond .empty
        meshSettingFree (some setting)
        msgRespondFree msgRespond .meshSetting

def deleteMesh (env : Surroundings) (msgJson : Json) : Daemon Unit := do
  let (_, msgRespond) <- receive msgJson .empty
  if env.deamonIsRunning = false then respondDeamonDown env msgRespond
  else
    let workMode <- getWorkMode
    if workMode ≠ some .controller then
      respondCode env .meshNotFound .meshSetting msgRespond
    else
      let stored <- readMeshSetting
      let setting := { stored with workMode := some (workModeText .standalone) }
      writeMeshSetting setting
      let msgRespond := msgRespond.withError env .success
      mqttPublishMessage msgRespond .empty
      runStandaloneMode env
      meshSettingFree (some setting)
      msgRespondFree msgRespond .meshSetting

/-- Both requests of a controller store the record under another mode.  The
message itself is decoded and not looked at. -/
def switchAgent (mode : WorkMode) (run : Daemon Unit) : Daemon Unit := do
  let stored <- readMeshSetting
  let setting := { stored with workMode := some (workModeText mode) }
  writeMeshSetting setting
  run
  meshSettingFree (some setting)

def requestActivateAgentDevice (env : Surroundings) (_ : Json) : Daemon Unit :=
  switchAgent .agent (runAgentMode env)

def requestInactivateAgentDevice (env : Surroundings) (_ : Json) :
    Daemon Unit :=
  switchAgent .standalone (runStandaloneMode env)

/-!
## When they answer
-/

/-- The mesh setting a message carries. -/
def requestedSetting (msgJson : Json) : Option MeshSetting :=
  (payload msgJson .meshSetting).bind Data.toMeshSetting

/-- `get_work_mode` gets to its end. -/
structure ModeReadable (w : World) : Prop where
  text : (storedSetting w).workMode ≠ none
  holds : (storedSetting w).mode ≠ none -> (storedSetting w).HoldsIface

/-- The setting of the request, where there is one, can be released. -/
def RequestReleasable (msgJson : Json) : Prop :=
  forall setting, requestedSetting msgJson = some setting ->
    setting.HoldsIface

section

variable {msgJson : Json} {msgType : MsgType} {msgRespond : MsgRespond}
  {env : Surroundings} {w : World}

theorem freeable_meshSetting_iff {data : Option Data} :
    Freeable data .meshSetting <->
      forall setting, data.bind Data.toMeshSetting = some setting ->
        setting.HoldsIface := by
  unfold Freeable
  cases data <;> simp

theorem freeable_meshSetting_of_empty :
    Freeable (payload msgJson .empty) .meshSetting := by
  rw [freeable_meshSetting_iff]
  unfold payload
  cases getItem (some msgJson) "data" <;> simp [cvtJsonToData, Data.toMeshSetting]

theorem encodable_meshSetting (data : Option Data) :
    Encodable data .meshSetting := by
  cases data <;> exact Option.some_ne_none _

theorem answers_respondDeamonDown (hopened : Opened msgJson msgType msgRespond) :
    Answers env msgJson (respondDeamonDown env msgRespond) w <->
      Freeable (payload msgJson msgType) .meshSetting := by
  rcases hopened.name with ⟨name, hname, hsegments⟩
  rcases run_cvtReqNameToResName (w := w) hsegments with ⟨respondName, _, hrun⟩
  unfold Answers respondDeamonDown
  rw [wp_bind, hname, wp_of_run hrun, ← hopened.data]
  exact wp_respondCode rfl hopened.envelope

theorem wp_getWorkMode_bind (h : Healthy w.files)
    {next : Option WorkMode -> Daemon Unit} {post : Unit -> World -> Prop} :
    wp (getWorkMode >>= next) post w <->
      ModeReadable w ∧ wp (next (storedSetting w).mode) post w := by
  rw [wp_bind, wp_getWorkMode h, ← and_assoc]
  apply and_congr_left'
  exact ⟨fun hboth => ⟨hboth.1, hboth.2⟩, fun hreadable =>
    ⟨hreadable.text, hreadable.holds⟩⟩

/-- A mode that is read and recognised comes with a setting that can be
released. -/
theorem ModeReadable.holdsIface (hreadable : ModeReadable w) {mode : WorkMode}
    (hmode : (storedSetting w).mode = some mode) :
    (storedSetting w).HoldsIface :=
  hreadable.holds (by rw [hmode]; exact Option.some_ne_none mode)

theorem answers_requestMesh (h : Healthy w.files) (hrouted : Routed msgJson) :
    Answers env msgJson (requestMesh env msgJson) w <->
      ModeReadable w ∧
        ((storedSetting w).mode = some .controller -> HasData msgJson) := by
  rcases run_receive (w := w) hrouted .empty with ⟨msgRespond, hopened, hrun⟩
  unfold Answers requestMesh
  rw [wp_bind, wp_of_run hrun]
  show wp (getWorkMode >>= _) _ w <-> _
  rw [wp_getWorkMode_bind h]
  apply and_congr_right
  intro hreadable
  by_cases hmode : (storedSetting w).mode = some .controller
  · rw [if_neg (not_not.mpr hmode), wp_bind,
      wp_of_run (run_readMeshSetting h), wp_bind, wp_putData,
      hopened.hasData_iff]
    have hholds := hreadable.holdsIface hmode
    constructor
    · exact fun hput _ => hput.1
    · intro hpresent
      let answer := (msgRespond.withData
        (.meshSetting (storedSetting w))).withError env .success
      have henvelope : answer.envelope = envelope msgJson := hopened.envelope
      refine ⟨hpresent hmode, (wp_publish_free rfl henvelope
        (Option.some_ne_none _)).mpr ⟨encodable_meshSetting _, ?_⟩⟩
      rw [freeable_meshSetting_iff]
      rintro setting hsetting
      cases hsetting
      exact hholds
  · rw [if_pos hmode]
    refine iff_of_true ?_ fun hcontroller => absurd hcontroller hmode
    exact (wp_respondCode rfl hopened.envelope).mpr
      (hopened.data ▸ freeable_meshSetting_of_empty)

/-!
## Switches

A switch publishes nothing.  What follows it only releases records.
-/

theorem respects_runStandaloneMode :
    Respects (OnlyBroadcasts env) (runStandaloneMode env) :=
  respects_bind (respects_modify fun _ => onlyBroadcasts_of_eq rfl) fun _ =>
    respects_onlyBroadcasts (respects_standaloneSteps env)

theorem respects_runControllerMode :
    Respects (OnlyBroadcasts env) (runControllerMode env) :=
  respects_bind (respects_modify fun _ => onlyBroadcasts_of_eq rfl) fun _ =>
    respects_onlyBroadcasts (respects_controllerSteps env)

theorem content_storeSetting (setting : MeshSetting) (w : World) :
    forall file, file ≠ .meshSetting ->
      (storeSetting setting w).files.content file = w.files.content file := by
  intro file hfile
  unfold storeSetting
  cases cvtMeshSettingToJson (some setting) with
  | none => rfl
  | some json => exact Function.update_of_ne hfile _ _

/-- A release after a program adds its own condition. -/
theorem wp_then_free {program : Daemon Unit} :
    wp (program >>= fun _ => msgRespondFree msgRespond msgType)
        (fun _ _ => True) w <->
      wp program (fun _ _ => True) w ∧
        Freeable msgRespond.respondData.data msgType := by
  rw [wp_bind]
  simp only [wp_msgRespondFree, and_true]
  constructor
  · intro hfree
    rcases wp_iff.mp hfree with ⟨_, _, _, hfreeable⟩
    exact ⟨wp_mono (fun _ _ _ => trivial) hfree, hfreeable⟩
  · rintro ⟨hreturns, hfreeable⟩
    exact wp_mono (fun _ _ _ => hfreeable) hreturns

theorem holdsIface_of_hasIface {setting : MeshSetting}
    (h : setting.HasIface) : setting.HoldsIface := by
  rcases h with ⟨wireless, iface, hwireless, hiface⟩
  intro record hrecord
  rw [hwireless] at hrecord
  cases hrecord
  rw [hiface]
  exact Option.some_ne_none iface

/-- What the creation does once it has answered. -/
theorem returns_switchToController {setting : MeshSetting} {message : Json}
    (h : Healthy w.files) (hiface : setting.HasIface) :
    wp (writeMeshSetting setting >>= fun _ =>
          iptablesAllowAllTraffic >>= fun _ =>
            runControllerMode env >>= fun _ =>
              msgRespondFree (msgRespond.withData (.meshSetting setting))
                .meshSetting)
        (fun _ _ => True) (w.publish message) <->
      SwitchReady w ∧ env.deamonComesUp = true := by
  have hw : Healthy (w.publish message).files := h
  have hopen : forall next : ErrorCode -> Daemon Unit, forall w' : World,
      wp (iptablesAllowAllTraffic >>= next) (fun _ _ => True) w' <->
        wp (next .success) (fun _ _ => True)
          (w'.runIptables iptablesAllowAllTrafficList) := fun _ _ => Iff.rfl
  have hstored : Healthy ((storeSetting setting
      (w.publish message)).runIptables iptablesAllowAllTrafficList).files :=
    healthy_storeSetting hw setting
  have hfreeable : Freeable (some (.meshSetting setting)) .meshSetting := by
    rw [freeable_meshSetting_iff]
    rintro record hrecord
    cases hrecord
    exact holdsIface_of_hasIface hiface
  have hready : SwitchReady ((storeSetting setting
      (w.publish message)).runIptables iptablesAllowAllTrafficList) <->
        SwitchReady w :=
    switchReady_of_content (content_storeSetting setting (w.publish message))
  have hsetting : storedSetting ((storeSetting setting
      (w.publish message)).runIptables iptablesAllowAllTrafficList) =
        setting :=
    storedSetting_storeSetting setting (w.publish message)
  rw [wp_bind, wp_of_run (run_writeMeshSetting hw setting), hopen, wp_then_free,
    returns_runControllerMode env hstored, hready, hsetting]
  constructor
  · rintro ⟨⟨hswitch, _, hup⟩, _⟩
    exact ⟨hswitch, hup⟩
  · rintro ⟨hswitch, hup⟩
    exact ⟨⟨hswitch, hiface, hup⟩, hfreeable⟩

/-- A mesh is created from a setting that has an interface. -/
structure Creatable (env : Surroundings) (msgJson : Json) (w : World) :
    Prop where
  iface : exists setting, requestedSetting msgJson = some setting ∧
    setting.HasIface
  ready : SwitchReady w
  up : env.deamonComesUp = true

theorem wp_field_iface {setting : MeshSetting} {rest : Daemon Unit}
    {post : Unit -> World -> Prop} :
    wp (field setting.wireless >>= fun wireless =>
          field wireless.wifiIface >>= fun _ => rest) post w <->
      setting.HasIface ∧ wp rest post w := by
  unfold field MeshSetting.HasIface
  rw [wp_bind, wp_deref]
  cases setting.wireless with
  | none => simp
  | some wireless =>
      simp only [Option.some_inj, exists_eq_left', wp_bind, wp_deref,
        exists_and_left]
      cases wireless.wifiIface <;> simp

theorem wp_createMesh_of_requested {requested : MeshSetting}
    (h : Healthy w.files) (hopened : Opened msgJson .meshSetting msgRespond) :
    wp (field requested.wireless >>= fun wireless =>
          field wireless.wifiIface >>= fun _ =>
            let named :=
              { requested with meshId := some (uuidGen "mesh" (env.uuid 0)) }
            let answer := (msgRespond.withData (.meshSetting named)).withError
              env .success
            let setting :=
              { named with workMode := some (workModeText .controller) }
            mqttPublishMessage answer .meshSetting >>= fun _ =>
              writeMeshSetting setting >>= fun _ =>
                iptablesAllowAllTraffic >>= fun _ =>
                  runControllerMode env >>= fun _ =>
                    msgRespondFree (answer.withData (.meshSetting setting))
                      .meshSetting)
        (fun _ w' => AnsweredBetween env msgJson w.published w'.published) w <->
      requested.HasIface ∧ SwitchReady w ∧ env.deamonComesUp = true := by
  rw [wp_field_iface]
  apply and_congr_right
  intro hiface
  let named := { requested with meshId := some (uuidGen "mesh" (env.uuid 0)) }
  let answer := (msgRespond.withData (.meshSetting named)).withError env
    .success
  let setting := { named with workMode := some (workModeText .controller) }
  have henvelope : answer.envelope = envelope msgJson := hopened.envelope
  have hsetting : Respects (Beside [.meshSetting])
      (writeMeshSetting setting) :=
    respects_writeMeshSetting List.mem_cons_self setting
  have hopen : Respects (Beside []) iptablesAllowAllTraffic :=
    respects_bind (respects_execlIptables _) fun _ => respects_pure _
  have hfree : Respects (Beside []) (msgRespondFree
      (answer.withData (.meshSetting setting)) .meshSetting) :=
    respects_msgRespondFree
  refine (wp_publish_then rfl henvelope (Option.some_ne_none _)
    (respects_bind (respects_onlyBroadcasts hsetting) fun _ =>
      respects_bind (respects_onlyBroadcasts hopen) fun _ =>
        respects_bind respects_runControllerMode fun _ =>
          respects_onlyBroadcasts hfree)).trans ?_
  have hswitch : forall message, wp (writeMeshSetting setting >>= fun _ =>
      iptablesAllowAllTraffic >>= fun _ => runControllerMode env >>= fun _ =>
        msgRespondFree (answer.withData (.meshSetting setting)) .meshSetting)
      (fun _ _ => True) (w.publish message) <->
        SwitchReady w ∧ env.deamonComesUp = true :=
    fun message => returns_switchToController h hiface
  simp only [hswitch, exists_and_right]
  rw [exists_printed_iff]
  exact and_iff_right (encodable_meshSetting _)

theorem answers_createMesh (h : Healthy w.files) (hrouted : Routed msgJson) :
    Answers env msgJson (createMesh env msgJson) w <->
      ModeReadable w ∧
        if (storedSetting w).mode = some .controller then
          RequestReleasable msgJson
        else Creatable env msgJson w := by
  rcases run_receive (w := w) hrouted .meshSetting with
    ⟨msgRespond, hopened, hrun⟩
  unfold Answers createMesh
  rw [wp_bind, wp_of_run hrun]
  show wp (getWorkMode >>= _) _ w <-> _
  rw [wp_getWorkMode_bind h]
  apply and_congr_right
  intro _
  by_cases hmode : (storedSetting w).mode = some .controller
  · rw [if_neg (not_not.mpr hmode), if_pos hmode]
    refine (wp_respondCode rfl hopened.envelope).trans ?_
    rw [hopened.data, freeable_meshSetting_iff]
    rfl
  · rw [if_pos hmode, if_neg hmode]
    have hcreatable : Creatable env msgJson w <->
        (exists setting, requestedSetting msgJson = some setting ∧
          setting.HasIface) ∧ SwitchReady w ∧ env.deamonComesUp = true :=
      ⟨fun hc => ⟨hc.iface, hc.ready, hc.up⟩,
        fun hc => ⟨hc.1, hc.2.1, hc.2.2⟩⟩
    rw [hcreatable]
    show wp (field (payload msgJson .meshSetting) >>= _) _ w <-> _
    unfold requestedSetting field
    rw [wp_bind, wp_deref]
    cases payload msgJson .meshSetting with
    | none => simp
    | some data =>
        simp only [Option.some_inj, exists_eq_left', Option.bind_some]
        rw [wp_bind, wp_deref]
        cases data.toMeshSetting with
        | none => simp
        | some requested =>
            simp only [Option.some_inj, exists_eq_left']
            exact wp_createMesh_of_requested h hopened

/-!
## Updating and deleting
-/

theorem wp_then_release {program : Daemon Unit} {setting : MeshSetting} :
    wp (program >>= fun _ => meshSettingFree (some setting) >>= fun _ =>
          msgRespondFree msgRespond msgType)
        (fun _ _ => True) w <->
      wp program (fun _ _ => True) w ∧ setting.HoldsIface ∧
        Freeable msgRespond.respondData.data msgType := by
  rw [wp_bind]
  simp only [wp_bind, wp_meshSettingFree, wp_msgRespondFree, and_true,
    Option.some_inj, forall_eq']
  constructor
  · intro hrelease
    rcases wp_iff.mp hrelease with ⟨_, _, _, hreleasable⟩
    exact ⟨wp_mono (fun _ _ _ => trivial) hrelease, hreleasable⟩
  · rintro ⟨hreturns, hreleasable⟩
    exact wp_mono (fun _ _ _ => hreleasable) hreturns

theorem answers_deleteMesh (h : Healthy w.files) (hrouted : Routed msgJson) :
    Answers env msgJson (deleteMesh env msgJson) w <->
      (env.deamonIsRunning = true -> ModeReadable w ∧
        ((storedSetting w).mode = some .controller -> SwitchReady w)) := by
  rcases run_receive (w := w) hrouted .empty with ⟨msgRespond, hopened, hrun⟩
  have hfree : Freeable msgRespond.respondData.data .meshSetting :=
    hopened.data ▸ freeable_meshSetting_of_empty
  unfold Answers deleteMesh
  rw [wp_bind, wp_of_run hrun]
  show wp (if env.deamonIsRunning = false then _ else _) _ w <-> _
  cases hrunning : env.deamonIsRunning with
  | false =>
      rw [if_pos rfl]
      refine iff_of_true ?_ (by simp)
      exact (answers_respondDeamonDown hopened).mpr
        freeable_meshSetting_of_empty
  | true =>
      rw [if_neg (by simp), wp_getWorkMode_bind h,
        imp_iff_right (rfl : true = true)]
      apply and_congr_right
      intro hreadable
      by_cases hmode : (storedSetting w).mode = some .controller
      · let setting := { storedSetting w with
          workMode := some (workModeText .standalone) }
        let answer := msgRespond.withError env .success
        have henvelope : answer.envelope = envelope msgJson := hopened.envelope
        have hholds : setting.HoldsIface := hreadable.holdsIface hmode
        have hrelease : Respects (Beside []) (meshSettingFree (some setting)) :=
          respects_meshSettingFree _
        have hclose : Respects (Beside [])
            (msgRespondFree answer .meshSetting) := respects_msgRespondFree
        rw [if_neg (not_not.mpr hmode), wp_bind,
          wp_of_run (run_readMeshSetting h), wp_bind,
          wp_of_run (run_writeMeshSetting h _)]
        refine (wp_publish_then (published_storeSetting setting w) henvelope
          (Option.some_ne_none _) (respects_bind respects_runStandaloneMode
            fun _ => respects_bind (respects_onlyBroadcasts hrelease) fun _ =>
              respects_onlyBroadcasts hclose)).trans ?_
        have hswitch : forall message,
            wp (runStandaloneMode env >>= fun _ =>
              meshSettingFree (some setting) >>= fun _ =>
                msgRespondFree answer .meshSetting) (fun _ _ => True)
              ((storeSetting setting w).publish message) <->
            SwitchReady w := by
          intro message
          have hstored : Healthy ((storeSetting setting w).publish
              message).files := healthy_storeSetting h setting
          have hready : SwitchReady ((storeSetting setting w).publish message) <->
              SwitchReady w :=
            switchReady_of_content (content_storeSetting setting w)
          rw [wp_then_release, returns_runStandaloneMode env hstored, hready]
          exact and_iff_left ⟨hholds, hfree⟩
        simp only [hswitch, exists_and_right]
        rw [exists_printed_iff, and_iff_right (encodable_empty _)]
        exact ⟨fun hready _ => hready, fun hready => hready hmode⟩
      · rw [if_pos hmode]
        refine iff_of_true ?_ fun hcontroller => absurd hcontroller hmode
        exact (wp_respondCode rfl hopened.envelope).mpr hfree

/-- The setting of an update: its identifier decides what it must hold. -/
def Updatable (msgJson : Json) (stored : MeshSetting) : Prop :=
  exists requested, requestedSetting msgJson = some requested ∧
    if appStrstr stored.meshId requested.meshId then requested.HasIface
    else requested.HoldsIface

theorem wp_updateMesh_of_requested {stored requested : MeshSetting}
    (h : Healthy w.files) (hholds : stored.HoldsIface)
    (hopened : Opened msgJson .meshSetting msgRespond)
    (hrequested : requestedSetting msgJson = some requested) :
    wp (if appStrstr stored.meshId requested.meshId then
          writeMeshSetting requested >>= fun _ =>
            let answer := msgRespond.withError env .success
            mqttPublishMessage answer .meshSetting >>= fun _ =>
              meshSettingFree (some stored) >>= fun _ =>
                field requested.wireless >>= fun wireless =>
                  changeWifiIface wireless.wifiIface >>= fun _ =>
                    msgRespondFree answer .meshSetting
        else
          let answer := msgRespond.withError env .meshNotFound
          mqttPublishMessage answer .empty >>= fun _ =>
            meshSettingFree (some stored) >>= fun _ =>
              msgRespondFree answer .meshSetting)
        (fun _ w' => AnsweredBetween env msgJson w.published w'.published) w <->
      if appStrstr stored.meshId requested.meshId then requested.HasIface
      else requested.HoldsIface := by
  have henvelope : forall code,
      (msgRespond.withError env code).envelope = envelope msgJson :=
    fun _ => hopened.envelope
  have hfreeable : forall code,
      Freeable (msgRespond.withError env code).respondData.data .meshSetting <->
        requested.HoldsIface := by
    intro code
    show Freeable msgRespond.respondData.data .meshSetting <-> _
    rw [hopened.data, freeable_meshSetting_iff]
    show (forall setting, requestedSetting msgJson = some setting -> _) <-> _
    rw [hrequested]
    simp
  have hrelease : Respects (Beside []) (meshSettingFree (some stored)) :=
    respects_meshSettingFree _
  have hclose : forall answer : MsgRespond,
      Respects (Beside []) (msgRespondFree answer .meshSetting) :=
    fun _ => respects_msgRespondFree
  by_cases hfound : appStrstr stored.meshId requested.meshId = true
  · rw [if_pos hfound, if_pos hfound, wp_bind,
      wp_of_run (run_writeMeshSetting h requested)]
    have hchange : Respects (Beside [])
        (meshSettingFree (some stored) >>= fun _ =>
          field requested.wireless >>= fun wireless =>
            changeWifiIface wireless.wifiIface >>= fun _ =>
              msgRespondFree (msgRespond.withError env .success)
                .meshSetting) :=
      respects_bind hrelease fun _ => respects_bind (respects_deref _ _)
        fun _ => respects_bind (respects_changeWifiIface _) fun _ => hclose _
    refine (wp_publish_then (published_storeSetting requested w)
      (henvelope .success) (Option.some_ne_none _)
      (respects_onlyBroadcasts hchange)).trans ?_
    have hiface : forall w' : World,
        wp (meshSettingFree (some stored) >>= fun _ =>
          field requested.wireless >>= fun wireless =>
            changeWifiIface wireless.wifiIface >>= fun _ =>
              msgRespondFree (msgRespond.withError env .success) .meshSetting)
          (fun _ _ => True) w' <-> requested.HasIface := by
      intro w'
      unfold field MeshSetting.HasIface
      rw [wp_bind, wp_meshSettingFree, wp_bind, wp_deref]
      simp only [wp_then_free, returns_changeWifiIface, hfreeable,
        Option.some_inj, forall_eq', and_iff_right hholds]
      constructor
      · rintro ⟨wireless, hwireless, hne, _⟩
        rcases Option.ne_none_iff_exists'.mp hne with ⟨iface, hiface⟩
        exact ⟨wireless, iface, hwireless, hiface⟩
      · rintro ⟨wireless, iface, hwireless, hiface⟩
        exact ⟨wireless, hwireless, by rw [hiface]; exact Option.some_ne_none _,
          holdsIface_of_hasIface ⟨wireless, iface, hwireless, hiface⟩⟩
    simp only [hiface, exists_and_right]
    rw [exists_printed_iff]
    exact and_iff_right (encodable_meshSetting _)
  · rw [if_neg hfound, if_neg hfound]
    refine (wp_publish_then rfl (henvelope .meshNotFound)
      (Option.some_ne_none _) (respects_bind (respects_onlyBroadcasts hrelease)
        fun _ => respects_onlyBroadcasts (hclose _))).trans ?_
    have hreturns : forall w' : World,
        wp (meshSettingFree (some stored) >>= fun _ =>
          msgRespondFree (msgRespond.withError env .meshNotFound) .meshSetting)
          (fun _ _ => True) w' <-> requested.HoldsIface := by
      intro w'
      rw [wp_bind, wp_meshSettingFree, wp_msgRespondFree, hfreeable]
      simp [hholds]
    simp only [hreturns, exists_and_right]
    rw [exists_printed_iff]
    exact and_iff_right (encodable_empty _)

theorem answers_updateMesh (h : Healthy w.files) (hrouted : Routed msgJson) :
    Answers env msgJson (updateMesh env msgJson) w <->
      if env.deamonIsRunning = false then RequestReleasable msgJson
      else ModeReadable w ∧
        if (storedSetting w).mode = some .controller then
          Updatable msgJson (storedSetting w)
        else RequestReleasable msgJson := by
  rcases run_receive (w := w) hrouted .meshSetting with
    ⟨msgRespond, hopened, hrun⟩
  have hfree : Freeable (payload msgJson .meshSetting) .meshSetting <->
      RequestReleasable msgJson := freeable_meshSetting_iff
  unfold Answers updateMesh
  rw [wp_bind, wp_of_run hrun]
  show wp (if env.deamonIsRunning = false then _ else _) _ w <-> _
  by_cases hrunning : env.deamonIsRunning = false
  · rw [if_pos hrunning, if_pos hrunning, ← hfree]
    exact answers_respondDeamonDown hopened
  · rw [if_neg hrunning, if_neg hrunning, wp_getWorkMode_bind h]
    apply and_congr_right
    intro hreadable
    by_cases hmode : (storedSetting w).mode = some .controller
    · rw [if_neg (not_not.mpr hmode), if_pos hmode, wp_bind,
        wp_of_run (run_readMeshSetting h)]
      have hholds := hreadable.holdsIface hmode
      unfold Updatable requestedSetting
      show wp (field (payload msgJson .meshSetting) >>= _) _ w <-> _
      unfold field
      rw [wp_bind, wp_deref]
      cases hpayload : payload msgJson .meshSetting with
      | none => simp
      | some data =>
          simp only [Option.some_inj, exists_eq_left', Option.bind_some]
          rw [wp_bind, wp_deref]
          cases hsetting : data.toMeshSetting with
          | none => simp
          | some requested =>
              simp only [Option.some_inj, exists_eq_left']
              apply wp_updateMesh_of_requested h hholds hopened
              rw [requestedSetting, hpayload]
              exact hsetting
    · rw [if_pos hmode, if_neg hmode, ← hfree, ← hopened.data]
      exact wp_respondCode rfl hopened.envelope

end

end Api
end Noc
