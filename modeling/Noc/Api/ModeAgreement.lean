import Noc.Api.Published
import Noc.Api.MeshSetting
import Noc.Foundation.Runs
import Noc.Rewriting

/-!
# The stored mode and the running mode

Five requests rewrite the mesh setting.  Four of them store the mode they then
enter; the update stores the record of its request as it is, with whatever mode
the request names or leaves out.
-/

namespace Noc
namespace Api

open Config
open Foundation
open Foundation.Exec
open Foundation.Json
open Mesh
open Network
open Utils

/-- The stored mode is the one that was entered last. -/
def InMode (w : World) : Prop :=
  (storedSetting w).workMode = some (workModeText w.mode)

theorem InMode.mode {w : World} (h : InMode w) :
    (storedSetting w).mode = some w.mode := by
  unfold MeshSetting.mode
  rw [h]
  exact recognisedMode_workModeText w.mode

/-!
## Requests
-/

inductive MeshRequest where
  | createMesh
  | updateMesh
  | deleteMesh
  | requestActivateAgentDevice
  | requestInactivateAgentDevice
  deriving DecidableEq, Repr

/-- A request, its message and the surroundings it meets. -/
structure MeshCall where
  request : MeshRequest
  env : Surroundings
  msgJson : Json

namespace MeshCall

def exec (call : MeshCall) : Daemon Unit :=
  match call.request with
  | .createMesh => createMesh call.env call.msgJson
  | .updateMesh => updateMesh call.env call.msgJson
  | .deleteMesh => deleteMesh call.env call.msgJson
  | .requestActivateAgentDevice =>
      requestActivateAgentDevice call.env call.msgJson
  | .requestInactivateAgentDevice =>
      requestInactivateAgentDevice call.env call.msgJson

/-- The payload carries an SSID and a key. -/
def CarriesIface (call : MeshCall) : Prop :=
  exists setting wireless iface, requestedSetting call.msgJson = some setting ∧
    setting.wireless = some wireless ∧ wireless.wifiIface = some iface ∧
    iface.ssid ≠ none ∧ iface.key ≠ none

/-- An update that a controller's daemon stores names the controller's mode. -/
def NamesMode (call : MeshCall) (w : World) : Prop :=
  call.request = .updateMesh -> call.env.deamonIsRunning = true ->
    (storedSetting w).mode = some .controller ->
    forall requested, requestedSetting call.msgJson = some requested ->
      appStrstr (storedSetting w).meshId requested.meshId = true ->
      requested.workMode = some (workModeText .controller)

end MeshCall

/-- A completed request. -/
def MeshStep (w : World) (call : MeshCall) (w' : World) : Prop :=
  call.exec w = .ok ((), w')

/-!
## What keeps the mode and the setting
-/

def KeepsSetting (w w' : World) : Prop :=
  w'.files.content .meshSetting = w.files.content .meshSetting ∧
    w'.mode = w.mode

instance : IsPreorder World KeepsSetting where
  refl _ := ⟨rfl, rfl⟩
  trans _ _ _ h h' := ⟨h'.1.trans h.1, h'.2.trans h.2⟩

section

variable {α : Type} {w w' : World}

theorem KeepsSetting.storedSetting_eq (h : KeepsSetting w w') :
    storedSetting w' = storedSetting w := by
  unfold storedSetting World.json
  rw [h.1]

theorem KeepsSetting.inMode (h : KeepsSetting w w') (hin : InMode w) :
    InMode w' := by
  unfold InMode
  rw [h.storedSetting_eq, h.2]
  exact hin

theorem respects_keepsSetting (touched : List DaemonFile)
    (hsetting : .meshSetting ∉ touched) {program : Daemon α}
    (h : Respects (Beside touched) program) : Respects KeepsSetting program :=
  h.mono fun _ _ hbeside => ⟨hbeside.content _ hsetting, hbeside.mode⟩

/-- What keeps both adds nothing to what is known. -/
theorem wlp_bind_of_keeps {β : Type} {program : Daemon α} {next : α -> Daemon β}
    {post : β -> World -> Prop} (hkeeps : Respects KeepsSetting program)
    (hnext : forall value w', InMode w' -> wlp (next value) post w')
    (hin : InMode w) : wlp (program >>= next) post w := by
  rw [wlp_bind]
  exact wlp_mono (fun value w' h => hnext value w' (h.inMode hin))
    (hkeeps.wlp w)

theorem wlp_of_keeps {program : Daemon α} (hkeeps : Respects KeepsSetting program)
    (hin : InMode w) : wlp program (fun _ w' => InMode w') w :=
  wlp_mono (fun _ _ h => h.inMode hin) (hkeeps.wlp w)

end

section

variable {w : World} {env : Surroundings} {msgJson : Json}
  {msgType : MsgType} {msgRespond : MsgRespond}

theorem keeps_field {α : Type} (pointer : Option α) :
    Respects KeepsSetting (field pointer) :=
  respects_deref _ pointer

theorem keeps_cvtReqNameToResName (reqName : Option String) :
    Respects KeepsSetting (cvtReqNameToResName reqName) := by
  unfold cvtReqNameToResName
  cases (reqName.map (strtok '.')).getD [] with
  | nil => exact respects_pure _
  | cons first rest =>
      exact respects_bind (respects_deref _ _) fun _ => respects_pure _

theorem keeps_receive : Respects KeepsSetting (receive msgJson msgType) :=
  respects_bind (keeps_cvtReqNameToResName _) fun _ => respects_pure _

theorem keeps_publish :
    Respects KeepsSetting (mqttPublishMessage msgRespond msgType) :=
  respects_mqttPublishMessage fun _ _ _ => ⟨rfl, rfl⟩

theorem keeps_respondCode {code : ErrorCode} {freeType : MsgType} :
    Respects KeepsSetting (respondCode env code freeType msgRespond) :=
  respects_bind keeps_publish fun _ => respects_msgRespondFree

theorem keeps_respondDeamonDown :
    Respects KeepsSetting (respondDeamonDown env msgRespond) :=
  respects_bind (keeps_cvtReqNameToResName _) fun _ => keeps_respondCode

theorem keeps_readMeshSetting : Respects KeepsSetting readMeshSetting :=
  respects_keepsSetting [] List.not_mem_nil respects_readMeshSetting

theorem keeps_getWorkMode : Respects KeepsSetting getWorkMode := by
  refine respects_bind keeps_readMeshSetting ?_
  intro setting
  refine respects_bind (keeps_field _) ?_
  intro text
  cases recognisedMode text with
  | none => exact respects_pure _
  | some mode =>
      exact respects_bind (respects_meshSettingFree _) fun _ => respects_pure _

/-!
A setting is read as stored, or as the empty record when the file cannot be
opened.
-/

theorem wlp_readMeshSetting_value :
    wlp readMeshSetting (fun setting w' => KeepsSetting w w' ∧
      (setting = storedSetting w ∨ setting = {})) w := by
  refine wlp_and (keeps_readMeshSetting.wlp w) ?_
  unfold readMeshSetting
  rw [wlp_bind]
  refine wlp_mono ?_ (wlp_readJson_hasRead rfl)
  intro json w' hread
  cases hread.current with
  | inl hjson =>
      rw [hjson]
      exact Or.inl rfl
  | inr hheld =>
      rw [hheld.1]
      exact Or.inr rfl

theorem wlp_getWorkMode_value :
    wlp getWorkMode (fun workMode w' => KeepsSetting w w' ∧
      forall mode, workMode = some mode ->
        (storedSetting w).mode = some mode) w := by
  refine wlp_and (keeps_getWorkMode.wlp w) ?_
  unfold getWorkMode
  rw [wlp_bind]
  refine wlp_mono ?_ wlp_readMeshSetting_value
  rintro setting w' ⟨_, hsetting⟩
  unfold field
  rw [wlp_bind, wlp_deref]
  intro text htext
  have hstored : setting = storedSetting w := by
    cases hsetting with
    | inl hsame => exact hsame
    | inr hempty =>
        rw [hempty] at htext
        cases htext
  cases hmode : recognisedMode text with
  | none =>
      intro mode hnone
      cases hnone
  | some found =>
      apply wlp_bind_of_next
      intro _ _ mode hsome
      rw [← hstored, ← hsome, ← hmode]
      unfold MeshSetting.mode
      rw [htext]
      rfl

/-!
## Storing a setting

A write that fails leaves the mutex held, and then no switch gets past its first
look at the broker's configuration.
-/

def Stored (setting : MeshSetting) (w : World) : Prop :=
  w.files.locked = true ∨ storedSetting w = setting

theorem wlp_writeMeshSetting_stored (setting : MeshSetting) :
    wlp (writeMeshSetting setting) (fun _ w' => Stored setting w') w := by
  have hround := cvtJsonToMeshSetting_cvtMeshSettingToJson setting
  unfold writeMeshSetting
  cases hjson : cvtMeshSettingToJson (some setting) with
  | none => cases hjson
  | some json =>
      show wlp (writeJson json .meshSetting >>= _) _ w
      rw [wlp_bind]
      refine wlp_mono ?_ (wlp_writeJson_written json .meshSetting w)
      intro ret w' hwritten
      cases hwritten with
      | inl hlocked => exact Or.inl hlocked
      | inr hstored =>
          right
          unfold storedSetting
          rw [hstored, ← hjson]
          exact hround

def SameFiles (w w' : World) : Prop :=
  w'.files = w.files

instance : IsPreorder World SameFiles where
  refl _ := rfl
  trans _ _ _ h h' := Eq.trans h' h

theorem Stored.of_sameFiles {setting : MeshSetting} {w' : World}
    (h : Stored setting w) (hsame : SameFiles w w') : Stored setting w' := by
  unfold Stored storedSetting World.json
  rw [hsame]
  exact h

/-- A switch to a mode: it needs the mutex, enters the mode and leaves the
setting. -/
structure Enters (mode : WorkMode) (run : Daemon Unit) : Prop where
  blocked : forall (w : World) (post : Unit -> World -> Prop),
    w.files.locked = true -> wlp run post w
  enters : forall w : World, wlp run (fun _ w' =>
    w'.files.content .meshSetting = w.files.content .meshSetting ∧
      w'.mode = mode) w

/-- A switch first enters its mode and then looks at the broker's
configuration. -/
theorem enters_of_steps {mode : WorkMode} {β : Type} {look : Daemon β}
    {steps : β -> Daemon Unit}
    (hlook : forall (w : World) (post : β -> World -> Prop),
      w.files.locked = true -> wlp look post w)
    (hsteps : Respects (Beside modeFiles) (look >>= steps)) :
    Enters mode (enter mode >>= fun _ => look >>= steps) where
  blocked := by
    intro w post hlocked
    unfold enter
    rw [wlp_bind, wlp_modify, wlp_bind]
    exact hlook _ _ hlocked
  enters := by
    intro w
    unfold enter
    rw [wlp_bind, wlp_modify]
    refine wlp_mono ?_ (hsteps.wlp (w.enterMode mode))
    intro _ w' hbeside
    exact ⟨hbeside.content _ (by decide), hbeside.mode⟩

theorem wlp_confLines_of_locked {post : List String -> World -> Prop}
    (h : w.files.locked = true) : wlp confLines post w := by
  unfold confLines
  rw [wlp_bind]
  exact wlp_readLines_of_locked h

theorem wlp_dropMqttBridgeClient_of_locked (w : World)
    (post : Unit -> World -> Prop) (h : w.files.locked = true) :
    wlp dropMqttBridgeClient post w := by
  unfold dropMqttBridgeClient requestMqttBridgeClient
    getBridgeClientConnectionIp
  rw [wlp_bind, wlp_bind]
  exact wlp_confLines_of_locked h

theorem wlp_dropMqttBridgeServer_of_locked (w : World)
    (post : Unit -> World -> Prop) (h : w.files.locked = true) :
    wlp dropMqttBridgeServer post w := by
  unfold dropMqttBridgeServer requestMqttBridgeServer getListenerIpDefaultPort
  rw [wlp_bind, wlp_bind]
  exact wlp_confLines_of_locked h

theorem enters_runStandaloneMode : Enters .standalone (runStandaloneMode env) :=
  enters_of_steps wlp_dropMqttBridgeClient_of_locked
    (respects_standaloneSteps env)

theorem enters_runAgentMode : Enters .agent (runAgentMode env) :=
  enters_of_steps wlp_dropMqttBridgeServer_of_locked (respects_agentSteps env)

theorem enters_runControllerMode : Enters .controller (runControllerMode env) :=
  enters_of_steps wlp_dropMqttBridgeClient_of_locked
    (respects_controllerSteps env)

/-- A setting stored with a mode that is then entered. -/
theorem wlp_enters {mode : WorkMode} {setting : MeshSetting}
    {run rest : Daemon Unit} (hrun : Enters mode run)
    (hrest : Respects KeepsSetting rest)
    (hmode : setting.workMode = some (workModeText mode))
    (hstored : Stored setting w) :
    wlp (run >>= fun _ => rest) (fun _ w' => InMode w') w := by
  rw [wlp_bind]
  cases hstored with
  | inl hlocked => exact hrun.blocked w _ hlocked
  | inr hsetting =>
      refine wlp_mono ?_ (hrun.enters w)
      rintro _ w' ⟨hcontent, hentered⟩
      apply wlp_of_keeps hrest
      have hsame : storedSetting w' = storedSetting w := by
        unfold storedSetting World.json
        rw [hcontent]
      unfold InMode
      rw [hsame, hsetting, hentered]
      exact hmode

/-!
## The handlers
-/

theorem wlp_switchAgent {mode : WorkMode} {run : Daemon Unit}
    (hrun : Enters mode run) :
    wlp (switchAgent mode run) (fun _ w' => InMode w') w := by
  apply wlp_bind_of_next
  intro stored w'
  rw [wlp_bind]
  refine wlp_mono ?_ (wlp_writeMeshSetting_stored _)
  intro _ w'' hstored
  exact wlp_enters hrun (respects_meshSettingFree _) rfl hstored

theorem wlp_createMesh (hin : InMode w) :
    wlp (createMesh env msgJson) (fun _ w' => InMode w') w := by
  apply wlp_bind_of_keeps keeps_receive _ hin
  rintro ⟨msgRequest, msgRespond⟩ w1 hw1
  apply wlp_bind_of_keeps keeps_getWorkMode _ hw1
  intro workMode w2 hw2
  rw [wlp_ite]
  split
  · apply wlp_bind_of_next
    intro data w3
    apply wlp_bind_of_next
    intro requested w4
    apply wlp_bind_of_next
    intro wireless w5
    apply wlp_bind_of_next
    intro iface w6
    apply wlp_bind_of_next
    intro _ w7
    rw [wlp_bind]
    refine wlp_mono ?_ (wlp_writeMeshSetting_stored _)
    intro _ w8 hstored
    have hopen : Respects SameFiles iptablesAllowAllTraffic :=
      respects_bind (respects_modify fun _ => rfl) fun _ => respects_pure _
    rw [wlp_bind]
    refine wlp_mono ?_ (hopen.wlp w8)
    intro _ w9 hsame
    exact wlp_enters enters_runControllerMode respects_msgRespondFree rfl
      (hstored.of_sameFiles hsame)
  · exact wlp_of_keeps keeps_respondCode hw2

theorem wlp_deleteMesh (hin : InMode w) :
    wlp (deleteMesh env msgJson) (fun _ w' => InMode w') w := by
  apply wlp_bind_of_keeps keeps_receive _ hin
  rintro ⟨msgRequest, msgRespond⟩ w1 hw1
  rw [wlp_ite]
  split
  · exact wlp_of_keeps keeps_respondDeamonDown hw1
  · apply wlp_bind_of_keeps keeps_getWorkMode _ hw1
    intro workMode w2 hw2
    rw [wlp_ite]
    split
    · exact wlp_of_keeps keeps_respondCode hw2
    · apply wlp_bind_of_next
      intro stored w3
      rw [wlp_bind]
      refine wlp_mono ?_ (wlp_writeMeshSetting_stored _)
      intro _ w4 hstored
      have hpublish : Respects SameFiles
          (mqttPublishMessage (msgRespond.withError env .success) .empty) :=
        respects_mqttPublishMessage fun _ _ _ => rfl
      rw [wlp_bind]
      refine wlp_mono ?_ (hpublish.wlp w4)
      intro _ w5 hsame
      exact wlp_enters enters_runStandaloneMode
        (respects_bind (respects_meshSettingFree _) fun _ =>
          respects_msgRespondFree) rfl (hstored.of_sameFiles hsame)

/-- Storing a record that names the running mode, or failing to. -/
theorem wlp_writeMeshSetting_named {setting : MeshSetting} (hin : InMode w)
    (hnamed : setting.workMode = some (workModeText w.mode)) :
    wlp (writeMeshSetting setting) (fun _ w' => InMode w') w := by
  have hkept : Respects (Beside [.meshSetting]) (writeMeshSetting setting) :=
    respects_writeMeshSetting List.mem_cons_self setting
  have hround := cvtJsonToMeshSetting_cvtMeshSettingToJson setting
  refine wlp_mono ?_ (wlp_final _ w)
  rintro _ w' rfl
  unfold InMode
  rw [(hkept w).mode]
  unfold writeMeshSetting
  cases hjson : cvtMeshSettingToJson (some setting) with
  | none => cases hjson
  | some json =>
      show (cvtJsonToMeshSetting ((final (writeJson json .meshSetting >>= _)
        w).json .meshSetting)).workMode = _
      have hkeeps : Respects Eq (pure () : Daemon Unit) := respects_pure ()
      apply final_bind_of_respects (p := fun after : World =>
        (cvtJsonToMeshSetting (after.json .meshSetting)).workMode =
          some (workModeText w.mode)) _ fun _ => hkeeps
      · refine json_final_writeJson (p := fun json =>
          (cvtJsonToMeshSetting json).workMode = some (workModeText w.mode))
          hin fun _ => ?_
        rw [← hjson, hround]
        exact hnamed
      · rintro before after rfl hbefore
        exact hbefore

theorem wlp_updateMesh
    (hnamed : MeshCall.NamesMode ⟨.updateMesh, env, msgJson⟩ w)
    (hin : InMode w) :
    wlp (updateMesh env msgJson) (fun _ w' => InMode w') w := by
  unfold updateMesh
  rw [wlp_bind]
  refine wlp_mono ?_ (wlp_and (keeps_receive.wlp w) (wlp_receive w))
  rintro ⟨_, msgRespond⟩ w1 ⟨hkeeps1, rfl, _⟩
  have hw1 := hkeeps1.inMode hin
  rw [wlp_ite]
  split
  · exact wlp_of_keeps keeps_respondDeamonDown hw1
  · rename_i hrunning
    have hup : env.deamonIsRunning = true := by simpa using hrunning
    rw [wlp_bind]
    refine wlp_mono ?_ wlp_getWorkMode_value
    rintro workMode w2 ⟨hkeeps2, hvalue⟩
    have hw2 := hkeeps2.inMode hw1
    rw [wlp_ite]
    split
    · exact wlp_of_keeps keeps_respondCode hw2
    · rename_i hcontroller
      have hmode := hvalue .controller (not_not.mp hcontroller)
      rw [wlp_bind]
      refine wlp_mono ?_ wlp_readMeshSetting_value
      rintro setting w3 ⟨hkeeps3, hsetting⟩
      have hw3 := hkeeps3.inMode hw2
      have hstored : storedSetting w2 = storedSetting w :=
        hkeeps2.storedSetting_eq.trans hkeeps1.storedSetting_eq
      rw [hkeeps1.storedSetting_eq] at hmode
      unfold field
      rw [wlp_bind, wlp_deref]
      intro data hdata
      rw [wlp_bind, wlp_deref]
      intro requested hrequested
      rw [wlp_ite]
      split
      · rename_i hfound
        have hsame : setting = storedSetting w := by
          cases hsetting with
          | inl hread => exact hread.trans hstored
          | inr hempty =>
              rw [hempty] at hfound
              cases hfound
        have hmsg : requestedSetting msgJson = some requested := by
          unfold requestedSetting
          rw [show payload msgJson .meshSetting = some data from hdata]
          exact hrequested
        rw [hsame] at hfound
        have hname := hnamed rfl hup hmode requested hmsg hfound
        have hrunMode : w3.mode = .controller := by
          have hin3 := hw3.mode
          rw [hkeeps3.storedSetting_eq, hstored, hmode] at hin3
          exact (Option.some_inj.mp hin3).symm
        rw [wlp_bind]
        refine wlp_mono ?_ (wlp_writeMeshSetting_named hw3 (by
          rw [hrunMode]
          exact hname))
        intro _ w4 hw4
        refine wlp_of_keeps ?_ hw4
        exact respects_bind keeps_publish fun _ =>
          respects_bind (respects_meshSettingFree _) fun _ =>
            respects_bind (respects_deref _ _) fun _ =>
              respects_bind (respects_keepsSetting [] List.not_mem_nil
                (respects_changeWifiIface _)) fun _ => respects_msgRespondFree
      · refine wlp_of_keeps ?_ hw3
        exact respects_bind keeps_publish fun _ =>
          respects_bind (respects_meshSettingFree _) fun _ =>
            respects_msgRespondFree

/-- What one completed request preserves. -/
theorem inMode_of_step {call : MeshCall} {w' : World} (hin : InMode w)
    (hstep : MeshStep w call w') (hnamed : call.NamesMode w) : InMode w' := by
  have hends : wlp call.exec (fun _ w' => InMode w') w := by
    rcases call with ⟨request, env, msgJson⟩
    cases request with
    | createMesh => exact wlp_createMesh hin
    | updateMesh => exact wlp_updateMesh hnamed hin
    | deleteMesh => exact wlp_deleteMesh hin
    | requestActivateAgentDevice => exact wlp_switchAgent enters_runAgentMode
    | requestInactivateAgentDevice =>
        exact wlp_switchAgent enters_runStandaloneMode
  exact wlp_iff.mp hends () w' hstep

end

/-- The stored mode and the running mode agree after every run of completed
requests whose updates name the mode of the controller, and the stored mode is
then one of the three. -/
theorem inMode_of_run {w w' : World} {calls : List MeshCall} (hin : InMode w)
    (hrun : Runs (fun w call w' => MeshStep w call w' ∧ call.NamesMode w)
      w calls w') :
    InMode w' ∧ (storedSetting w').mode = some w'.mode := by
  have hlast : InMode w' := hrun.invariant InMode
    (fun _ _ _ hin hstep => inMode_of_step hin hstep.1 hstep.2) hin
  exact ⟨hlast, hlast.mode⟩

/-- A controller with a network of its own. -/
def runningController : World :=
  (storeSetting
    { meshId := some "mesh_1"
      workMode := some (workModeText .controller)
      wireless := some { wifiIface := some { ssid := some "home" } } }
    World.installed).enterMode .controller

theorem inMode_runningController : InMode runningController := by
  have hstored := storedSetting_storeSetting
    { meshId := some "mesh_1"
      workMode := some (workModeText .controller)
      wireless := some { wifiIface := some { ssid := some "home" } } }
    World.installed
  show (storedSetting (storeSetting _ World.installed)).workMode = _
  rw [hstored]
  rfl

/-- An update of that network without the mode. -/
def updateWithoutMode : MeshCall where
  request := .updateMesh
  env := .alone
  msgJson :=
    .obj [("name", .str "hub.ezm.mesh.updated"),
      ("data", .obj [("mesh_id", .str "mesh_1"),
        ("wireless", .obj [("wifi_iface",
          .obj [("ssid", .str "home"), ("key", .str "secret")])])])]

theorem carriesIface_updateWithoutMode : updateWithoutMode.CarriesIface :=
  ⟨_, _, _, rfl, rfl, rfl, Option.some_ne_none _, Option.some_ne_none _⟩

theorem meshStep_updateWithoutMode : MeshStep runningController
    updateWithoutMode (final updateWithoutMode.exec runningController) :=
  run_of_isOk (by decide +kernel)

/-- An update without a mode leaves none in the file. -/
theorem not_inMode_of_updateWithoutMode :
    ¬ forall w w' calls, InMode w ->
      Runs (fun w call w' => MeshStep w call w' ∧ call.CarriesIface) w calls w' ->
      InMode w' := by
  intro hclaim
  have hafter := hclaim runningController _ [updateWithoutMode]
    inMode_runningController
    (Runs.cons ⟨meshStep_updateWithoutMode, carriesIface_updateWithoutMode⟩
      (Runs.nil _))
  have hmode : (storedSetting
      (final updateWithoutMode.exec runningController)).workMode = none := by
    decide +kernel
  rw [InMode, hmode] at hafter
  cases hafter

/-!
## A network that is renamed twice
-/

def rename (ssid : String) : MeshCall where
  request := .updateMesh
  env := .alone
  msgJson := .obj [("name", .str "hub.ezm.mesh.updated"),
    ("data", .obj [("mesh_id", .str "mesh_1"), ("work_mode", .str "controller"),
      ("wireless", .obj [("wifi_iface",
        .obj [("ssid", .str ssid), ("key", .str "secret")])])])]

/-- A deletion that comes while the mesh daemon is down. -/
def earlyDeletion : MeshCall where
  request := .deleteMesh
  env := { Surroundings.alone with deamonIsRunning := false }
  msgJson := .obj [("name", .str "hub.ezm.mesh.deleted")]

def runningControllerAfter (calls : List MeshCall) : World :=
  calls.foldl (fun w call => final call.exec w) runningController

theorem namesMode_rename (ssid : String) (w : World) : (rename ssid).NamesMode w := by
  intro _ _ _ requested hrequested _
  cases hrequested
  rfl

theorem inMode_of_run_renames :
    InMode (runningControllerAfter [rename "hall", earlyDeletion, rename "attic"]) := by
  have hhall : MeshStep runningController (rename "hall")
      (runningControllerAfter [rename "hall"]) :=
    run_of_isOk (by decide +kernel)
  have hdeletion : MeshStep (runningControllerAfter [rename "hall"]) earlyDeletion
      (runningControllerAfter [rename "hall", earlyDeletion]) :=
    run_of_isOk (by decide +kernel)
  have hattic : MeshStep (runningControllerAfter [rename "hall", earlyDeletion])
      (rename "attic")
      (runningControllerAfter [rename "hall", earlyDeletion, rename "attic"]) :=
    run_of_isOk (by decide +kernel)
  have hnames : earlyDeletion.NamesMode (runningControllerAfter [rename "hall"]) := by
    intro hrequest
    cases hrequest
  exact (inMode_of_run inMode_runningController
    (Runs.cons ⟨hhall, namesMode_rename _ _⟩
      (Runs.cons ⟨hdeletion, hnames⟩
        (Runs.cons ⟨hattic, namesMode_rename _ _⟩ (Runs.nil _))))).1

end Api
end Noc
