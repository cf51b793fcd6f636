import Noc.Api.Correlation
import Noc.Rewriting

/-!
# The guard of the mesh identifier

Updating and deleting the mesh are requests of the controller that name the
mesh.  The update compares the name in one direction of containment, the
deletion decodes its request without it.
-/

namespace Noc
namespace Api

open Foundation
open Foundation.Exec
open Foundation.Json
open Mesh
open Utils

/-- The request names the stored mesh. -/
def SameMeshId (msgJson : Json) (w : World) : Prop :=
  exists requested id, requestedSetting msgJson = some requested ∧
    requested.meshId = some id ∧ (storedSetting w).meshId = some id

/-- The setting file, the wireless settings and the running mode are left as
they were, and the answer is that the mesh is not found. -/
structure Refused (w w' : World) : Prop where
  file : w'.files.content .meshSetting = w.files.content .meshSetting
  uci : w'.uci = w.uci
  mode : w'.mode = w.mode
  answered : exists answer, w'.published = w.published ++ [answer] ∧
    errorCode answer = some ErrorCode.meshNotFound.code

/-- The handler acts for a request that names the stored mesh only. -/
def Guarded (handler : Daemon Unit) (msgJson : Json) (w : World) : Prop :=
  ¬ SameMeshId msgJson w -> Refused w (final handler w)

/-- A request that the update refuses: the daemon runs, the mode is read, the
message carries a setting, and its identifier does not occur in the stored one
as it is read once more. -/
structure Refusable (env : Surroundings) (msgJson : Json) (w : World) : Prop where
  running : env.deamonIsRunning = true
  unlocked : w.files.locked = false
  opens : w.files.fopenFails 0 = false
  holds : (storedSetting w).HoldsIface
  apart : exists requested, requestedSetting msgJson = some requested ∧
    (w.files.fopenFails 1 = true ∨
      appStrstr (storedSetting w).meshId requested.meshId = false)

/-!
## Reading the mode and the setting
-/

section

variable {w : World} {mode : WorkMode}

/-- What `get_work_mode` needs of a setting that names a mode. -/
structure ModeRead (w : World) : Prop where
  unlocked : w.files.locked = false
  opens : w.files.fopenFails 0 = false
  holds : (storedSetting w).HoldsIface

theorem run_readMeshSetting_of_unlocked (hunlocked : w.files.locked = false) :
    readMeshSetting w =
      .ok (cvtJsonToMeshSetting ((opened .meshSetting w.files).bind Body.parse),
        w.afterOpen .meshSetting) := by
  apply run_of_wp
  unfold readMeshSetting
  rw [wp_bind, wp_readJson_iff]
  exact ⟨hunlocked, rfl, rfl⟩

theorem opened_of_opens (hopens : w.files.fopenFails 0 = false) :
    opened .meshSetting w.files = w.files.content .meshSetting := by
  unfold opened
  rw [hopens]
  rfl

theorem opened_of_fails (hfails : w.files.fopenFails 0 = true) :
    opened .meshSetting w.files = none := by
  unfold opened
  rw [hfails]
  rfl

theorem content_of_mode (hmode : (storedSetting w).mode = some mode) :
    (w.files.content .meshSetting).isNone = false := by
  cases hcontent : w.files.content .meshSetting with
  | some body => rfl
  | none =>
      unfold storedSetting World.json at hmode
      rw [hcontent] at hmode
      cases hmode

theorem wp_getWorkMode_of_mode (hmode : (storedSetting w).mode = some mode)
    (post : Option WorkMode -> World -> Prop) :
    wp getWorkMode post w <->
      ModeRead w ∧ post (some mode) (w.afterOpen .meshSetting) := by
  cases hlocked : w.files.locked with
  | true =>
      have hfault : ¬ wp getWorkMode post w := by
        unfold getWorkMode readMeshSetting
        rw [wp_bind, wp_bind, wp_readJson_iff, hlocked]
        exact fun h => Bool.noConfusion h.1
      refine iff_of_false hfault fun h => ?_
      rw [h.1.unlocked] at hlocked
      cases hlocked
  | false =>
      rw [wp_getWorkMode_of_run (run_readMeshSetting_of_unlocked hlocked)]
      cases hopens : w.files.fopenFails 0 with
      | true =>
          rw [opened_of_fails hopens]
          refine iff_of_false (fun h => h.1 rfl) fun h => ?_
          rw [h.1.opens] at hopens
          cases hopens
      | false =>
          rw [opened_of_opens hopens]
          show (storedSetting w).workMode ≠ none ∧
            ((storedSetting w).mode ≠ none -> (storedSetting w).HoldsIface) ∧
              post (storedSetting w).mode _ <-> _
          have htext : (storedSetting w).workMode ≠ none := by
            intro hnone
            unfold MeshSetting.mode at hmode
            rw [hnone] at hmode
            cases hmode
          rw [hmode, and_iff_right htext]
          constructor
          · intro h
            exact ⟨⟨hlocked, hopens, h.1 (Option.some_ne_none mode)⟩, h.2⟩
          · intro h
            exact ⟨fun _ => h.1.holds, h.2⟩

theorem final_getWorkMode_bind (hmode : (storedSetting w).mode = some mode)
    (hread : ModeRead w) (next : Option WorkMode -> Daemon Unit) :
    final (getWorkMode >>= next) w =
      final (next (some mode)) (w.afterOpen .meshSetting) :=
  final_bind_of_run
    (run_of_wp ((wp_getWorkMode_of_mode hmode _).mpr ⟨hread, rfl, rfl⟩)) next

theorem published_getWorkMode_bind (hmode : (storedSetting w).mode = some mode)
    (hread : ¬ ModeRead w) (next : Option WorkMode -> Daemon Unit) :
    (final (getWorkMode >>= next) w).published = w.published := by
  rcases final_bind_cases getWorkMode next w with hend | ⟨value, hrun, _⟩
  · rw [hend]
    exact silent_getWorkMode w
  · have hreturns : wp getWorkMode (fun _ _ => True) w :=
      (wp_of_run hrun _).mpr trivial
    exact absurd ((wp_getWorkMode_of_mode hmode _).mp hreturns).1 hread

/-- The setting an update reads after the mode. -/
theorem run_readMeshSetting_again
    (hmode : (storedSetting w).mode = some mode) (hread : ModeRead w) :
    exists setting w', readMeshSetting (w.afterOpen .meshSetting) =
        .ok (setting, w') ∧
      setting = (if w.files.fopenFails 1 then {} else storedSetting w) ∧
      w'.files.content = w.files.content ∧ w'.uci = w.uci ∧
      w'.mode = w.mode ∧ w'.published = w.published := by
  have hunlocked : (w.afterOpen .meshSetting).files.locked = false := by
    show (opened .meshSetting w.files).isNone = false
    rw [opened_of_opens hread.opens, content_of_mode hmode]
  refine ⟨_, _, run_readMeshSetting_of_unlocked hunlocked, ?_, rfl, rfl, rfl,
    rfl⟩
  have hnext : (w.afterOpen .meshSetting).files.fopenFails 0 =
      w.files.fopenFails 1 := rfl
  cases hfails : w.files.fopenFails 1 with
  | true =>
      rw [opened_of_fails (hnext.trans hfails)]
      rfl
  | false =>
      rw [opened_of_opens (hnext.trans hfails)]
      rfl

end

/-!
## What is no refusal
-/

section

variable {env : Surroundings} {msgJson : Json} {w : World}
  {msgRespond : MsgRespond}

theorem not_refused_of_published {w' : World}
    (h : w'.published = w.published) : ¬ Refused w w' := by
  intro hrefused
  rcases hrefused.answered with ⟨answer, hanswer, _⟩
  rw [h] at hanswer
  simp at hanswer

/-- The answer has another code. -/
def OtherCode (message : Json) : Prop :=
  errorCode message ≠ some ErrorCode.meshNotFound.code

theorem otherCode_of_printed {code : ErrorCode} {msgType : MsgType}
    (hcode : code.code ≠ ErrorCode.meshNotFound.code) {message : Json}
    (hmessage : cvtMsgRespondToJson (msgRespond.withError env code) msgType =
      some message) : OtherCode message := by
  unfold OtherCode
  rw [errorCode_of_printed hmessage]
  exact fun h => hcode (Option.some_inj.mp h)

theorem not_refused_of_replies {program : Daemon Unit} {w' : World}
    (hsame : w'.published = w.published)
    (h : Replies env OtherCode program) : ¬ Refused w (final program w') := by
  intro hrefused
  rcases hrefused.answered with ⟨answer, hanswer, hcode⟩
  rw [← hsame] at hanswer
  rcases h w' with hnone | ⟨other, broadcasts, hafter, hother, _⟩
  · rw [hanswer] at hnone
    simp at hnone
  · rw [hanswer, List.append_cancel_left_eq, List.cons.injEq] at hafter
    rw [hafter.1] at hcode
    exact hother hcode

theorem replies_respondDeamonDown_other :
    Replies env OtherCode (respondDeamonDown env msgRespond) := by
  apply replies_bind (silent_cvtReqNameToResName _)
  intro name
  exact replies_publish (fun _ => otherCode_of_printed (by decide))
    (onlyBroadcasts_of_silent silent_msgRespondFree)

/-!
## The update
-/

theorem replies_updateMesh_success {stored requested : MeshSetting} :
    Replies env OtherCode
      (writeMeshSetting requested >>= fun _ =>
        let answer := msgRespond.withError env .success
        mqttPublishMessage answer .meshSetting >>= fun _ =>
          meshSettingFree (some stored) >>= fun _ =>
            field requested.wireless >>= fun wireless =>
              changeWifiIface wireless.wifiIface >>= fun _ =>
                msgRespondFree answer .meshSetting) := by
  apply replies_bind (silent_writeMeshSetting _)
  intro _
  apply replies_publish fun _ => otherCode_of_printed (by decide)
  apply onlyBroadcasts_of_silent
  exact silent_bind (silent_meshSettingFree _) fun _ =>
    silent_bind (silent_field _) fun _ =>
      silent_bind (silent_of_beside [] (respects_changeWifiIface _)) fun _ =>
        silent_msgRespondFree

theorem run_mqttPublishMessage_empty (answer : MsgRespond) (w : World) :
    exists message, cvtMsgRespondToJson answer .empty = some message ∧
      mqttPublishMessage answer .empty w = .ok ((), w.publish message) := by
  rcases exists_printed_iff.mpr (encodable_empty answer.respondData.data) with
    ⟨message, hmessage⟩
  refine ⟨message, hmessage, ?_⟩
  apply run_of_wp
  unfold mqttPublishMessage field
  rw [wp_bind, wp_deref]
  exact ⟨message, hmessage, rfl, rfl⟩

theorem refused_meshNotFound {w' : World} {stored : Option MeshSetting}
    (hcontent : w'.files.content = w.files.content) (huci : w'.uci = w.uci)
    (hmode : w'.mode = w.mode) (hpublished : w'.published = w.published) :
    Refused w (final (
      let answer := msgRespond.withError env .meshNotFound
      mqttPublishMessage answer .empty >>= fun _ =>
        meshSettingFree stored >>= fun _ =>
          msgRespondFree answer .meshSetting) w') := by
  let answer := msgRespond.withError env .meshNotFound
  rcases run_mqttPublishMessage_empty answer w' with ⟨message, hmessage, hrun⟩
  have hfree : Respects Eq (meshSettingFree stored >>= fun _ =>
      msgRespondFree answer .meshSetting) :=
    respects_bind (respects_meshSettingFree _) fun _ => respects_msgRespondFree
  have hend := hfree (w'.publish message)
  show Refused w (final (mqttPublishMessage answer .empty >>= fun _ => _) w')
  rw [final_bind_of_run hrun, ← hend]
  constructor
  · exact congrFun hcontent _
  · exact huci
  · exact hmode
  · refine ⟨message, ?_, errorCode_of_printed hmessage⟩
    rw [World.published_publish, hpublished]

/-- Once the setting is read, its identifier decides. -/
theorem refused_updateMesh_of_read {w' : World} {setting : MeshSetting}
    (hcontent : w'.files.content = w.files.content) (huci : w'.uci = w.uci)
    (hmode : w'.mode = w.mode) (hpublished : w'.published = w.published) :
    Refused w (final (do
        let data <- field (payload msgJson .meshSetting)
        let requested <- field data.toMeshSetting
        if appStrstr setting.meshId requested.meshId then
          writeMeshSetting requested
          let msgRespond := msgRespond.withError env .success
          mqttPublishMessage msgRespond .meshSetting
          meshSettingFree (some setting)
          let wireless <- field requested.wireless
          changeWifiIface wireless.wifiIface
          msgRespondFree msgRespond .meshSetting
        else
          let msgRespond := msgRespond.withError env .meshNotFound
          mqttPublishMessage msgRespond .empty
          meshSettingFree (some setting)
          msgRespondFree msgRespond .meshSetting) w') <->
      exists requested, requestedSetting msgJson = some requested ∧
        appStrstr setting.meshId requested.meshId = false := by
  have hnot : ¬ Refused w w' := not_refused_of_published hpublished
  unfold requestedSetting
  cases payload msgJson .meshSetting with
  | none => exact iff_of_false hnot (by simp)
  | some data =>
      show Refused w (final (field data.toMeshSetting >>= _) w') <-> _
      rw [Option.bind_some]
      cases data.toMeshSetting with
      | none => exact iff_of_false hnot (by simp)
      | some requested =>
          simp only [Option.some_inj, exists_eq_left']
          show Refused w (final (if appStrstr setting.meshId requested.meshId then
            _ else _) w') <-> _
          cases happ : appStrstr setting.meshId requested.meshId with
          | true =>
              rw [if_pos rfl]
              refine iff_of_false ?_ fun h => Bool.noConfusion h
              exact not_refused_of_replies hpublished replies_updateMesh_success
          | false =>
              rw [if_neg Bool.false_ne_true]
              refine iff_of_true ?_ rfl
              exact refused_meshNotFound hcontent huci hmode hpublished

theorem refused_updateMesh_iff (hrouted : Routed msgJson)
    (hmode : (storedSetting w).mode = some .controller) :
    Refused w (final (updateMesh env msgJson) w) <->
      Refusable env msgJson w := by
  rcases run_receive hrouted .meshSetting w with ⟨msgRespond, hopened, hrun⟩
  unfold updateMesh
  rw [final_bind_of_run hrun]
  by_cases hrunning : env.deamonIsRunning = false
  · simp only [hrunning, if_true]
    refine iff_of_false ?_ ?_
    · exact not_refused_of_replies rfl replies_respondDeamonDown_other
    · intro h
      rw [h.running] at hrunning
      cases hrunning
  · simp only [if_neg hrunning]
    have hup : env.deamonIsRunning = true := by simpa using hrunning
    by_cases hread : ModeRead w
    · rw [final_getWorkMode_bind hmode hread, if_neg (not_not.mpr rfl)]
      rcases run_readMeshSetting_again hmode hread with
        ⟨setting, w', hagain, hsetting, hcontent, huci, hmode', hpublished⟩
      rw [final_bind_of_run hagain]
      refine (refused_updateMesh_of_read hcontent huci hmode' hpublished).trans ?_
      have hapart : forall requested : MeshSetting,
          appStrstr setting.meshId requested.meshId = false <->
            w.files.fopenFails 1 = true ∨
              appStrstr (storedSetting w).meshId requested.meshId = false := by
        intro requested
        rw [hsetting]
        cases w.files.fopenFails 1 <;> simp
      simp only [hapart]
      exact ⟨fun h => ⟨hup, hread.unlocked, hread.opens, hread.holds, h⟩,
        fun h => h.apart⟩
    · refine iff_of_false ?_ ?_
      · exact not_refused_of_published
          (published_getWorkMode_bind hmode hread _)
      · intro h
        exact hread ⟨h.unlocked, h.opens, h.holds⟩

/-!
## The deletion
-/

theorem replies_deleteMesh_success {setting : MeshSetting} :
    Replies env OtherCode
      (writeMeshSetting setting >>= fun _ =>
        let answer := msgRespond.withError env .success
        mqttPublishMessage answer .empty >>= fun _ =>
          runStandaloneMode env >>= fun _ =>
            meshSettingFree (some setting) >>= fun _ =>
              msgRespondFree answer .meshSetting) := by
  apply replies_bind (silent_writeMeshSetting _)
  intro _
  apply replies_publish fun _ => otherCode_of_printed (by decide)
  apply onlyBroadcasts_of_silent
  exact silent_bind silent_runStandaloneMode fun _ =>
    silent_bind (silent_meshSettingFree _) fun _ => silent_msgRespondFree

/-- The deletion of a controller's mesh never looks at the identifier. -/
theorem not_refused_deleteMesh (hrouted : Routed msgJson)
    (hmode : (storedSetting w).mode = some .controller) :
    ¬ Refused w (final (deleteMesh env msgJson) w) := by
  rcases run_receive hrouted .empty w with ⟨msgRespond, _, hrun⟩
  unfold deleteMesh
  rw [final_bind_of_run hrun]
  by_cases hrunning : env.deamonIsRunning = false
  · simp only [hrunning, if_true]
    exact not_refused_of_replies rfl replies_respondDeamonDown_other
  · simp only [if_neg hrunning]
    by_cases hread : ModeRead w
    · rw [final_getWorkMode_bind hmode hread, if_neg (not_not.mpr rfl)]
      rcases run_readMeshSetting_again hmode hread with
        ⟨stored, w', hagain, _, _, _, _, hpublished⟩
      rw [final_bind_of_run hagain]
      exact not_refused_of_replies hpublished replies_deleteMesh_success
    · exact not_refused_of_published (published_getWorkMode_bind hmode hread _)

/-- The update is guarded where its request names the stored mesh or is one it
refuses, the deletion only where its request names the stored mesh. -/
theorem guarded_iff (hrouted : Routed msgJson)
    (hmode : (storedSetting w).mode = some .controller) :
    (Guarded (updateMesh env msgJson) msgJson w <->
      SameMeshId msgJson w ∨ Refusable env msgJson w) ∧
    (Guarded (deleteMesh env msgJson) msgJson w <-> SameMeshId msgJson w) := by
  unfold Guarded
  rw [refused_updateMesh_iff hrouted hmode, or_iff_not_imp_left]
  refine ⟨Iff.rfl, ?_⟩
  constructor
  · intro hguarded
    by_contra hother
    exact not_refused_deleteMesh hrouted hmode (hguarded hother)
  · intro hsame hother
    exact absurd hsame hother

end

/-- A device in controller mode. -/
def controllerOf (meshId : String) : World :=
  storeSetting
    { meshId := some meshId, workMode := some (workModeText .controller) }
    World.installed

theorem mode_controllerOf (meshId : String) :
    (storedSetting (controllerOf meshId)).mode = some .controller := by
  unfold controllerOf
  rw [storedSetting_storeSetting]
  rfl

/-- A deletion that names no mesh. -/
def unnamedDeletion : Json := .obj [("name", .str "hub.ezm.mesh.deleted")]

theorem routed_unnamedDeletion : Routed unnamedDeletion :=
  ⟨"hub.ezm.mesh.deleted", rfl, by decide +kernel⟩

/-- The mesh is deleted by a request without an identifier. -/
theorem not_guarded_of_unnamedDeletion :
    ¬ forall env msgJson w, Routed msgJson ->
      (storedSetting w).mode = some .controller ->
      Guarded (updateMesh env msgJson) msgJson w ∧
        Guarded (deleteMesh env msgJson) msgJson w := by
  intro hclaim
  have hmode := mode_controllerOf "mesh_1"
  have hguarded := (hclaim .alone unnamedDeletion (controllerOf "mesh_1")
    routed_unnamedDeletion hmode).2
  apply not_refused_deleteMesh routed_unnamedDeletion hmode
  apply hguarded
  rintro ⟨requested, id, hrequested, _⟩
  cases hrequested

/-- An update that names another mesh. -/
def otherUpdate : Json :=
  .obj [("name", .str "hub.ezm.mesh.updated"),
    ("data", .obj [("mesh_id", .str "mesh_2")])]

theorem guarded_iff_otherUpdate :
    Guarded (updateMesh .alone otherUpdate) otherUpdate
      (controllerOf "mesh_1") := by
  have hrouted : Routed otherUpdate :=
    ⟨"hub.ezm.mesh.updated", rfl, by decide +kernel⟩
  refine (guarded_iff hrouted (mode_controllerOf "mesh_1")).1.mpr (Or.inr ?_)
  have hstored := storedSetting_storeSetting
    { meshId := some "mesh_1", workMode := some (workModeText .controller) }
    World.installed
  constructor
  · rfl
  · rfl
  · rfl
  · unfold controllerOf
    rw [hstored]
    intro wireless hwireless
    cases hwireless
  · refine ⟨{ meshId := some "mesh_2" }, rfl, Or.inr ?_⟩
    unfold controllerOf
    rw [hstored]
    decide +kernel

end Api
end Noc
