import Noc.Api.Correlation

/-!
# The name of an answer

The name a requester waits for, and on which paths the answer goes out under it.
-/

namespace Noc
namespace Api

open Foundation
open Foundation.Exec
open Foundation.Json

/-!
## The expected name
-/

/-- Exchange the first two segments and close the last one. -/
def exchanged : List String -> List String
  | first :: second :: rest =>
      second :: first :: (rest.dropLast ++ [lastSegment (rest.getLastD "")])
  | segments => segments

def dotted (segments : List String) : String :=
  (String.singleton '.').intercalate segments

def expectedName (name : String) : String :=
  dotted (exchanged (strtok '.' name))

section

variable {first second : String} {rest : List String}

theorem isToken_lastSegment {segment : String} (h : IsToken '.' segment) :
    IsToken '.' (lastSegment segment) := by
  unfold lastSegment
  split
  · exact ⟨by decide, by decide⟩
  · exact h

/-- A closed segment is not closed again. -/
theorem lastSegment_lastSegment (segment : String) :
    lastSegment (lastSegment segment) = lastSegment segment := by
  cases hrequested : strstr segment "requested" with
  | true =>
      have hclosed : lastSegment segment = "responded" := by
        rw [lastSegment, hrequested, if_pos rfl]
      rw [hclosed]
      decide
  | false =>
      have hopen : lastSegment segment = segment := by
        rw [lastSegment, hrequested, if_neg Bool.false_ne_true]
      rw [hopen, hopen]

theorem isToken_exchanged {segments : List String}
    (h : forall segment, segment ∈ segments -> IsToken '.' segment)
    (hlength : 3 <= segments.length) :
    forall segment, segment ∈ exchanged segments -> IsToken '.' segment := by
  match segments with
  | first :: second :: last :: rest =>
      intro segment hmem
      have hlast : (last :: rest).getLastD "" ∈ last :: rest := by
        rw [List.getLastD_cons]
        exact List.getLastD_mem_cons
      simp only [exchanged, List.mem_cons, List.mem_append, List.not_mem_nil,
        or_false] at hmem
      rcases hmem with rfl | rfl | hmem | rfl
      · exact h _ (by simp)
      · exact h _ (by simp)
      · exact h _ (by simp [List.mem_of_mem_dropLast hmem])
      · exact isToken_lastSegment
          (h _ (List.mem_cons_of_mem _ (List.mem_cons_of_mem _ hlast)))

theorem dotted_cons_append (segment last : String) (middle : List String) :
    dotted (segment :: (middle ++ [last])) =
      segment ++ String.join (middle.map fun piece => "." ++ piece) ++ "." ++
        last := by
  unfold dotted
  induction middle generalizing segment with
  | nil =>
      rw [List.nil_append, String.intercalate_cons_cons,
        String.intercalate_singleton, List.map_nil, String.join_nil,
        String.append_empty]
      rfl
  | cons piece rest ih =>
      rw [List.cons_append, String.intercalate_cons_cons, ih piece,
        List.map_cons, String.join_cons]
      simp only [String.append_assoc]
      rfl

theorem responseName_eq {segments : List String}
    (hlength : 3 <= segments.length) :
    responseName segments = dotted (exchanged segments) := by
  match segments with
  | first :: second :: last :: rest =>
      have hdotted := dotted_cons_append first
        (lastSegment ((last :: rest).getLastD "")) (last :: rest).dropLast
      unfold dotted at hdotted
      unfold responseName exchanged dotted middleSegments
      rw [String.intercalate_cons_cons, hdotted]
      simp only [String.append_assoc]
      rfl

theorem length_exchanged {segments : List String}
    (hlength : 3 <= segments.length) :
    (exchanged segments).length = segments.length := by
  match segments with
  | first :: second :: last :: rest => simp [exchanged]

/-- Converting twice exchanges the segments back. -/
theorem exchanged_exchanged_eq_iff {segments : List String}
    (hlength : 3 <= segments.length) :
    exchanged (exchanged segments) = exchanged segments <->
      segments[0]? = segments[1]? := by
  match segments with
  | first :: second :: last :: rest =>
      simp only [exchanged, List.dropLast_concat, List.getLastD_concat,
        lastSegment_lastSegment, List.cons.injEq, and_true,
        List.getElem?_cons_zero, List.getElem?_cons_succ, Option.some_inj]
      exact ⟨fun hboth => hboth.1, fun hsame => ⟨hsame, hsame.symm⟩⟩

end

/-!
## The paths to an answer
-/

/-- What the callback starts: a handler, or the answer to an invalid name. -/
def runPath (env : Surroundings) (name : String) (msgJson : Json) :
    Option MessageHandler -> Daemon Unit
  | some handler => handler.run env msgJson
  | none => respondRequestInvalid env name msgJson

theorem mqttOnMessageCbHandler_eq {env : Surroundings} {msgJson : Json}
    {name : String} (hname : readString (some msgJson) "name" = some name) :
    mqttOnMessageCbHandler env (some msgJson) =
      runPath env name msgJson (selectedHandler name) := by
  unfold mqttOnMessageCbHandler
  dsimp only
  rw [hname]
  dsimp only
  cases selectedHandler name <;> rfl

/-- The first two segments of the name are the same. -/
def Symmetric (name : String) : Prop :=
  (strtok '.' name)[0]? = (strtok '.' name)[1]?

/-- When a path answers under the expected name.  Without the mesh daemon an
update and a deletion convert the name twice, and the answer to an invalid name
goes out under whatever is left where the name was. -/
def NameKept (env : Surroundings) (name : String) :
    Option MessageHandler -> Prop
  | some .updateMesh => env.deamonIsRunning = false -> Symmetric name
  | some .deleteMesh => env.deamonIsRunning = false -> Symmetric name
  | some _ => True
  | none => False

/-- What the path publishes is an answer under the expected name and broadcasts
after it. -/
def AnswersAsExpected (env : Surroundings) (msgJson : Json) (name : String)
    (path : Option MessageHandler) (w : World) : Prop :=
  AtMostAnswer env
    (fun message =>
      readString (some message) "name" = some (expectedName name))
    w.published (final (runPath env name msgJson path) w).published

/-- So it is whatever is left where the name of the message was. -/
def NamedAsExpected (env : Surroundings) (msgJson : Json) (name : String)
    (path : Option MessageHandler) (w : World) : Prop :=
  forall freedName,
    AnswersAsExpected { env with freedName := freedName } msgJson name path w

section

variable {env : Surroundings} {msgJson : Json} {name : String} {w : World}
  {msgRespond : MsgRespond}

theorem answerName_eq (hname : readString (some msgJson) "name" = some name)
    (hlength : 3 <= (strtok '.' name).length) :
    answerName msgJson = expectedName name := by
  unfold answerName segments
  rw [hname]
  exact responseName_eq hlength

theorem downName_eq_iff (hname : readString (some msgJson) "name" = some name)
    (hlength : 3 <= (strtok '.' name).length) :
    downName msgJson = expectedName name <-> Symmetric name := by
  have htokens := isToken_exchanged (fun _ hmem => mem_strtok hmem) hlength
  have hexchanged : 3 <= (exchanged (strtok '.' name)).length := by
    rw [length_exchanged hlength]
    exact hlength
  have hsegments : segments (some (answerName msgJson)) =
      exchanged (strtok '.' name) := by
    rw [answerName_eq hname hlength]
    exact strtok_intercalate htokens
  unfold downName
  rw [hsegments, responseName_eq hexchanged]
  exact (intercalate_inj (isToken_exchanged htokens hexchanged) htokens).trans
    (exchanged_exchanged_eq_iff hlength)

theorem checkedName_eq_iff
    (hname : readString (some msgJson) "name" = some name)
    (hlength : 3 <= (strtok '.' name).length) :
    checkedName env msgJson = expectedName name <->
      (env.deamonIsRunning = false -> Symmetric name) := by
  unfold checkedName
  split
  · rename_i hdown
    rw [downName_eq_iff hname hlength]
    exact ⟨fun hsymmetric _ => hsymmetric, fun hkept => hkept hdown⟩
  · rename_i hrunning
    exact iff_of_true (answerName_eq hname hlength)
      fun hdown => absurd hdown hrunning

/-- Some text is not the expected name. -/
theorem exists_ne_expectedName (name : String) :
    exists freedName, freedName ≠ expectedName name := by
  by_cases hempty : expectedName name = ""
  · exact ⟨"freed", by rw [hempty]; decide⟩
  · exact ⟨"", fun hname => hempty hname.symm⟩

/-- An answer with a code is out before anything is released. -/
theorem published_respondCode_ne (code : ErrorCode) (freeType : MsgType) :
    (final (respondCode env code freeType msgRespond) w).published ≠
      w.published := by
  rcases exists_printed_iff.mpr
    (encodable_empty (msgRespond.withError env code).respondData.data) with
    ⟨message, hmessage⟩
  have hrun : mqttPublishMessage (msgRespond.withError env code) .empty w =
      .ok ((), w.publish message) := by
    apply run_of_wp
    unfold mqttPublishMessage field
    rw [wp_bind, wp_deref]
    exact ⟨message, hmessage, rfl, rfl⟩
  have hfree : Silent
      (msgRespondFree (msgRespond.withError env code) freeType) :=
    silent_msgRespondFree
  have hafter := hfree (w.publish message)
  unfold respondCode
  rw [final_bind_of_run hrun, hafter, World.published_publish]
  intro hsame
  have hlength := congrArg List.length hsame
  simp at hlength

theorem published_respondDeamonDown_ne {msgType : MsgType}
    (hopened : Opened msgJson msgType msgRespond) :
    (final (respondDeamonDown env msgRespond) w).published ≠ w.published := by
  rcases hopened.name with ⟨respondName, hname, hsegments⟩
  rcases run_cvtReqNameToResName hsegments with ⟨_, _, hrun⟩
  unfold respondDeamonDown
  rw [hname, final_bind_of_run hrun]
  exact published_respondCode_ne _ _

theorem published_updateMesh_ne (hrouted : Routed msgJson)
    (hdown : env.deamonIsRunning = false) :
    (final (updateMesh env msgJson) w).published ≠ w.published := by
  rcases run_receive hrouted .meshSetting w with ⟨_, hopened, hreceive⟩
  unfold updateMesh
  rw [final_bind_of_run hreceive]
  dsimp only
  rw [if_pos hdown]
  exact published_respondDeamonDown_ne hopened

theorem published_deleteMesh_ne (hrouted : Routed msgJson)
    (hdown : env.deamonIsRunning = false) :
    (final (deleteMesh env msgJson) w).published ≠ w.published := by
  rcases run_receive hrouted .empty w with ⟨_, hopened, hreceive⟩
  unfold deleteMesh
  rw [final_bind_of_run hreceive]
  dsimp only
  rw [if_pos hdown]
  exact published_respondDeamonDown_ne hopened

theorem published_respondRequestInvalid_ne
    (hlength : (strtok '.' name).length ≠ 1) :
    (final (respondRequestInvalid env name msgJson) w).published ≠
      w.published := by
  have hanswers : Answers env msgJson (respondRequestInvalid env name msgJson) w :=
    (answers_respondRequestInvalid name).mpr hlength
  rcases wp_iff.mp hanswers with ⟨_, w', hrun, hbetween⟩
  rw [final_of_run hrun]
  intro hsame
  rw [hsame] at hbetween
  exact not_answeredBetween_self _ _ _ hbetween

/-- A path that publishes its answer names it in the one way it can. -/
theorem answersAsExpected_iff {path : Option MessageHandler} {answered : String}
    (hreplies : Replies env (IsReply msgJson answered)
      (runPath env name msgJson path))
    (hpublishes :
      (final (runPath env name msgJson path) w).published ≠ w.published) :
    AnswersAsExpected env msgJson name path w <->
      answered = expectedName name := by
  rcases hreplies w with hsame | ⟨answer, broadcasts, hafter, hreply, hall⟩
  · exact absurd hsame hpublishes
  · constructor
    · rintro (hsame | ⟨other, others, hother, hnamed, _⟩)
      · exact absurd hsame hpublishes
      · have hfirst : answer :: broadcasts = other :: others :=
          List.append_cancel_left (hafter.symm.trans hother)
        rw [← (List.cons.inj hfirst).1, hreply.name] at hnamed
        exact Option.some_inj.mp hnamed
    · rintro rfl
      exact Or.inr ⟨answer, broadcasts, hafter, hreply.name, hall⟩

theorem answersAsExpected_of_replies {path : Option MessageHandler}
    {answered : String}
    (hreplies : Replies env (IsReply msgJson answered)
      (runPath env name msgJson path))
    (hanswered : answered = expectedName name) :
    AnswersAsExpected env msgJson name path w := by
  refine hreplies.mono ?_ w
  intro message hreply
  rw [hreply.name, hanswered]

/-- An update and a deletion name their answer by the daemon's state. -/
theorem answersAsExpected_checked_iff {handler : MessageHandler}
    (hname : readString (some msgJson) "name" = some name)
    (hlength : 3 <= (strtok '.' name).length)
    (hreplies : Replies env (IsReply msgJson (checkedName env msgJson))
      (handler.run env msgJson))
    (hpublishes : env.deamonIsRunning = false ->
      (final (handler.run env msgJson) w).published ≠ w.published) :
    AnswersAsExpected env msgJson name (some handler) w <->
      (env.deamonIsRunning = false -> Symmetric name) := by
  rw [← checkedName_eq_iff hname hlength]
  cases hrunning : env.deamonIsRunning with
  | false => exact answersAsExpected_iff hreplies (hpublishes hrunning)
  | true =>
      have hchecked : checkedName env msgJson = expectedName name := by
        rw [checkedName_eq_iff hname hlength]
        intro hdown
        rw [hrunning] at hdown
        cases hdown
      exact iff_of_true (answersAsExpected_of_replies hreplies hchecked) hchecked

theorem answersAsExpected_handler_iff
    (hname : readString (some msgJson) "name" = some name)
    (hlength : 3 <= (strtok '.' name).length) (handler : MessageHandler) :
    AnswersAsExpected env msgJson name (some handler) w <->
      NameKept env name (some handler) := by
  have hrouted : Routed msgJson := ⟨name, hname, by omega⟩
  have hreplies : Replies env
      (IsReply msgJson (handler.replyName env msgJson))
      (runPath env name msgJson (some handler)) := replies_run handler
  cases handler with
  | updateMesh =>
      exact answersAsExpected_checked_iff hname hlength hreplies
        (published_updateMesh_ne hrouted)
  | deleteMesh =>
      exact answersAsExpected_checked_iff hname hlength hreplies
        (published_deleteMesh_ne hrouted)
  | _ =>
      exact iff_of_true
        (answersAsExpected_of_replies hreplies (answerName_eq hname hlength))
        trivial

/-- Every answer of a path goes out under the name its requester expects
exactly where the path converts the name once. -/
theorem namedAsExpected_iff
    (hname : readString (some msgJson) "name" = some name)
    (hlength : 3 <= (strtok '.' name).length) (path : Option MessageHandler)
    (w : World) :
    NamedAsExpected env msgJson name path w <-> NameKept env name path := by
  unfold NamedAsExpected
  cases path with
  | none =>
      refine iff_of_false ?_ id
      intro hnamed
      rcases exists_ne_expectedName name with ⟨freedName, hne⟩
      have hinvalid : (strtok '.' name).length ≠ 1 := by
        omega
      apply hne
      refine (answersAsExpected_iff ?_ ?_).mp (hnamed freedName)
      · exact replies_respondRequestInvalid name
      · exact published_respondRequestInvalid_ne hinvalid
  | some handler =>
      constructor
      · intro hnamed
        exact (answersAsExpected_handler_iff hname hlength handler).mp
          (hnamed env.freedName)
      · intro hkept freedName
        apply (answersAsExpected_handler_iff hname hlength handler).mpr
        cases handler <;> exact hkept

end

def namedRequest (name : String) : Json :=
  .obj [("name", .str name)]

theorem namedAsExpected_iff_mesh_requested :
    NamedAsExpected .alone (namedRequest "hub.ezm.mesh.requested")
      "hub.ezm.mesh.requested" (some .requestMesh) World.installed := by
  have hlength : 3 <= (strtok '.' "hub.ezm.mesh.requested").length := by
    decide +kernel
  exact (namedAsExpected_iff rfl hlength (some .requestMesh) _).mpr trivial

/-- Without the mesh daemon a deletion is answered under the request's own
name. -/
theorem not_namedAsExpected_of_deamonDown :
    exists answer broadcasts,
      (final (deleteMesh { Surroundings.alone with deamonIsRunning := false }
        (namedRequest "hub.ezm.mesh.deleted")) World.installed).published =
          answer :: broadcasts ∧
      readString (some answer) "name" ≠
        some (expectedName "hub.ezm.mesh.deleted") := by
  let env := { Surroundings.alone with deamonIsRunning := false }
  have hlength : 3 <= (strtok '.' "hub.ezm.mesh.deleted").length := by
    decide +kernel
  have hrouted : Routed (namedRequest "hub.ezm.mesh.deleted") :=
    ⟨"hub.ezm.mesh.deleted", rfl, by omega⟩
  have hanswers : Answers env (namedRequest "hub.ezm.mesh.deleted")
      (deleteMesh env (namedRequest "hub.ezm.mesh.deleted")) World.installed :=
    (answers_deleteMesh healthy_installed hrouted).mpr
      fun hrunning => absurd hrunning Bool.false_ne_true
  rcases exists_reply_of_answers hanswers replies_deleteMesh with
    ⟨answer, broadcasts, hafter, hreply⟩
  refine ⟨answer, broadcasts, hafter, ?_⟩
  rw [hreply.name]
  intro hname
  have hkept := (checkedName_eq_iff rfl hlength).mp (Option.some_inj.mp hname) rfl
  revert hkept
  unfold Symmetric
  decide +kernel

end Api
end Noc
