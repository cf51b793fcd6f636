import Noc.Api.AnswerName
import Noc.Api.MeshMemory

/-!
# Which messages are answered

A message is answered when its processing runs to the end, does nothing with memory
that its language leaves undefined, and publishes one answer under the name made of
the request's.
-/

namespace Noc
namespace Api

open Foundation
open Foundation.Exec
open Foundation.Json

/-- One answer to the request under its own name, and broadcasts after it. -/
def NamedAnswerBetween (env : Surroundings) (msgJson : Json)
    (before after : List Json) : Prop :=
  exists answer broadcasts, after = before ++ answer :: broadcasts ∧
    IsAnswer msgJson answer ∧
    readString (some answer) "name" = some (answerName msgJson) ∧
    forall message, message ∈ broadcasts -> IsBroadcast env message

def Answered (env : Surroundings) (msgJson : Json) (w : World) : Prop :=
  wp (mqttOnMessageCbHandler env (some msgJson))
      (fun _ w' => NamedAnswerBetween env msgJson w.published w'.published) w ∧
    Clean [] (Memory.mqttOnMessageCbHandler env msgJson w)

/-!
## The condition
-/

/-- What the handler of a name asks of the message and of the stored state. -/
structure HandlerReady (env : Surroundings) (msgJson : Json) (w : World) (name : String)
    (handler : MessageHandler) : Prop where
  fields : FieldsPresent env msgJson w handler
  nameKept : NameKept env name (some handler)
  nameFits : Memory.NameFits msgJson
  memory : Memory.MemoryReady env msgJson w handler

/-- Which messages the daemon answers: none whose name selects no handler. -/
def Answerable (env : Surroundings) (msgJson : Json) (w : World) : Prop :=
  match readString (some msgJson) "name" with
  | none => False
  | some name =>
      match selectedHandler name with
      | some handler => HandlerReady env msgJson w name handler
      | none => False

section

variable {env : Surroundings} {msgJson : Json} {w : World} {name : String}

/-!
## Names
-/

/-- The segments of an answer's name; the last one is closed. -/
def answeredSegments : List String -> List String
  | first :: second :: rest =>
      second :: first ::
        (rest.dropLast ++ [lastSegment ((first :: second :: rest).getLastD "")])
  | segments => segments

theorem responseName_eq_dotted {segments : List String} (hlength : 2 <= segments.length) :
    responseName segments = dotted (answeredSegments segments) := by
  match segments with
  | first :: second :: rest =>
      have hdotted := dotted_cons_append first
        (lastSegment ((first :: second :: rest).getLastD "")) rest.dropLast
      unfold dotted at hdotted
      unfold responseName answeredSegments dotted middleSegments
      rw [String.intercalate_cons_cons, hdotted]
      simp only [String.append_assoc]
      rfl

theorem three_le_length_answeredSegments {segments : List String}
    (hlength : 2 <= segments.length) : 3 <= (answeredSegments segments).length := by
  match segments with
  | first :: second :: rest => simp [answeredSegments]

theorem isToken_answeredSegments {segments : List String}
    (h : forall segment, segment ∈ segments -> IsToken '.' segment)
    (hlength : 2 <= segments.length) :
    forall segment, segment ∈ answeredSegments segments -> IsToken '.' segment := by
  match segments with
  | first :: second :: rest =>
      intro segment hmem
      have hlast : (first :: second :: rest).getLastD "" ∈ first :: second :: rest := by
        rw [List.getLastD_cons]
        exact List.getLastD_mem_cons
      simp only [answeredSegments, List.mem_cons, List.mem_append, List.not_mem_nil,
        or_false] at hmem
      rcases hmem with rfl | rfl | hmem | rfl
      · exact h _ (by simp)
      · exact h _ (by simp)
      · exact h _ (by simp [List.mem_of_mem_dropLast hmem])
      · exact isToken_lastSegment (h _ hlast)

/-- Converting once more exchanges the first two segments back. -/
theorem exchanged_answeredSegments_iff {segments : List String}
    (hlength : 2 <= segments.length) :
    exchanged (answeredSegments segments) = answeredSegments segments <->
      segments[0]? = segments[1]? := by
  match segments with
  | first :: second :: rest =>
      simp only [answeredSegments, exchanged, List.dropLast_concat, List.getLastD_concat,
        lastSegment_lastSegment, List.cons.injEq, and_true, List.getElem?_cons_zero,
        List.getElem?_cons_succ, Option.some_inj]
      exact ⟨fun hboth => hboth.1, fun hsame => ⟨hsame, hsame.symm⟩⟩

/-- Without the mesh daemon the name is converted twice. -/
theorem downName_eq_answerName_iff
    (hname : readString (some msgJson) "name" = some name)
    (hlength : 2 <= (strtok '.' name).length) :
    downName msgJson = answerName msgJson <-> Symmetric name := by
  have htokens := isToken_answeredSegments (fun _ hmem => mem_strtok hmem) hlength
  have hthree := three_le_length_answeredSegments hlength
  have hanswer : answerName msgJson = dotted (answeredSegments (strtok '.' name)) := by
    unfold answerName segments
    rw [hname]
    exact responseName_eq_dotted hlength
  have hsegments : segments (some (answerName msgJson)) =
      answeredSegments (strtok '.' name) := by
    rw [hanswer]
    exact strtok_intercalate htokens
  unfold downName
  rw [hsegments, responseName_eq hthree, hanswer]
  exact (intercalate_inj (isToken_exchanged htokens hthree) htokens).trans
    (exchanged_answeredSegments_iff hlength)

theorem replyName_eq_iff (hname : readString (some msgJson) "name" = some name)
    (hlength : 2 <= (strtok '.' name).length) (handler : MessageHandler) :
    handler.replyName env msgJson = answerName msgJson <->
      NameKept env name (some handler) := by
  have hchecked : checkedName env msgJson = answerName msgJson <->
      (env.deamonIsRunning = false -> Symmetric name) := by
    unfold checkedName
    split
    · rename_i hdown
      rw [downName_eq_answerName_iff hname hlength, forall_prop_of_true hdown]
    · rename_i hrunning
      exact iff_of_true rfl fun hdown => absurd hdown hrunning
  cases handler with
  | updateMesh => exact hchecked
  | deleteMesh => exact hchecked
  | _ => exact iff_of_true rfl trivial

/-!
## Answers under their own name
-/

/-- A program that can reply under one name only. -/
theorem wp_namedAnswer_iff {program : Daemon Unit} {answered : String}
    (hreplies : Replies env (IsReply msgJson answered) program) :
    wp program
        (fun _ w' => NamedAnswerBetween env msgJson w.published w'.published) w <->
      Answers env msgJson program w ∧ answered = answerName msgJson := by
  constructor
  · intro hnamed
    have hanswers : Answers env msgJson program w := by
      refine wp_mono ?_ hnamed
      rintro _ w' ⟨answer, broadcasts, hafter, hanswer, _, hall⟩
      exact ⟨answer, broadcasts, hafter, hanswer, hall⟩
    refine ⟨hanswers, ?_⟩
    rcases wp_iff.mp hnamed with ⟨_, w', hrun, answer, broadcasts, hafter, _, hname, _⟩
    rcases exists_reply_of_answers hanswers hreplies with
      ⟨reply, others, hreplied, hreply⟩
    rw [final_of_run hrun, hafter] at hreplied
    have hfirst : answer :: broadcasts = reply :: others :=
      List.append_cancel_left hreplied
    rw [(List.cons.inj hfirst).1, hreply.name] at hname
    exact Option.some_inj.mp hname
  · rintro ⟨hanswers, rfl⟩
    rcases exists_reply_of_answers hanswers hreplies with
      ⟨reply, others, hreplied, hreply⟩
    rcases wp_iff.mp hanswers with ⟨_, w', hrun, answer, broadcasts, hafter, hanswer, hall⟩
    rw [final_of_run hrun, hafter] at hreplied
    have hfirst : answer :: broadcasts = reply :: others :=
      List.append_cancel_left hreplied
    have hname := hreply.name
    rw [← (List.cons.inj hfirst).1] at hname
    exact wp_iff.mpr ⟨_, w', hrun, answer, broadcasts, hafter, hanswer, hname, hall⟩

/-- The name in the message has been released when it is read again. -/
theorem not_clean_respondRequestInvalid :
    ¬ Clean [] (Memory.respondRequestInvalid msgJson) := by
  unfold Memory.respondRequestInvalid
  rw [clean_append]
  rintro ⟨_, hread, _⟩
  exact hread (by simp [Memory.receive, Memory.cvtReqNameToResName, MemoryUse.releases])

end

/-!
## A request with data, and one without
-/

def lanData : Json :=
  .obj [("ipaddr", .str "192.168.1.1"), ("netmask", .str "255.255.255.0"),
    ("proto", .str "static")]

def lanCreation : Json :=
  .obj [("name", .str "hub.ezm.network.lan.created"), ("data", lanData)]

end Api
end Noc
