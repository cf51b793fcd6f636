import Noc.Api.Reply

/-!
# What a handler publishes

However a handler ends, by returning or at a NULL pointer, what it has published
by then is nothing, or one answer with broadcasts after it.
-/

namespace Noc
namespace Api

open Foundation
open Foundation.Exec
open Foundation.Json
open Mesh
open Network
open Utils

/-!
## Programs that publish nothing
-/

def SamePublished (w w' : World) : Prop :=
  w'.published = w.published

instance : IsPreorder World SamePublished where
  refl _ := rfl
  trans _ _ _ h h' := Eq.trans h' h

def Silent {α : Type} (program : Daemon α) : Prop :=
  Respects SamePublished program

section

variable {α β : Type}

theorem silent_pure (value : α) : Silent (pure value : Daemon α) :=
  respects_pure value

theorem silent_field (pointer : Option α) : Silent (field pointer) :=
  respects_deref _ pointer

theorem silent_bind {program : Daemon α} {next : α -> Daemon β}
    (hprogram : Silent program) (hnext : forall value, Silent (next value)) :
    Silent (program >>= next) :=
  respects_bind hprogram hnext

theorem silent_ite {c : Prop} [Decidable c] {program other : Daemon α}
    (hprogram : Silent program) (hother : Silent other) :
    Silent (if c then program else other) :=
  respects_ite hprogram hother

theorem silent_onFiles (program : Exec (FileState DaemonFile) Fault α) :
    Silent (onFiles program) := by
  intro w
  unfold onFiles
  rw [final_zoom]
  rfl

theorem silent_of_beside (touched : List DaemonFile) {program : Daemon α}
    (h : Respects (Beside touched) program) : Silent program :=
  h.mono fun _ _ hbeside => hbeside.published

theorem silent_readJson (file : DaemonFile) : Silent (readJson file) :=
  silent_onFiles _

theorem silent_writeJson (tree : Json) (file : DaemonFile) :
    Silent (writeJson tree file) :=
  silent_onFiles _

theorem silent_appUci (commands : List UciCommand) : Silent (appUci commands) :=
  respects_modify fun _ => rfl

theorem silent_execlIptables (commands : List IptablesCommand) :
    Silent (execlIptables commands) :=
  respects_modify fun _ => rfl

theorem silent_execlIpRoute (commands : List IpRouteCommand) :
    Silent (execlIpRoute commands) :=
  respects_modify fun _ => rfl

end

/-!
## Programs that reply

`reply` is what is known of the answer.
-/

def AtMostAnswer (env : Surroundings) (reply : Json -> Prop)
    (before after : List Json) : Prop :=
  after = before ∨
    exists answer broadcasts, after = before ++ answer :: broadcasts ∧
      reply answer ∧
      forall message, message ∈ broadcasts -> IsBroadcast env message

def Replies (env : Surroundings) (reply : Json -> Prop)
    (program : Daemon Unit) : Prop :=
  forall w : World,
    AtMostAnswer env reply w.published (final program w).published

section

variable {α : Type} {env : Surroundings} {reply : Json -> Prop}
  {msgJson : Json} {msgType : MsgType} {msgRespond : MsgRespond}

theorem replies_of_silent {program : Daemon Unit} (h : Silent program) :
    Replies env reply program :=
  fun w => Or.inl (h w)

/-- What is known of the value a silent program returns. -/
theorem replies_bind_of_spec {program : Daemon α} {next : α -> Daemon Unit}
    {spec : α -> Prop} (hsilent : Silent program)
    (hspec : forall w, wlp program (fun value _ => spec value) w)
    (hnext : forall value, spec value -> Replies env reply (next value)) :
    Replies env reply (program >>= next) := by
  intro w
  have hsame : (final program w).published = w.published := hsilent w
  rcases final_bind_cases program next w with hend | ⟨value, hrun, hend⟩
  · left
    rw [hend, hsame]
  · rw [hend, ← hsame]
    have hvalue := wlp_iff.mp (hspec w) value _ hrun
    exact hnext value hvalue (final program w)

theorem replies_bind {program : Daemon α} {next : α -> Daemon Unit}
    (hsilent : Silent program)
    (hnext : forall value, Replies env reply (next value)) :
    Replies env reply (program >>= next) :=
  replies_bind_of_spec hsilent (fun _ => wlp_iff.mpr fun _ _ _ => trivial)
    fun value (_ : True) => hnext value

theorem replies_ite {c : Prop} [Decidable c] {program other : Daemon Unit}
    (hprogram : Replies env reply program) (hother : Replies env reply other) :
    Replies env reply (if c then program else other) := by
  split
  · exact hprogram
  · exact hother

theorem Replies.mono {reply' : Json -> Prop} {program : Daemon Unit}
    (himp : forall message, reply message -> reply' message)
    (h : Replies env reply program) : Replies env reply' program := by
  intro w
  rcases h w with hsame | ⟨answer, broadcasts, hafter, hreply, hall⟩
  · exact Or.inl hsame
  · exact Or.inr ⟨answer, broadcasts, hafter, himp answer hreply, hall⟩

theorem replies_publish {rest : Daemon Unit}
    (hreply : forall message,
      cvtMsgRespondToJson msgRespond msgType = some message -> reply message)
    (hrest : Respects (OnlyBroadcasts env) rest) :
    Replies env reply
      (mqttPublishMessage msgRespond msgType >>= fun _ => rest) := by
  intro w
  unfold mqttPublishMessage field
  cases hmessage : cvtMsgRespondToJson msgRespond msgType with
  | none => exact Or.inl rfl
  | some message =>
      right
      rcases hrest (w.publish message) with ⟨broadcasts, hafter, hall⟩
      refine ⟨message, broadcasts, ?_, hreply message hmessage, hall⟩
      show (final rest (w.publish message)).published = _
      rw [hafter, World.published_publish, List.append_assoc]
      rfl

theorem replies_publish_last
    (hreply : forall message,
      cvtMsgRespondToJson msgRespond msgType = some message -> reply message) :
    Replies env reply (mqttPublishMessage msgRespond msgType) := by
  intro w
  unfold mqttPublishMessage field
  cases hmessage : cvtMsgRespondToJson msgRespond msgType with
  | none => exact Or.inl rfl
  | some message =>
      exact Or.inr ⟨message, [], rfl, hreply message hmessage, by simp⟩

/-- A program that answers and can only reply in one way does so. -/
theorem exists_reply_of_atMostAnswer {program : Daemon Unit} {w : World}
    (hanswers : Answers env msgJson program w)
    (hreply : AtMostAnswer env reply w.published (final program w).published) :
    exists answer broadcasts,
      (final program w).published = w.published ++ answer :: broadcasts ∧
        reply answer := by
  rcases wp_iff.mp hanswers with ⟨_, w', hrun, hbetween⟩
  have hend := final_of_run hrun
  rcases hreply with hsame | ⟨answer, broadcasts, hafter, hreply, _⟩
  · rw [← hend, hsame] at hbetween
    exact absurd hbetween (not_answeredBetween_self _ _ _)
  · exact ⟨answer, broadcasts, hafter, hreply⟩

theorem exists_reply_of_answers {program : Daemon Unit} {w : World}
    (hanswers : Answers env msgJson program w)
    (hreplies : Replies env reply program) :
    exists answer broadcasts,
      (final program w).published = w.published ++ answer :: broadcasts ∧
        reply answer :=
  exists_reply_of_atMostAnswer hanswers (hreplies w)

/-!
## The answer

Each record a handler answers with has the fields of the request and the name
made of the request's.
-/

/-- The name for a list of segments, as `cvt_req_name_to_res_name` puts it
together. -/
def responseName : List String -> String
  | first :: second :: rest =>
      second ++ "." ++ first ++
        String.join ((middleSegments (first :: second :: rest)).map fun segment =>
          "." ++ segment) ++ "." ++
        lastSegment ((first :: second :: rest).getLastD "")
  | _ => ""

/-- The segments of a name; a NULL name has none. -/
def segments (name : Option String) : List String :=
  (name.map (strtok '.')).getD []

theorem wlp_cvtReqNameToResName_eq (reqName : Option String) (w : World) :
    wlp (cvtReqNameToResName reqName)
      (fun resName _ => resName = responseName (segments reqName)) w := by
  unfold cvtReqNameToResName segments
  match (reqName.map (strtok '.')).getD [] with
  | [] => exact rfl
  | [_] => trivial
  | _ :: _ :: _ => exact rfl

theorem silent_cvtReqNameToResName (reqName : Option String) :
    Silent (cvtReqNameToResName reqName) := by
  unfold cvtReqNameToResName
  cases (reqName.map (strtok '.')).getD [] with
  | nil => exact silent_pure _
  | cons first rest =>
      exact silent_bind (respects_deref _ _) fun _ => silent_pure _

/-- The name the answer to a message gets. -/
def answerName (msgJson : Json) : String :=
  responseName (segments (readString (some msgJson) "name"))

structure Received (msgJson : Json) (name : String)
    (msgRespond : MsgRespond) : Prop where
  envelope : msgRespond.envelope = envelope msgJson
  createdTime :
    msgRespond.createdTime = (readInt (some msgJson) "created_time").toInt
  name : msgRespond.name = some name

/-- What an answer takes over from its request, and its name. -/
structure IsReply (msgJson : Json) (name : String) (message : Json) : Prop where
  fields : forall key, key ∈ envelopeKeys ->
    getItem (some message) key = ofString (readString (some msgJson) key)
  createdTime : getItem (some message) "created_time" =
    some (num (readInt (some msgJson) "created_time").toInt)
  name : readString (some message) "name" = some name

theorem isReply_of_received {name : String} {message : Json}
    (hreceived : Received msgJson name msgRespond)
    (hmessage : cvtMsgRespondToJson msgRespond msgType = some message) :
    IsReply msgJson name message := by
  have hfields := hreceived.envelope
  simp only [MsgRespond.envelope, envelope, envelopeKeys, List.map_cons,
    List.map_nil, List.cons.injEq, and_true] at hfields
  unfold cvtMsgRespondToJson at hmessage
  rcases Option.map_eq_some_iff.mp hmessage with ⟨data, _, rfl⟩
  constructor
  · simp [envelopeKeys, hfields]
  · simp [hreceived.createdTime]
  · simp [readString, hreceived.name]

theorem silent_receive : Silent (receive msgJson msgType) :=
  silent_bind (silent_cvtReqNameToResName _) fun _ => silent_pure _

theorem wlp_receive (w : World) :
    wlp (receive msgJson msgType) (fun out _ =>
      out.1 = cvtJsonToMsgRequest (some msgJson) msgType ∧
        Received msgJson (answerName msgJson) out.2) w := by
  unfold receive
  rw [wlp_bind]
  refine wlp_mono ?_ (wlp_cvtReqNameToResName_eq _ w)
  rintro _ w' rfl
  exact ⟨rfl, ⟨rfl, rfl, rfl⟩⟩

theorem replies_receive {next : MsgRequest × MsgRespond -> Daemon Unit}
    (hnext : forall msgRespond,
      Received msgJson (answerName msgJson) msgRespond ->
      Replies env reply
        (next (cvtJsonToMsgRequest (some msgJson) msgType, msgRespond))) :
    Replies env reply (receive msgJson msgType >>= next) := by
  apply replies_bind_of_spec silent_receive wlp_receive
  rintro ⟨msgRequest, msgRespond⟩ ⟨rfl, hreceived⟩
  exact hnext msgRespond hreceived

/-!
## Closing statements
-/

theorem Received.withError {name : String}
    (h : Received msgJson name msgRespond) (env : Surroundings)
    (code : ErrorCode) : Received msgJson name (msgRespond.withError env code) :=
  ⟨h.envelope, h.createdTime, h.name⟩

theorem Received.withData {name : String}
    (h : Received msgJson name msgRespond) (data : Data) :
    Received msgJson name (msgRespond.withData data) :=
  ⟨h.envelope, h.createdTime, h.name⟩

theorem onlyBroadcasts_of_silent {program : Daemon α} (h : Silent program) :
    Respects (OnlyBroadcasts env) program :=
  h.mono fun _ _ hsame => onlyBroadcasts_of_eq hsame

theorem silent_msgRespondFree : Silent (msgRespondFree msgRespond msgType) :=
  respects_msgRespondFree

theorem replies_of_received {name : String} {rest : Daemon Unit}
    (h : Received msgJson name msgRespond) (hrest : Silent rest) :
    Replies env (IsReply msgJson name)
      (mqttPublishMessage msgRespond msgType >>= fun _ => rest) :=
  replies_publish (fun _ hmessage => isReply_of_received h hmessage)
    (onlyBroadcasts_of_silent hrest)

theorem replies_respondCode {name : String}
    (h : Received msgJson name msgRespond) (code : ErrorCode)
    (freeType : MsgType) :
    Replies env (IsReply msgJson name)
      (respondCode env code freeType msgRespond) :=
  replies_of_received (h.withError env code) silent_msgRespondFree

theorem replies_putData {name : String} {data : Data}
    {next : MsgRespond -> Daemon Unit} (h : Received msgJson name msgRespond)
    (hnext : forall answer, Received msgJson name answer ->
      Replies env (IsReply msgJson name) (next answer)) :
    Replies env (IsReply msgJson name) (msgRespond.putData data >>= next) := by
  refine replies_bind_of_spec
    (silent_bind (silent_field _) fun _ => silent_pure _) ?_ hnext
  intro w
  unfold MsgRespond.putData field
  rw [wlp_bind, wlp_deref]
  intro _ _
  exact h.withData data

end

end Api
end Noc
