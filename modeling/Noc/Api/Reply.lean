import Noc.Api.Message

/-!
# Replying to a request

The opening and the closing statements the handlers share, the publishing of
`api/mqtt/mqtt_handler.c`, and what it means that a request is answered.
-/

namespace Noc

open Foundation

/-- The topic that `mqtt_connect` subscribes to and requests are sent to, under
the pattern of the defaults. -/
def subTopic (ezmId : Option String) : String :=
  "hub/event/" ++ formatted ezmId

namespace Api

open Foundation.Exec
open Foundation.Json
open Mesh
open Network
open Utils

/-- Every handler but one opens so: both records, the response under its own
name. -/
def receive (msgJson : Json) (msgType : MsgType) :
    Daemon (MsgRequest × MsgRespond) := do
  let msgRequest := cvtJsonToMsgRequest (some msgJson) msgType
  let msgRespond := cvtMsgRequestToMsgRespond msgRequest
  let name <- cvtReqNameToResName msgRespond.name
  return (msgRequest, { msgRespond with name := some name })

def mqttPublishMessage (msgRespond : MsgRespond) (msgType : MsgType) :
    Daemon Unit := do
  let message <- field (cvtMsgRespondToJson msgRespond msgType)
  modify fun w => w.publish message

def mqttPublishMessageToMqttBridge (ezmId : Option String)
    (msgRequest : MsgRequest) (msgType : MsgType) : Daemon Unit := do
  let message <- field (cvtMsgRequestToJson msgRequest msgType)
  modify fun w => w.request ezmId message

/-- The result is -1 when the device hands out no credentials. -/
def mqttPublishMessageToExternal (env : Surroundings)
    (host ezmId : Option String) (msgRequest : MsgRequest)
    (msgType : MsgType) : Daemon Int32 := do
  let message <- field (cvtMsgRequestToJson msgRequest msgType)
  if env.reaches host ezmId then
    modify fun w => w.request ezmId message
    return 0
  else return -1

/-- Answer with a code and no payload. -/
def respondCode (env : Surroundings) (code : ErrorCode) (freeType : MsgType)
    (msgRespond : MsgRespond) : Daemon Unit := do
  mqttPublishMessage (msgRespond.withError env code) .empty
  msgRespondFree (msgRespond.withError env code) freeType

/-!
## Answers

An answer carries the envelope of its request and an error record.  What else
is published while a request is handled goes out under the broadcast name.
-/

def envelopeKeys : List String :=
  ["scope", "source", "home_id", "user_id", "id", "auth_token", "parent_id",
    "client_id"]

def envelope (message : Json) : List (Option String) :=
  envelopeKeys.map (readString (some message))

structure IsAnswer (msgJson message : Json) : Prop where
  envelope : envelope message = envelope msgJson
  error : readObject (readObject (some message) "data") "error" ≠ none

def IsBroadcast (env : Surroundings) (message : Json) : Prop :=
  readString (some message) "name" = some env.broadcastRequestName

/-- Between the two lists of published messages is exactly one answer. -/
def AnsweredBetween (env : Surroundings) (msgJson : Json)
    (before after : List Json) : Prop :=
  exists answer broadcasts, after = before ++ answer :: broadcasts ∧
    IsAnswer msgJson answer ∧
    forall message, message ∈ broadcasts -> IsBroadcast env message

/-- The program runs to its end and answers the request. -/
def Answers (env : Surroundings) (msgJson : Json) (program : Daemon Unit)
    (w : World) : Prop :=
  wp program
    (fun _ w' => AnsweredBetween env msgJson w.published w'.published) w

/-- The code an answer carries. -/
def errorCode (message : Json) : Option Int32 :=
  numberValue (getItem (readObject (readObject (some message) "data") "error")
    "code")

theorem not_answeredBetween_self (env : Surroundings) (msgJson : Json)
    (messages : List Json) :
    ¬ AnsweredBetween env msgJson messages messages := by
  rintro ⟨answer, broadcasts, hafter, _⟩
  have hlength := congrArg List.length hafter
  simp at hlength

/-!
## Names

A name of at least two segments is converted, and so is the result.
-/

/-- The request has a name that its response's name can be made of. -/
def Routed (msgJson : Json) : Prop :=
  exists name, readString (some msgJson) "name" = some name ∧
    2 <= (strtok '.' name).length

section

variable {w : World} {name : String}

theorem run_cvtReqNameToResName (h : 2 <= (strtok '.' name).length) :
    exists respondName, 2 <= (strtok '.' respondName).length ∧
      cvtReqNameToResName (some name) w = .ok (respondName, w) := by
  unfold cvtReqNameToResName
  rw [Option.map_some, Option.getD_some]
  match hsplit : strtok '.' name with
  | [] => simp [hsplit] at h
  | [_] => simp [hsplit] at h
  | first :: second :: rest =>
      refine ⟨_, ?_, rfl⟩
      have hpieces : forall piece, piece ∈ [first, second] ->
          piece.toList ≠ [] ∧ '.' ∉ piece.toList := by
        intro piece hmem
        have hsegment : piece ∈ strtok '.' name := by
          rw [hsplit]
          exact List.mem_append_left rest hmem
        exact mem_strtok hsegment
      rcases hpieces first (by simp) with ⟨hfirst, hfirstDot⟩
      rcases hpieces second (by simp) with ⟨hsecond, hsecondDot⟩
      rcases List.exists_mem_of_ne_nil _ hfirst with ⟨a, ha⟩
      rcases List.exists_mem_of_ne_nil _ hsecond with ⟨b, hb⟩
      let later := String.join ((middleSegments (strtok '.' name)).map
        fun segment => "." ++ segment) ++ "." ++
          lastSegment ((strtok '.' name).getLastD "")
      have htext : (second ++ "." ++ first ++ later).toList =
          [] ++ (second.toList ++ '.' :: first.toList) ++ later.toList := by
        simp [String.toList_append]
      have htwo := two_le_length_strtok htext hb
        (fun hdot => hsecondDot (hdot ▸ hb)) ha
        (fun hdot => hfirstDot (hdot ▸ ha))
      simpa [later, hsplit, String.append_assoc] using htwo

theorem wp_cvtReqNameToResName (post : World -> Prop) :
    wp (cvtReqNameToResName (some name)) (fun _ w' => post w') w <->
      (strtok '.' name).length ≠ 1 ∧ post w := by
  unfold cvtReqNameToResName
  rw [Option.map_some, Option.getD_some]
  match strtok '.' name with
  | [] => simp
  | [_] => simp
  | first :: second :: rest => simp

end

/-!
## After the opening
-/

def MsgRespond.envelope (msgRespond : MsgRespond) : List (Option String) :=
  [msgRespond.scope, msgRespond.source, msgRespond.homeId, msgRespond.userId,
    msgRespond.id, msgRespond.authToken, msgRespond.parentId,
    msgRespond.clientId]

/-- The payload a message is decoded to. -/
def payload (msgJson : Json) (msgType : MsgType) : Option Data :=
  (getItem (some msgJson) "data").map fun data => cvtJsonToData data msgType

/-- The request has a `data` member. -/
def HasData (msgJson : Json) : Prop :=
  getItem (some msgJson) "data" ≠ none

/-- The response a handler has after its opening. -/
structure Opened (msgJson : Json) (msgType : MsgType)
    (msgRespond : MsgRespond) : Prop where
  envelope : msgRespond.envelope = Api.envelope msgJson
  data : msgRespond.respondData.data = payload msgJson msgType
  name : exists name, msgRespond.name = some name ∧
    2 <= (strtok '.' name).length

section

variable {msgJson : Json} {msgType : MsgType} {msgRespond : MsgRespond}
  {env : Surroundings} {w : World}

theorem Opened.hasData_iff (hopened : Opened msgJson .empty msgRespond) :
    msgRespond.respondData.data ≠ none <-> HasData msgJson := by
  rw [hopened.data]
  simp [payload, HasData]

theorem run_receive (hrouted : Routed msgJson) (msgType : MsgType)
    (w : World) :
    exists msgRespond, Opened msgJson msgType msgRespond ∧
      receive msgJson msgType w =
        .ok ((cvtJsonToMsgRequest (some msgJson) msgType, msgRespond), w) := by
  rcases hrouted with ⟨name, hname, hsegments⟩
  rcases run_cvtReqNameToResName (w := w) hsegments with
    ⟨respondName, htwo, hrun⟩
  refine ⟨{ cvtMsgRequestToMsgRespond
      (cvtJsonToMsgRequest (some msgJson) msgType) with
        name := some respondName }, ⟨rfl, rfl, ⟨respondName, rfl, htwo⟩⟩, ?_⟩
  apply run_of_wp
  show wp (cvtReqNameToResName (readString (some msgJson) "name") >>= _) _ w
  rw [hname, wp_bind, wp_of_run hrun]
  exact ⟨rfl, rfl⟩

theorem wp_putData (data : Data) (post : MsgRespond -> World -> Prop) :
    wp (msgRespond.putData data) post w <->
      msgRespond.respondData.data ≠ none ∧
        post (msgRespond.withData data) w := by
  unfold MsgRespond.putData field
  rw [wp_bind, wp_deref]
  cases msgRespond.respondData.data <;> simp

/-!
A payload that can be printed and one that can be released.
-/

def Encodable (data : Option Data) (msgType : MsgType) : Prop :=
  cvtDataToJson data msgType ≠ none

def Freeable (data : Option Data) (msgType : MsgType) : Prop :=
  forall member, data = some member ->
    match msgType with
    | .meshSetting => forall setting, member.toMeshSetting = some setting ->
        setting.HoldsIface
    | .networkDnsDhcp => forall dnsDhcp, member.toDnsDhcp = some dnsDhcp ->
        Releasable dnsDhcp
    | .networkStaticRoute => member.toRoutesList ≠ none
    | _ => True

theorem wp_msgRespondFree (post : Unit -> World -> Prop) :
    wp (msgRespondFree msgRespond msgType) post w <->
      Freeable msgRespond.respondData.data msgType ∧ post () w := by
  unfold msgRespondFree dataFree Freeable
  cases msgRespond.respondData.data with
  | none => simp
  | some member =>
      simp only [Option.some_inj, forall_eq']
      cases msgType with
      | meshSetting => exact wp_meshSettingFree _ post
      | networkDnsDhcp =>
          show wp (dnsDhcpFree member.toDnsDhcp) post w <-> _
          cases member.toDnsDhcp with
          | none => simp [dnsDhcpFree]
          | some dnsDhcp =>
              simp only [Option.some_inj, forall_eq']
              exact wp_dnsDhcpFree dnsDhcp post
      | networkStaticRoute =>
          show wp (routeListFree member.toRoutesList) post w <-> _
          unfold routeListFree field
          rw [wp_bind, wp_deref]
          cases member.toRoutesList <;> simp
      | _ => simp

end

/-!
## Publishing an answer

A program that publishes the answer and then nothing but broadcasts answers the
request.
-/

def OnlyBroadcasts (env : Surroundings) (w w' : World) : Prop :=
  exists broadcasts, w'.published = w.published ++ broadcasts ∧
    forall message, message ∈ broadcasts -> IsBroadcast env message

instance (env : Surroundings) : IsPreorder World (OnlyBroadcasts env) where
  refl w := ⟨[], by simp, by simp⟩
  trans := by
    rintro w w' w'' ⟨front, hfront, hall⟩ ⟨back, hback, hall'⟩
    refine ⟨front ++ back, ?_, ?_⟩
    · rw [hback, hfront, List.append_assoc]
    · intro message hmem
      rcases List.mem_append.mp hmem with hmem | hmem
      · exact hall message hmem
      · exact hall' message hmem

section

variable {msgJson : Json} {msgType : MsgType} {msgRespond : MsgRespond}
  {env : Surroundings} {w : World}

theorem onlyBroadcasts_of_eq {w' : World} (h : w'.published = w.published) :
    OnlyBroadcasts env w w' :=
  ⟨[], by simp [h], by simp⟩

theorem respects_onlyBroadcasts {α : Type} {touched : List DaemonFile}
    {program : Daemon α} (h : Respects (Beside touched) program) :
    Respects (OnlyBroadcasts env) program :=
  h.mono fun _ _ hbeside => onlyBroadcasts_of_eq hbeside.published

theorem respects_msgRespondFree {rel : World -> World -> Prop}
    [IsPreorder World rel] :
    Respects rel (msgRespondFree msgRespond msgType) := by
  unfold msgRespondFree dataFree
  cases msgRespond.respondData.data with
  | none => exact respects_pure ()
  | some member =>
      cases msgType with
      | meshSetting => exact respects_meshSettingFree _
      | networkDnsDhcp => exact respects_dnsDhcpFree _
      | networkStaticRoute =>
          exact respects_bind (respects_deref _ _) fun _ => respects_pure ()
      | _ => exact respects_pure ()

theorem respects_mqttPublishMessage {rel : World -> World -> Prop}
    [IsPreorder World rel]
    (h : forall message, cvtMsgRespondToJson msgRespond msgType = some message ->
      forall w : World, rel w (w.publish message)) :
    Respects rel (mqttPublishMessage msgRespond msgType) := by
  unfold mqttPublishMessage field
  cases hmessage : cvtMsgRespondToJson msgRespond msgType with
  | none => exact respects_fail (α := Unit) Fault.nullField
  | some message => exact respects_modify (h message hmessage)

/-- What publishes nothing answers nothing. -/
theorem not_answers_of_respects {touched : List DaemonFile}
    {program : Daemon Unit} (h : Respects (Beside touched) program) :
    ¬ Answers env msgJson program w := by
  intro hanswers
  rcases wp_iff.mp (wp_and_wlp hanswers (h.wlp w)) with ⟨_, w', _, hbetween, hbeside⟩
  rw [hbeside.published] at hbetween
  exact not_answeredBetween_self env msgJson w.published hbetween

/-- A printed response reads back as an answer. -/
theorem isAnswer_of_printed {message : Json}
    (henvelope : msgRespond.envelope = envelope msgJson)
    (herror : msgRespond.respondData.error ≠ none)
    (hmessage : cvtMsgRespondToJson msgRespond msgType = some message) :
    IsAnswer msgJson message := by
  unfold cvtMsgRespondToJson cvtRespondDataToJson at hmessage
  rcases Option.map_eq_some_iff.mp hmessage with ⟨data, hdata, rfl⟩
  rcases Option.map_eq_some_iff.mp hdata with ⟨member, _, rfl⟩
  rcases Option.ne_none_iff_exists'.mp herror with ⟨error, herr⟩
  constructor
  · rw [← henvelope]
    simp [envelope, envelopeKeys, readString, MsgRespond.envelope]
  · simp [readObject, herr, cvtErrorToJson]

theorem errorCode_of_printed {code : ErrorCode} {message : Json}
    (hmessage : cvtMsgRespondToJson (msgRespond.withError env code) msgType =
      some message) : errorCode message = some code.code := by
  unfold cvtMsgRespondToJson cvtRespondDataToJson at hmessage
  rcases Option.map_eq_some_iff.mp hmessage with ⟨data, hdata, rfl⟩
  rcases Option.map_eq_some_iff.mp hdata with ⟨member, _, rfl⟩
  simp [errorCode, readObject, cvtErrorToJson, MsgRespond.withError,
    errorTableLookup, ofInt, numberValue, valueInt_toInt]

theorem exists_printed_iff :
    (exists message, cvtMsgRespondToJson msgRespond msgType = some message) <->
      Encodable msgRespond.respondData.data msgType := by
  rw [← Option.ne_none_iff_exists']
  unfold Encodable cvtMsgRespondToJson cvtRespondDataToJson
  simp

theorem wp_publish_then {rest : Daemon Unit} {before : List Json}
    (hbefore : w.published = before)
    (henvelope : msgRespond.envelope = envelope msgJson)
    (herror : msgRespond.respondData.error ≠ none)
    (hrest : Respects (OnlyBroadcasts env) rest) :
    wp (mqttPublishMessage msgRespond msgType >>= fun _ => rest)
        (fun _ w' => AnsweredBetween env msgJson before w'.published) w <->
      exists message, cvtMsgRespondToJson msgRespond msgType = some message ∧
        wp rest (fun _ _ => True) (w.publish message) := by
  unfold mqttPublishMessage field
  rw [wp_bind, wp_bind, wp_deref]
  apply exists_congr
  intro message
  apply and_congr_right
  intro hmessage
  rw [wp_modify]
  constructor
  · exact wp_mono fun _ _ _ => trivial
  · intro hreturns
    refine wp_mono ?_ (wp_and_wlp hreturns (hrest.wlp (w.publish message)))
    rintro _ w' ⟨_, broadcasts, hpublished, hall⟩
    refine ⟨message, broadcasts, ?_,
      isAnswer_of_printed henvelope herror hmessage, hall⟩
    rw [hpublished, World.published_publish, hbefore]
    simp

/-- Most handlers end by publishing and releasing their response. -/
theorem wp_publish_free {before : List Json} {freeType : MsgType}
    (hbefore : w.published = before)
    (henvelope : msgRespond.envelope = envelope msgJson)
    (herror : msgRespond.respondData.error ≠ none) :
    wp (mqttPublishMessage msgRespond msgType >>= fun _ =>
          msgRespondFree msgRespond freeType)
        (fun _ w' => AnsweredBetween env msgJson before w'.published) w <->
      Encodable msgRespond.respondData.data msgType ∧
        Freeable msgRespond.respondData.data freeType := by
  have hfree : Respects (Beside []) (msgRespondFree msgRespond freeType) :=
    respects_msgRespondFree
  rw [wp_publish_then hbefore henvelope herror (respects_onlyBroadcasts hfree),
    ← exists_printed_iff]
  simp only [wp_msgRespondFree, and_true]
  exact exists_and_right

theorem encodable_empty (data : Option Data) : Encodable data .empty := by
  cases data <;> exact Option.some_ne_none _

theorem wp_respondCode {before : List Json} {code : ErrorCode}
    {freeType : MsgType} (hbefore : w.published = before)
    (henvelope : msgRespond.envelope = envelope msgJson) :
    wp (respondCode env code freeType msgRespond)
        (fun _ w' => AnsweredBetween env msgJson before w'.published) w <->
      Freeable msgRespond.respondData.data freeType := by
  have henvelope' : (msgRespond.withError env code).envelope =
      envelope msgJson := henvelope
  refine (wp_publish_free hbefore henvelope' (Option.some_ne_none _)).trans ?_
  exact and_iff_right (encodable_empty _)

end

end Api
end Noc
