import Noc.Api.Correlation
import Noc.Mesh.Baseline

/-!
# Confirming a pairing and a removal

Both handlers wait until the topology has changed its size: a pairing is
confirmed by a poll with more devices than before, a removal by a poll with
fewer devices than were on.
-/

namespace Noc
namespace Api

open Foundation
open Foundation.Exec
open Foundation.Json
open Mesh
open Network
open Utils

/-!
## The code of an answer
-/

def HasCode (code : ErrorCode) (message : Json) : Prop :=
  errorCode message = some code.code

/-- The first message published in between carries the code. -/
def AnsweredWith (code : ErrorCode) (before after : List Json) : Prop :=
  exists answer later, after = before ++ answer :: later ∧ HasCode code answer

section

variable {env : Surroundings} {msgJson : Json} {w : World}
variable {code other : ErrorCode} {before after : List Json}

theorem hasCode_inj {message : Json} (h : HasCode code message)
    (hother : HasCode other message) : code.code = other.code :=
  Option.some_inj.mp (h.symm.trans hother)

theorem answeredWith_inj (h : AnsweredWith code before after)
    (hother : AnsweredWith other before after) : code.code = other.code := by
  rcases h with ⟨answer, later, hafter, hcode⟩
  rcases hother with ⟨answer', later', hafter', hcode'⟩
  rw [hafter, List.append_cancel_left_eq, List.cons.injEq] at hafter'
  rw [← hafter'.1] at hcode'
  exact hasCode_inj hcode hcode'

theorem answeredWith_of_atMostAnswer {program : Daemon Unit}
    (hanswers : Answers env msgJson program w)
    (h : AtMostAnswer env (HasCode code) w.published (final program w).published) :
    AnsweredWith code w.published (final program w).published := by
  rcases exists_reply_of_atMostAnswer hanswers h with
    ⟨answer, later, hafter, hcode⟩
  exact ⟨answer, later, hafter, hcode⟩

/-- An answer whose code is never this one. -/
theorem not_answeredWith_of_replies {reply : Json -> Prop} {program : Daemon Unit}
    (h : Replies env reply program)
    (hother : forall message, reply message -> ¬ HasCode code message) :
    ¬ AnsweredWith code w.published (final program w).published := by
  intro hanswered
  rcases hanswered with ⟨answer, later, hafter, hcode⟩
  cases h w with
  | inl hsame =>
      rw [hafter] at hsame
      simp at hsame
  | inr hsome =>
      rcases hsome with ⟨first, broadcasts, hafter', hreply, _⟩
      rw [hafter, List.append_cancel_left_eq, List.cons.injEq] at hafter'
      rw [hafter'.1] at hcode
      exact hother first hreply hcode

/-!
## Handlers that answer with a code
-/

theorem replies_hasCode {msgRespond : MsgRespond} {msgType : MsgType}
    {rest : Daemon Unit} (hrest : Respects (OnlyBroadcasts env) rest) :
    Replies env (HasCode code)
      (mqttPublishMessage (msgRespond.withError env code) msgType >>= fun _ => rest) :=
  replies_publish (fun _ hmessage => errorCode_of_printed hmessage) hrest

theorem replies_respondCode_hasCode {msgRespond : MsgRespond} {freeType : MsgType} :
    Replies env (HasCode code) (respondCode env code freeType msgRespond) :=
  replies_hasCode (onlyBroadcasts_of_silent silent_msgRespondFree)

theorem replies_field {α : Type} {reply : Json -> Prop} {pointer : Option α}
    {next : α -> Daemon Unit}
    (hnext : forall value, pointer = some value -> Replies env reply (next value)) :
    Replies env reply (field pointer >>= next) := by
  have hspec : forall w : World,
      wlp (field pointer) (fun value _ => pointer = some value) w := by
    intro w
    unfold field
    rw [wlp_deref]
    exact fun value hvalue => hvalue
  exact replies_bind_of_spec (silent_field pointer) hspec hnext

/-!
## Pairing devices
-/

/-- A requested device is there that was not there before. -/
def Joins (requested baseline polled : List DeviceInfo) : Prop :=
  exists device, device ∈ requested ∧ device.mac ≠ none ∧
    device.mac ∈ polled.map DeviceInfo.mac ∧
    device.mac ∉ baseline.map DeviceInfo.mac

/-- The poll that sets the flag. -/
def flagging (env : Surroundings) : Option (List DeviceInfo) :=
  env.polled.find? fun polled => env.topology.length < polled.length

/-- A success tells of a requested device, and one that joins while at most as
many others are there as before does not end in a timeout. -/
structure ConfirmsPairing (env : Surroundings) (requested : List DeviceInfo)
    (before after : List Json) : Prop where
  joined : AnsweredWith .success before after ->
    exists polled, flagging env = some polled ∧
      Joins requested env.topology polled
  inTime : (exists polled, polled ∈ env.polled ∧
      polled.length <= env.topology.length + 1 ∧
      Joins requested env.topology polled) ->
    ¬ AnsweredWith .timeout before after

/-- All requested devices are standalone and take the request. -/
def reachesAll (env : Surroundings) (requested : List DeviceInfo) : Bool :=
  requested.all fun device =>
    device.role = some "standalone" && env.reaches device.ip device.ezmId

/-- The handler gets as far as to wait for the devices. -/
def awaits (env : Surroundings) (requested : List DeviceInfo) : Bool :=
  env.deamonIsRunning && reachesAll env requested

/-- The first larger topology has a requested device, or none is larger and no
topology has one. -/
def JoinsFirst (env : Surroundings) (requested : List DeviceInfo) : Prop :=
  match flagging env with
  | some polled => Joins requested env.topology polled
  | none => forall polled, polled ∈ env.polled ->
      ¬ Joins requested env.topology polled

section

variable {env : Surroundings} {msgJson : Json} {w : World}
variable {requested : List DeviceInfo}

/-- How the loop over the requested devices ends. -/
def PairingEnds (env : Surroundings) (requested : List DeviceInfo) :
    Option ErrorCode -> Prop
  | none => reachesAll env requested = true
  | some code => reachesAll env requested = false ∧
      (code = .internalServer ∨ code = .unknown)

theorem wlp_pairDevices (msgRequest : MsgRequest) (devices : List DeviceInfo)
    (w : World) :
    wlp (pairDevices env msgRequest devices)
      (fun stopped _ => PairingEnds env devices stopped) w := by
  induction devices generalizing w with
  | nil => exact rfl
  | cons device rest ih =>
      unfold pairDevices field
      rw [wlp_bind, wlp_deref]
      intro role hrole
      rw [wlp_ite]
      by_cases hstandalone : role = "standalone"
      · rw [if_pos hstandalone, wlp_bind]
        apply wlp_mono _ (wlp_of_wp (wp_mqttPublishMessageToExternal _ _ _))
        intro ret w' hret
        rw [wlp_ite, hret]
        cases hreaches : env.reaches device.ip device.ezmId with
        | false =>
            rw [if_pos (by decide), wlp_pure]
            exact ⟨by simp [reachesAll, hreaches], Or.inl rfl⟩
        | true =>
            rw [if_neg (by decide)]
            apply wlp_mono _ (ih w')
            intro stopped _ hends
            have hsame : reachesAll env (device :: rest) = reachesAll env rest := by
              simp [reachesAll, hrole, hstandalone, hreaches]
            cases stopped with
            | none => exact hsame.trans hends
            | some code => exact ⟨hsame.trans hends.1, hends.2⟩
      · rw [if_neg hstandalone, wlp_pure]
        have hother : device.role ≠ some "standalone" := by
          rw [hrole]
          exact fun heq => hstandalone (Option.some_inj.mp heq)
        exact ⟨by simp [reachesAll, hother], Or.inr rfl⟩

theorem rolesNamed_of_reachesAll (h : reachesAll env requested = true) :
    rolesNamed env requested = true := by
  induction requested with
  | nil => rfl
  | cons device rest ih =>
      unfold reachesAll at h
      rw [List.all_cons, Bool.and_eq_true, Bool.and_eq_true,
        decide_eq_true_eq] at h
      have hrest := ih h.2
      simp [rolesNamed, h.1.1, h.1.2, hrest]

/-- The code once the handler has waited. -/
def pairingCode (env : Surroundings) : ErrorCode :=
  if env.polled.any fun polled => env.topology.length < polled.length then
    .success
  else .timeout

/-- What the handler can answer, by how the loop ends. -/
structure ReplyTo (env : Surroundings) (requested : List DeviceInfo)
    (message : Json) : Prop where
  waited : awaits env requested = true -> HasCode (pairingCode env) message
  ended : awaits env requested = false ->
    ¬ HasCode .success message ∧ ¬ HasCode .timeout message

theorem replyTo_of_awaits {message : Json} (h : awaits env requested = true)
    (hcode : HasCode (pairingCode env) message) : ReplyTo env requested message where
  waited := fun _ => hcode
  ended := fun hnot => by
    rw [h] at hnot
    cases hnot

theorem replyTo_of_ended {code : ErrorCode} {message : Json}
    (h : awaits env requested = false) (hcode : HasCode code message)
    (hsuccess : code.code ≠ ErrorCode.success.code)
    (htimeout : code.code ≠ ErrorCode.timeout.code) :
    ReplyTo env requested message where
  waited := fun hawaits => by
    rw [h] at hawaits
    cases hawaits
  ended := fun _ => ⟨fun h => hsuccess (hasCode_inj hcode h),
    fun h => htimeout (hasCode_inj hcode h)⟩

theorem replies_requestPairMeshDevices_replyTo
    (hrequested : requestedDevices msgJson = some requested) :
    Replies env (ReplyTo env requested) (requestPairMeshDevices env msgJson) := by
  rcases Option.bind_eq_some_iff.mp hrequested with ⟨data, hdata, hdevices⟩
  apply replies_receive
  intro msgRespond _
  dsimp only
  cases hrunning : env.deamonIsRunning with
  | false =>
      rw [if_pos rfl]
      have hnot : awaits env requested = false := by
        simp [awaits, hrunning]
      apply Replies.mono _ replies_respondCode_hasCode
      intro message hcode
      exact replyTo_of_ended hnot hcode (by decide) (by decide)
  | true =>
      rw [if_neg Bool.false_ne_true.symm]
      apply replies_field
      intro found hfound
      apply replies_field
      intro devices hfoundDevices
      have hsame : devices = requested := by
        change payload msgJson .meshDeviceList = some found at hfound
        rw [hdata] at hfound
        cases hfound
        rw [hdevices] at hfoundDevices
        exact (Option.some_inj.mp hfoundDevices).symm
      rw [hsame]
      apply replies_bind_of_spec (silent_of_beside [] (respects_pairDevices _ _))
        (wlp_pairDevices _ _)
      intro stopped hends
      cases stopped with
      | some code =>
          have hnot : awaits env requested = false := by
            simp [awaits, hends.1]
          apply Replies.mono _ replies_respondCode_hasCode
          intro message hcode
          cases hends.2 with
          | inl hserver =>
              rw [hserver] at hcode
              exact replyTo_of_ended hnot hcode (by decide) (by decide)
          | inr hunknown =>
              rw [hunknown] at hcode
              exact replyTo_of_ended hnot hcode (by decide) (by decide)
      | none =>
          have hawaits : awaits env requested = true := by
            unfold awaits
            rw [hrunning, Bool.true_and]
            exact hends
          apply replies_bind (silent_editDevices _)
          intro _
          apply Replies.mono fun _ => replyTo_of_awaits hawaits
          unfold pairingCode
          cases env.polled.any fun polled =>
              decide (env.topology.length < polled.length) with
          | true =>
              exact replies_hasCode (onlyBroadcasts_of_silent silent_msgRespondFree)
          | false => exact replies_respondCode_hasCode

theorem answeredWith_requestPairMeshDevices (h : Healthy w.files)
    (hrouted : Routed msgJson) (hrequested : requestedDevices msgJson = some requested)
    (hawaits : awaits env requested = true) :
    AnsweredWith (pairingCode env) w.published
      (final (requestPairMeshDevices env msgJson) w).published := by
  have hreaches : reachesAll env requested = true := by
    unfold awaits at hawaits
    rw [Bool.and_eq_true] at hawaits
    exact hawaits.2
  have hanswers : Answers env msgJson (requestPairMeshDevices env msgJson) w :=
    (answers_requestPairMeshDevices h hrouted).mpr
    fun _ => ⟨requested, hrequested, rolesNamed_of_reachesAll hreaches⟩
  have hreplies : Replies env (HasCode (pairingCode env))
      (requestPairMeshDevices env msgJson) :=
    Replies.mono (fun _ hreply => hreply.waited hawaits)
      (replies_requestPairMeshDevices_replyTo hrequested)
  exact answeredWith_of_atMostAnswer hanswers (hreplies w)

theorem pairingCode_of_flagging {polled : List DeviceInfo}
    (h : flagging env = some polled) : pairingCode env = .success := by
  have hany : (env.polled.any fun polled =>
      env.topology.length < polled.length) = true := by
    rw [List.any_eq_true]
    refine ⟨polled, List.mem_of_find?_eq_some h, ?_⟩
    unfold flagging at h
    exact List.find?_some (p := fun polled : List DeviceInfo =>
      env.topology.length < polled.length) h
  unfold pairingCode
  rw [if_pos hany]

theorem pairingCode_of_not_flagging (h : flagging env = none) :
    pairingCode env = .timeout := by
  have hany : ¬ (env.polled.any fun polled =>
      env.topology.length < polled.length) = true := by
    rw [List.any_eq_true]
    intro hsome
    rcases hsome with ⟨polled, hpolled, hlarger⟩
    exact List.find?_eq_none.mp h polled hpolled hlarger
  unfold pairingCode
  rw [if_neg hany]

theorem length_le_of_not_flagging (h : flagging env = none)
    {polled : List DeviceInfo} (hpolled : polled ∈ env.polled) :
    polled.length <= env.topology.length := by
  have hnot := List.find?_eq_none.mp h polled hpolled
  simpa using hnot

/-- An answer that does not come from the wait confirms nothing. -/
theorem confirmsPairing_of_ended (hrequested : requestedDevices msgJson = some requested)
    (hended : awaits env requested = false) :
    ConfirmsPairing env requested w.published
      (final (requestPairMeshDevices env msgJson) w).published := by
  have hreplies : Replies env (ReplyTo env requested)
      (requestPairMeshDevices env msgJson) :=
    replies_requestPairMeshDevices_replyTo hrequested
  constructor
  · intro hsuccess
    exact absurd hsuccess (not_answeredWith_of_replies hreplies
      fun _ hreply => (hreply.ended hended).1)
  · intro _
    exact not_answeredWith_of_replies hreplies
      fun _ hreply => (hreply.ended hended).2

theorem joinsFirst_of_confirmsPairing {before after : List Json}
    (hcode : AnsweredWith (pairingCode env) before after)
    (h : ConfirmsPairing env requested before after) : JoinsFirst env requested := by
  unfold JoinsFirst
  cases hflag : flagging env with
  | some polled =>
      rw [pairingCode_of_flagging hflag] at hcode
      rcases h.joined hcode with ⟨first, hfirst, hjoins⟩
      rw [hflag] at hfirst
      rw [Option.some_inj.mp hfirst]
      exact hjoins
  | none =>
      rw [pairingCode_of_not_flagging hflag] at hcode
      intro polled hpolled hjoins
      have hlength := length_le_of_not_flagging hflag hpolled
      exact h.inTime ⟨polled, hpolled, by omega, hjoins⟩ hcode

theorem confirmsPairing_of_joinsFirst {before after : List Json}
    (hcode : AnsweredWith (pairingCode env) before after)
    (h : JoinsFirst env requested) : ConfirmsPairing env requested before after := by
  unfold JoinsFirst at h
  cases hflag : flagging env with
  | some polled =>
      rw [hflag] at h
      rw [pairingCode_of_flagging hflag] at hcode
      constructor
      · intro _
        exact ⟨polled, hflag, h⟩
      · intro _ htimeout
        exact absurd (answeredWith_inj hcode htimeout) (by decide)
  | none =>
      rw [hflag] at h
      rw [pairingCode_of_not_flagging hflag] at hcode
      constructor
      · intro hsuccess
        exact absurd (answeredWith_inj hcode hsuccess) (by decide)
      · intro hsome
        rcases hsome with ⟨polled, hpolled, _, hjoins⟩
        exact absurd hjoins (h polled hpolled)

/-- Sizes confirm a pairing exactly when the first larger topology has a
requested device, or none is larger and no requested device shows up. -/
theorem confirmsPairing_iff (h : Healthy w.files) (hrouted : Routed msgJson)
    (hrequested : requestedDevices msgJson = some requested) :
    ConfirmsPairing env requested w.published
        (final (requestPairMeshDevices env msgJson) w).published <->
      (awaits env requested = true -> JoinsFirst env requested) := by
  cases hawaits : awaits env requested with
  | false =>
      exact iff_of_true (confirmsPairing_of_ended hrequested hawaits)
        fun hfalse => absurd hfalse Bool.false_ne_true
  | true =>
      have hcode := answeredWith_requestPairMeshDevices h hrouted hrequested hawaits
      constructor
      · intro hconfirms _
        exact joinsFirst_of_confirmsPairing hcode hconfirms
      · intro hjoins
        exact confirmsPairing_of_joinsFirst hcode (hjoins rfl)

end

/-!
The agent in the hallway is to be paired.
-/

def newHallway : DeviceInfo :=
  { hallway with role := some "standalone" }

def hallwayPairing : Json :=
  .obj [("name", .str "hub.ezm.mesh.devices.pair.requested"),
    ("data", cvtDeviceListToJson [newHallway])]

theorem routed_hallwayPairing : Routed hallwayPairing :=
  ⟨"hub.ezm.mesh.devices.pair.requested", rfl, by decide +kernel⟩

theorem requestedDevices_hallwayPairing :
    requestedDevices hallwayPairing = some [newHallway] := by
  show some (cvtJsonToDeviceList (some (cvtDeviceListToJson [newHallway]))) = _
  rw [cvtJsonToDeviceList_cvtDeviceListToJson]

/-- The hallway joins the gateway. -/
def hallwayJoins : Surroundings :=
  { Surroundings.alone with
    topology := [gateway]
    polled := [[gateway], [gateway, hallway]] }

theorem confirmsPairing_iff_hallway :
    ConfirmsPairing hallwayJoins [newHallway] World.installed.published
      (final (requestPairMeshDevices hallwayJoins hallwayPairing)
        World.installed).published := by
  apply (confirmsPairing_iff healthy_installed routed_hallwayPairing
    requestedDevices_hallwayPairing).mpr
  intro _
  show Joins [newHallway] [gateway] [gateway, hallway]
  exact ⟨newHallway, List.mem_cons_self, by decide, by decide, by decide⟩

/-- The kitchen leaves while the hallway joins. -/
def hallwayReplaces : Surroundings :=
  { Surroundings.alone with
    topology := [gateway, kitchen]
    polled := [[gateway, hallway]] }

/-- Then the pairing times out. -/
theorem not_confirmsPairing_of_replaced :
    ¬ forall env msgJson requested w, Healthy w.files -> Routed msgJson ->
      requestedDevices msgJson = some requested ->
        ConfirmsPairing env requested w.published
          (final (requestPairMeshDevices env msgJson) w).published := by
  intro hclaim
  have hconfirms := hclaim hallwayReplaces hallwayPairing [newHallway] World.installed
    healthy_installed routed_hallwayPairing requestedDevices_hallwayPairing
  have hcode : AnsweredWith (pairingCode hallwayReplaces) _ _ :=
    answeredWith_requestPairMeshDevices healthy_installed routed_hallwayPairing
      requestedDevices_hallwayPairing (by decide)
  have hjoins : JoinsFirst hallwayReplaces [newHallway] :=
    joinsFirst_of_confirmsPairing hcode hconfirms
  exact hjoins [gateway, hallway] List.mem_cons_self
    ⟨newHallway, List.mem_cons_self, by decide, by decide, by decide⟩

/-!
## Removing devices
-/

/-- The code of a deletion: `before` is how many devices were on, `reconciled`
what the file held after the poll. -/
def removalCode (env : Surroundings) (deleted reconciled : List DeviceInfo) :
    ErrorCode :=
  if deleted.any fun device => reconciled.any (matchesMac device) then
    if env.polled.any fun polled =>
        polled.length < (reconciled.filter isOn).length then .success
    else .timeout
  else .deviceNotFound

theorem replies_awaitRemoval {msgRequest : MsgRequest} {msgRespond : MsgRespond}
    {deleted : List DeviceInfo} {smaller : Bool} :
    Replies env (HasCode (if smaller then .success else .timeout))
      (each (fun device => mqttPublishMessageToMqttBridge device.ezmId
          { msgRequest with name := some inactivateRequestName } .empty)
          deleted >>= fun _ =>
        if smaller then
          let msgRespond := msgRespond.withError env .success
          mqttPublishMessage msgRespond .meshDeviceList >>= fun _ =>
            let broadcast :=
              { msgRespond with name := some env.broadcastRequestName }
            mqttPublishMessage broadcast .meshDeviceList >>= fun _ =>
              msgRespondFree broadcast .meshDeviceList
        else respondCode env .timeout .meshDeviceList msgRespond) := by
  apply replies_bind (silent_of_beside [] (respects_requestInactivation _ _))
  intro _
  cases smaller with
  | true =>
      apply replies_hasCode
      exact respects_bind (respects_broadcast rfl) fun _ =>
        onlyBroadcasts_of_silent silent_msgRespondFree
  | false => exact replies_respondCode_hasCode

theorem final_field {α : Type} {pointer : Option α} {value : α}
    (h : pointer = some value) (next : α -> Daemon Unit) :
    final (field pointer >>= next) w = final (next value) w := by
  rw [h]
  rfl

theorem answeredWith_deleteMeshDevices {deleted : List DeviceInfo}
    (h : Healthy w.files) (hrouted : Routed msgJson)
    (hrunning : env.deamonIsRunning = true)
    (hdeleted : requestedDevices msgJson = some deleted) :
    AnsweredWith
      (removalCode env deleted (pollDeviceList env.topology (storedDevices w)))
      w.published (final (deleteMeshDevices env msgJson) w).published := by
  have hanswers : Answers env msgJson (deleteMeshDevices env msgJson) w :=
    (answers_deleteMeshDevices h hrouted).mpr
    (fun _ => by
      rw [hdeleted]
      exact Option.some_ne_none _)
  apply answeredWith_of_atMostAnswer hanswers
  rcases Option.bind_eq_some_iff.mp hdeleted with ⟨data, hdata, hdevices⟩
  have hpayload : (cvtJsonToMsgRequest (some msgJson) .meshDeviceList).data =
      some data := hdata
  rcases run_receive (w := w) hrouted .meshDeviceList with
    ⟨msgRespond, hopened, hrun⟩
  let reconciled := pollDeviceList env.topology (storedDevices w)
  have hpolled := healthy_storeDevices h reconciled
  have hbefore := run_requestDeviceListFromFileByStatus hpolled deviceOn
  have hdelete := run_deleteDeviceListFromFile hpolled deleted
  rw [storedDevices_storeDevices] at hbefore hdelete
  unfold deleteMeshDevices
  rw [final_bind_of_run hrun]
  show AtMostAnswer env _ _
    (final (if env.deamonIsRunning = false then _ else _) w).published
  rw [hrunning, if_neg (by simp),
    final_bind_of_run (run_updateDeviceListToFileFromEmtDevice h _),
    final_bind_of_run hbefore, final_field hpayload, final_field hdevices,
    final_bind_of_run hdelete]
  unfold removalCode
  cases hfound : deleted.any fun device => reconciled.any (matchesMac device) with
  | false =>
      rw [if_pos rfl, if_neg Bool.false_ne_true]
      exact replies_respondCode_hasCode _
  | true =>
      rw [if_pos rfl, if_neg Bool.false_ne_true.symm]
      exact replies_awaitRemoval _

end

/-- The domain: a device file with distinct macs, a topology with its controller
first, and a request that names a stored device. -/
structure Removal (env : Surroundings) (msgJson : Json) (w : World)
    (macLength : Nat) (controller : DeviceInfo)
    (agents deleted : List DeviceInfo) : Prop where
  healthy : Healthy w.files
  routed : Routed msgJson
  running : env.deamonIsRunning = true
  topology : env.topology = controller :: agents
  roles : ControllerFirst macLength controller agents
  stored : DistinctMacs macLength (storedDevices w)
  requested : requestedDevices msgJson = some deleted
  named : exists device, device ∈ deleted ∧
    device.mac ∈ (storedDevices w).map DeviceInfo.mac

/-- How many devices are on once the topology is stored. -/
def nbOnBefore (topology : List DeviceInfo) : Daemon Nat := do
  updateDeviceListToFileFromEmtDevice topology
  let before <- requestDeviceListFromFileByStatus deviceOn
  return before.length

/-- The baseline is the size of the topology, and whatever is polled later, the
answer tells whether the topology became smaller. -/
structure ConfirmsRemoval (env : Surroundings) (msgJson : Json) (w : World) :
    Prop where
  baseline : wp (nbOnBefore env.topology)
    (fun count _ => count = env.topology.length) w
  answered : forall polled : List (List DeviceInfo),
    AnsweredWith
      (if polled.any fun devices => devices.length < env.topology.length then
        .success else .timeout) w.published
      (final (deleteMeshDevices { env with polled := polled } msgJson) w).published

/-- The deletion finds a device once the topology is stored, and the stored
controllers balance the agents that stay deleted. -/
structure Balanced (controller : DeviceInfo) (agents deleted stored : List DeviceInfo) :
    Prop where
  found : exists device, device ∈ deleted ∧
    remains controller agents stored device = true
  counted : nbController stored + nbDisguised controller stored =
    1 + nbDeleted agents stored

section

variable {env : Surroundings} {msgJson : Json} {w : World}
variable {macLength : Nat} {controller : DeviceInfo}
variable {agents deleted : List DeviceInfo}

theorem wp_nbOnBefore_iff (h : Healthy w.files) (topology : List DeviceInfo) :
    wp (nbOnBefore topology) (fun count _ => count = topology.length) w <->
      ((pollDeviceList topology (storedDevices w)).filter isOn).length =
        topology.length := by
  have hpolled := healthy_storeDevices h (pollDeviceList topology (storedDevices w))
  have hbefore := run_requestDeviceListFromFileByStatus hpolled deviceOn
  rw [storedDevices_storeDevices] at hbefore
  unfold nbOnBefore
  rw [wp_bind, wp_of_run (run_updateDeviceListToFileFromEmtDevice h _), wp_bind,
    wp_of_run hbefore]
  exact Iff.rfl

theorem Removal.found_iff (h : Removal env msgJson w macLength controller agents deleted) :
    (deleted.any fun device =>
        (pollDeviceList env.topology (storedDevices w)).any (matchesMac device)) = true <->
      exists device, device ∈ deleted ∧
        remains controller agents (storedDevices w) device = true := by
  rw [h.topology, List.any_eq_true]
  apply exists_congr
  intro device
  rw [any_matchesMac_pollDeviceList h.roles h.stored.fixed]

theorem Removal.answered
    (h : Removal env msgJson w macLength controller agents deleted)
    (polled : List (List DeviceInfo)) :
    AnsweredWith
      (removalCode { env with polled := polled } deleted
        (pollDeviceList env.topology (storedDevices w))) w.published
      (final (deleteMeshDevices { env with polled := polled } msgJson) w).published :=
  answeredWith_deleteMeshDevices h.healthy h.routed h.running h.requested

theorem balanced_of_confirmsRemoval
    (h : Removal env msgJson w macLength controller agents deleted)
    (hconfirms : ConfirmsRemoval env msgJson w) :
    Balanced controller agents deleted (storedDevices w) := by
  constructor
  · rw [← h.found_iff]
    by_contra hlost
    -- With no poll at all the code is a timeout only for a device it finds.
    have hcode := answeredWith_inj (hconfirms.answered []) (h.answered [])
    unfold removalCode at hcode
    rw [if_neg hlost] at hcode
    change ErrorCode.timeout.code = ErrorCode.deviceNotFound.code at hcode
    revert hcode
    decide
  · have hbaseline := (wp_nbOnBefore_iff h.healthy _).mp hconfirms.baseline
    rw [h.topology] at hbaseline
    exact (nbOn_eq_iff h.roles h.stored).mp hbaseline

theorem confirmsRemoval_of_balanced
    (h : Removal env msgJson w macLength controller agents deleted)
    (hbalanced : Balanced controller agents deleted (storedDevices w)) :
    ConfirmsRemoval env msgJson w := by
  have hbaseline : ((pollDeviceList env.topology (storedDevices w)).filter
      isOn).length = env.topology.length := by
    rw [h.topology]
    exact (nbOn_eq_iff h.roles h.stored).mpr hbalanced.counted
  constructor
  · exact (wp_nbOnBefore_iff h.healthy _).mpr hbaseline
  · intro polled
    have hanswered := h.answered polled
    unfold removalCode at hanswered
    rw [if_pos (h.found_iff.mpr hbalanced.found), hbaseline] at hanswered
    exact hanswered

/-- A removal is confirmed as the topology tells exactly when the stored list is
balanced. -/
theorem confirmsRemoval_iff
    (h : Removal env msgJson w macLength controller agents deleted) :
    ConfirmsRemoval env msgJson w <->
      Balanced controller agents deleted (storedDevices w) :=
  ⟨balanced_of_confirmsRemoval h, confirmsRemoval_of_balanced h⟩

end

/-!
A gateway and the agent in its hallway, which is to be deleted.
-/

def hallwayDeletion : Json :=
  .obj [("name", .str "hub.ezm.mesh.devices.deleted"),
    ("data", cvtDeviceListToJson [hallway])]

/-- Both devices answer. -/
def bothAnswer : Surroundings :=
  { Surroundings.alone with topology := [gateway, hallway] }

theorem controllerFirst_gateway : ControllerFirst 17 gateway [hallway] where
  macs := by
    constructor
    · decide
    · intro device hdevice
      cases List.mem_cons.mp hdevice with
      | inl heq => exact ⟨_, by rw [heq]; rfl, by decide⟩
      | inr hlast =>
          rw [List.mem_singleton.mp hlast]
          exact ⟨_, rfl, by decide⟩
  controller := by decide
  agents := by
    intro agent hagent
    rw [List.mem_singleton.mp hagent]
    decide

theorem removal_hallway (status : Int32) :
    Removal bothAnswer hallwayDeletion
      (storeDevices [gateway, { hallway with status := status }] World.installed)
      17 gateway [hallway] [hallway] where
  healthy := healthy_storeDevices healthy_installed _
  routed := ⟨"hub.ezm.mesh.devices.deleted", rfl, by decide +kernel⟩
  running := rfl
  topology := rfl
  roles := controllerFirst_gateway
  stored := by
    rw [storedDevices_storeDevices]
    exact ⟨controllerFirst_gateway.macs.macs, by
      intro device hdevice
      cases List.mem_cons.mp hdevice with
      | inl heq => exact ⟨_, by rw [heq]; rfl, by decide⟩
      | inr hlast =>
          rw [List.mem_singleton.mp hlast]
          exact ⟨_, rfl, by decide⟩⟩
  requested := by
    show some (cvtJsonToDeviceList (some (cvtDeviceListToJson [hallway]))) = _
    rw [cvtJsonToDeviceList_cvtDeviceListToJson]
  named := by
    rw [storedDevices_storeDevices]
    exact ⟨hallway, List.mem_cons_self,
      List.mem_cons_of_mem _ List.mem_cons_self⟩

/-- The hallway is on, so its removal is confirmed. -/
theorem confirmsRemoval_iff_hallway :
    ConfirmsRemoval bothAnswer hallwayDeletion
      (storeDevices [gateway, { hallway with status := deviceOn }]
        World.installed) := by
  rw [confirmsRemoval_iff (removal_hallway deviceOn), storedDevices_storeDevices]
  exact ⟨⟨hallway, List.mem_cons_self, by decide⟩, by decide⟩

/-- A deletion that timed out has marked the hallway, so one that is tried again
starts from a baseline of one device and is never confirmed. -/
theorem not_confirmsRemoval_of_deleted :
    ¬ forall env msgJson w macLength controller agents deleted,
      Removal env msgJson w macLength controller agents deleted ->
        ConfirmsRemoval env msgJson w := by
  intro hclaim
  have hremoval := removal_hallway deviceDeleted
  have hbalanced := balanced_of_confirmsRemoval hremoval
    (hclaim _ _ _ _ _ _ _ hremoval)
  have hcounted := hbalanced.counted
  rw [storedDevices_storeDevices] at hcounted
  revert hcounted
  decide

end Api
end Noc
