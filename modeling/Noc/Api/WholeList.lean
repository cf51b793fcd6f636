import Mathlib.Data.List.TakeWhile
import Noc.Api.Confirmation
import Noc.Mesh.TakeOver

/-!
# Pairing a whole list

A pairing request is to be taken as a whole: it either has every device of its
list activated and stored, or it is refused before any device hears of it.
`request_pair_mesh_devices` looks at a device, activates it and goes on to the
next, and it stores the list when the loop is over.
-/

namespace Noc
namespace Api

open Foundation
open Foundation.Exec
open Foundation.Json
open Mesh
open Network
open Utils

/-!
## The whole list
-/

def AnsweredWithError (before after : List Json) : Prop :=
  exists code, code ≠ ErrorCode.success ∧ AnsweredWith code before after

/-- The devices are sent the request to join, in order, and no others are. -/
def Activates (devices : List DeviceInfo) (w w' : World) : Prop :=
  exists message, readString (some message) "name" = some activateRequestName ∧
    w'.requested = w.requested ++
      devices.map fun device => (device.ezmId, message)

structure Refuses (w w' : World) : Prop where
  answered : AnsweredWithError w.published w'.published
  unasked : w'.requested = w.requested
  unchanged : w'.files.content .meshDevices = w.files.content .meshDevices

/-- The device is stored with the status of a pairing. -/
def Recorded (w : World) (device : DeviceInfo) : Prop :=
  paired device ∈ storedDevices w

/-- A list with a device that is not standalone is refused, an accepted list is
stored, and no device is activated that is not stored. -/
structure TakesWhole (requested : List DeviceInfo) (w w' : World) : Prop where
  refused : (exists device, device ∈ requested ∧
    device.role ≠ some "standalone") -> Refuses w w'
  accepted : AnsweredWith .success w.published w'.published ∨
      AnsweredWith .timeout w.published w'.published ->
    forall device, device ∈ requested -> Recorded w' device
  recorded : exists activated, activated <+: requested ∧
    Activates activated w w' ∧
    forall device, device ∈ activated -> Recorded w' device

def PairsWhole (env : Surroundings) (msgJson : Json)
    (requested : List DeviceInfo) (w : World) : Prop :=
  wp (requestPairMeshDevices env msgJson)
    (fun _ w' => TakesWhole requested w w') w

/-- The loop activates the device and goes on. -/
def joins (env : Surroundings) (device : DeviceInfo) : Bool :=
  device.role = some "standalone" && env.reaches device.ip device.ezmId

/-- The devices before the one that ends the loop. -/
def activated (env : Surroundings) (requested : List DeviceInfo) :
    List DeviceInfo :=
  requested.takeWhile (joins env)

/-- The first device ends the loop, and it has a role. -/
def RefusedAtOnce (env : Surroundings) : List DeviceInfo -> Prop
  | [] => False
  | device :: _ => device.role ≠ none ∧ joins env device = false

/-- A list whose devices all join loses none of them in the file.  Any other
ends at its first device, or is all standalone and what joins is stored
beforehand. -/
structure Safe (env : Surroundings) (requested : List DeviceInfo) (w : World) :
    Prop where
  joined : reachesAll env requested = true ->
    EachRemains (storedDevices w) (requested.map paired)
  ended : reachesAll env requested = false ->
    RefusedAtOnce env requested ∨
      (forall device, device ∈ requested -> device.role = some "standalone") ∧
        forall device, device ∈ activated env requested -> Recorded w device

section

variable {env : Surroundings} {msgJson message : Json} {w : World}
variable {device : DeviceInfo} {devices rest requested : List DeviceInfo}
variable {msgRequest : MsgRequest} {msgRespond : MsgRespond} {code : ErrorCode}

/-!
### The loop
-/

def requestAll (message : Json) (devices : List DeviceInfo) (w : World) :
    World :=
  { w with
    requested := w.requested ++
      devices.map fun device => (device.ezmId, message) }

theorem requestAll_cons :
    requestAll message (device :: rest) w =
      requestAll message rest (w.request device.ezmId message) := by
  unfold requestAll World.request
  rw [List.map_cons, List.append_assoc, List.singleton_append]

theorem rolesNamed_cons_of_joins (hjoins : joins env device = true) :
    rolesNamed env (device :: rest) = rolesNamed env rest := by
  unfold joins at hjoins
  rw [Bool.and_eq_true, decide_eq_true_eq] at hjoins
  simp [rolesNamed, hjoins.1, hjoins.2]

theorem rolesNamed_cons_of_ends (hjoins : joins env device = false) :
    rolesNamed env (device :: rest) = true <-> device.role ≠ none := by
  unfold rolesNamed
  cases hrole : device.role with
  | none => exact iff_of_false Bool.false_ne_true fun h => h rfl
  | some role =>
      apply iff_of_true _ (Option.some_ne_none role)
      have hends : (decide (role = "standalone") &&
          env.reaches device.ip device.ezmId) = false := by
        simpa [joins, hrole] using hjoins
      simp only [hends, Bool.false_eq_true, if_false]

/-- The code a device ends the loop with. -/
def refusal (device : DeviceInfo) : ErrorCode :=
  if device.role = some "standalone" then .internalServer else .unknown

/-- The code of the device that ends the loop. -/
def endingCode (env : Surroundings) (devices : List DeviceInfo) :
    Option ErrorCode :=
  (devices.dropWhile (joins env)).head?.map refusal

theorem run_mqttPublishMessageToExternal (env : Surroundings)
    (hmessage : cvtMsgRequestToJson msgRequest .empty = some message)
    (host ezmId : Option String) (w : World) :
    mqttPublishMessageToExternal env host ezmId msgRequest .empty w =
      if env.reaches host ezmId then .ok (0, w.request ezmId message)
      else .ok (-1, w) := by
  unfold mqttPublishMessageToExternal field
  rw [hmessage]
  cases env.reaches host ezmId <;> rfl

section

variable (hmessage : cvtMsgRequestToJson
  { msgRequest with name := some activateRequestName } .empty = some message)

include hmessage

theorem run_pairDevices_of_joins (hjoins : joins env device = true) :
    pairDevices env msgRequest (device :: rest) w =
      pairDevices env msgRequest rest (w.request device.ezmId message) := by
  unfold joins at hjoins
  rw [Bool.and_eq_true, decide_eq_true_eq] at hjoins
  have hrun := run_mqttPublishMessageToExternal env hmessage
    device.ip device.ezmId w
  rw [if_pos hjoins.2] at hrun
  show (field device.role >>= _) w = _
  rw [hjoins.1]
  show (if "standalone" = "standalone" then _ else _ : Daemon _) w = _
  rw [if_pos rfl, bind_of_run hrun]
  rfl

/-- A device with a role that does not join ends the loop. -/
theorem run_pairDevices_of_ends (hjoins : joins env device = false)
    (hrole : device.role ≠ none) :
    pairDevices env msgRequest (device :: rest) w =
      .ok (some (refusal device), w) := by
  rcases Option.ne_none_iff_exists'.mp hrole with ⟨role, hsome⟩
  have hrefusal : refusal device =
      if role = "standalone" then .internalServer else .unknown := by
    simp only [refusal, hsome, Option.some_inj]
  rw [hrefusal]
  show (field device.role >>= _) w = _
  rw [hsome]
  show (if role = "standalone" then _ else _ : Daemon _) w = _
  by_cases hstandalone : role = "standalone"
  · have hreaches : env.reaches device.ip device.ezmId = false := by
      simpa [joins, hsome, hstandalone] using hjoins
    have hrun := run_mqttPublishMessageToExternal env hmessage
      device.ip device.ezmId w
    rw [hreaches, if_neg Bool.false_ne_true] at hrun
    rw [if_pos hstandalone, if_pos hstandalone, bind_of_run hrun]
    rfl
  · rw [if_neg hstandalone, if_neg hstandalone]
    rfl

theorem run_pairDevices (hroles : rolesNamed env devices = true) (w : World) :
    pairDevices env msgRequest devices w =
      .ok (endingCode env devices,
        requestAll message (activated env devices) w) := by
  induction devices generalizing w with
  | nil =>
      unfold requestAll
      rw [activated, List.takeWhile_nil, List.map_nil, List.append_nil]
      rfl
  | cons device rest ih =>
      unfold endingCode activated
      cases hjoins : joins env device with
      | true =>
          have hrest : rolesNamed env rest = true := by
            rw [← rolesNamed_cons_of_joins hjoins]
            exact hroles
          rw [run_pairDevices_of_joins hmessage hjoins, ih hrest,
            List.dropWhile_cons_of_pos hjoins, List.takeWhile_cons_of_pos hjoins,
            requestAll_cons]
          rfl
      | false =>
          have hends : ¬ joins env device = true := by
            rw [hjoins]
            exact Bool.false_ne_true
          rw [run_pairDevices_of_ends hmessage hjoins
              ((rolesNamed_cons_of_ends hjoins).mp hroles),
            List.dropWhile_cons_of_neg hends, List.takeWhile_cons_of_neg hends]
          unfold requestAll
          rw [List.map_nil, List.append_nil]
          rfl

end

/-!
### The handler
-/

/-- What the handler publishes last has the code and ends its run. -/
theorem run_publish_free {msgType freeType : MsgType}
    (hencodable : Encodable msgRespond.respondData.data msgType)
    (hfree : Freeable msgRespond.respondData.data freeType) (w : World) :
    exists message, HasCode code message ∧
      (mqttPublishMessage (msgRespond.withError env code) msgType >>= fun _ =>
        msgRespondFree (msgRespond.withError env code) freeType) w =
          .ok ((), w.publish message) := by
  have hprinted : exists message,
      cvtMsgRespondToJson (msgRespond.withError env code) msgType = some message :=
    exists_printed_iff.mpr hencodable
  rcases hprinted with ⟨message, hmessage⟩
  refine ⟨message, errorCode_of_printed hmessage, ?_⟩
  apply run_of_wp
  unfold mqttPublishMessage field
  rw [wp_bind, wp_bind, wp_deref]
  refine ⟨message, hmessage, ?_⟩
  rw [wp_modify, wp_msgRespondFree]
  exact ⟨hfree, rfl, rfl⟩

theorem run_respondCode (env : Surroundings) (code : ErrorCode)
    {freeType : MsgType}
    (hfree : Freeable msgRespond.respondData.data freeType) (w : World) :
    exists message, HasCode code message ∧
      respondCode env code freeType msgRespond w = .ok ((), w.publish message) :=
  run_publish_free (encodable_empty _) hfree w

theorem run_pair_of_down (hrouted : Routed msgJson)
    (hdown : env.deamonIsRunning = false) :
    exists message, HasCode .ezmeshDeamonConnectFail message ∧
      requestPairMeshDevices env msgJson w = .ok ((), w.publish message) := by
  rcases run_receive (w := w) hrouted .meshDeviceList with ⟨msgRespond, _, hrun⟩
  rcases run_respondCode env .ezmeshDeamonConnectFail
    (freeable_deviceList msgRespond.respondData.data) w with
    ⟨message, hcode, hrespond⟩
  refine ⟨message, hcode, ?_⟩
  unfold requestPairMeshDevices
  rw [bind_of_run hrun]
  show (if env.deamonIsRunning = false then _ else _ : Daemon Unit) w = _
  rw [hdown, if_pos rfl, hrespond]

/-- What a running daemon does with the list, once the opening is over. -/
def pairRequested (env : Surroundings) (msgJson : Json)
    (requested : List DeviceInfo) (msgRespond : MsgRespond) : Daemon Unit := do
  match <- pairDevices env (cvtJsonToMsgRequest (some msgJson) .meshDeviceList)
      requested with
  | some code => respondCode env code .meshDeviceList msgRespond
  | none =>
      let msgRespond :=
        msgRespond.withData (.deviceList (requested.map paired))
      setDeviceListToFile (requested.map paired)
      if env.polled.any fun polled =>
          env.topology.length < polled.length then
        let msgRespond := msgRespond.withError env .success
        mqttPublishMessage msgRespond .meshDeviceList
        msgRespondFree msgRespond .meshDeviceList
      else respondCode env .timeout .meshDeviceList msgRespond

theorem exists_pairRequested (hrouted : Routed msgJson)
    (hrequested : requestedDevices msgJson = some requested)
    (hrunning : env.deamonIsRunning = true) (w : World) :
    exists msgRespond, requestPairMeshDevices env msgJson w =
      pairRequested env msgJson requested msgRespond w := by
  rcases Option.bind_eq_some_iff.mp hrequested with ⟨data, hdata, hdevices⟩
  rcases run_receive (w := w) hrouted .meshDeviceList with ⟨msgRespond, _, hrun⟩
  refine ⟨msgRespond, ?_⟩
  unfold requestPairMeshDevices
  rw [bind_of_run hrun]
  show (if env.deamonIsRunning = false then _ else _ : Daemon Unit) w = _
  rw [hrunning, if_neg Bool.false_ne_true.symm]
  show (field (payload msgJson .meshDeviceList) >>= _) w = _
  rw [hdata]
  show (field data.toDeviceList >>= _) w = _
  rw [hdevices]
  rfl

/-- The message that asks for an activation. -/
theorem exists_activation (msgJson : Json) :
    exists message, readString (some message) "name" = some activateRequestName ∧
      cvtMsgRequestToJson
        { cvtJsonToMsgRequest (some msgJson) .meshDeviceList with
          name := some activateRequestName } .empty = some message := by
  rcases exists_printedRequest
    { cvtJsonToMsgRequest (some msgJson) .meshDeviceList with
      name := some activateRequestName } with ⟨message, hmessage⟩
  refine ⟨message, ?_, hmessage⟩
  unfold cvtMsgRequestToJson at hmessage
  rcases Option.map_eq_some_iff.mp hmessage with ⟨data, _, rfl⟩
  simp [readString]

theorem not_wp_pairRequested (hroles : rolesNamed env requested = false)
    (msgRespond : MsgRespond) (post : Unit -> World -> Prop) :
    ¬ wp (pairRequested env msgJson requested msgRespond) post w := by
  intro h
  unfold pairRequested at h
  rw [wp_bind] at h
  have hreturns := (returns_pairDevices _ requested w).mp
    (wp_mono (fun _ _ _ => trivial) h)
  rw [hroles] at hreturns
  cases hreturns

theorem run_pairRequested_of_ended (msgJson : Json)
    (hroles : rolesNamed env requested = true)
    (hends : endingCode env requested = some code) (msgRespond : MsgRespond)
    (w : World) :
    exists sent answer, readString (some sent) "name" = some activateRequestName ∧
      HasCode code answer ∧
      pairRequested env msgJson requested msgRespond w =
        .ok ((), (requestAll sent (activated env requested) w).publish answer) := by
  rcases exists_activation msgJson with ⟨sent, hname, hsent⟩
  have hpair := run_pairDevices hsent hroles w
  rw [hends] at hpair
  rcases run_respondCode env code
    (freeable_deviceList msgRespond.respondData.data)
    (requestAll sent (activated env requested) w) with ⟨answer, hcode, hrespond⟩
  refine ⟨sent, answer, hname, hcode, ?_⟩
  unfold pairRequested
  rw [bind_of_run hpair]
  exact hrespond

theorem run_pairRequested_of_reached (msgJson : Json) (h : Healthy w.files)
    (hroles : rolesNamed env requested = true)
    (hends : endingCode env requested = none) (msgRespond : MsgRespond) :
    exists sent answer, readString (some sent) "name" = some activateRequestName ∧
      HasCode (pairingCode env) answer ∧
      pairRequested env msgJson requested msgRespond w =
        .ok ((), (storeDevices
          (setDeviceList (requested.map paired) (storedDevices w))
          (requestAll sent (activated env requested) w)).publish answer) := by
  rcases exists_activation msgJson with ⟨sent, hname, hsent⟩
  have hpair := run_pairDevices hsent hroles w
  rw [hends] at hpair
  let asked := requestAll sent (activated env requested) w
  let answering := msgRespond.withData (.deviceList (requested.map paired))
  have hset := run_setDeviceListToFile (w := asked) h (requested.map paired)
  let stored := storeDevices
    (setDeviceList (requested.map paired) (storedDevices w)) asked
  have hencodable : Encodable answering.respondData.data .meshDeviceList :=
    encodable_deviceList _
  have hanswer : exists answer, HasCode (pairingCode env) answer ∧
      (if env.polled.any fun polled => env.topology.length < polled.length then
        mqttPublishMessage (answering.withError env .success) .meshDeviceList
          >>= fun _ => msgRespondFree (answering.withError env .success)
            .meshDeviceList
      else respondCode env .timeout .meshDeviceList answering) stored =
        .ok ((), stored.publish answer) := by
    unfold pairingCode
    by_cases hany : (env.polled.any fun polled =>
        env.topology.length < polled.length) = true
    · rw [if_pos hany, if_pos hany]
      exact run_publish_free hencodable (freeable_deviceList _) stored
    · rw [if_neg hany, if_neg hany]
      exact run_respondCode env .timeout (freeable_deviceList _) stored
  rcases hanswer with ⟨answer, hcode, hrespond⟩
  refine ⟨sent, answer, hname, hcode, ?_⟩
  unfold pairRequested
  rw [bind_of_run hpair]
  show (setDeviceListToFile (requested.map paired) >>= _) asked = _
  rw [bind_of_run hset]
  exact hrespond

/-!
### The whole list
-/

theorem joins_eq (env : Surroundings) (device : DeviceInfo) :
    joins env device = true <->
      device.role = some "standalone" ∧ env.reaches device.ip device.ezmId = true := by
  unfold joins
  rw [Bool.and_eq_true, decide_eq_true_eq]

theorem reachesAll_eq (env : Surroundings) (requested : List DeviceInfo) :
    reachesAll env requested = requested.all (joins env) := rfl

theorem endingCode_eq_none_iff :
    endingCode env requested = none <-> reachesAll env requested = true := by
  unfold endingCode
  rw [Option.map_eq_none_iff, List.head?_eq_none_iff, List.dropWhile_eq_nil_iff,
    reachesAll_eq, List.all_eq_true]

theorem activated_of_reachesAll (h : reachesAll env requested = true) :
    activated env requested = requested := by
  rw [reachesAll_eq, List.all_eq_true] at h
  exact List.takeWhile_eq_self_iff.mpr h

/-- Neither of the codes a list that is stored is answered with. -/
def IsRefusal (code : ErrorCode) : Prop :=
  code.code ≠ ErrorCode.success.code ∧ code.code ≠ ErrorCode.timeout.code

theorem isRefusal_of_ending (h : endingCode env requested = some code) :
    IsRefusal code := by
  unfold endingCode at h
  rcases Option.map_eq_some_iff.mp h with ⟨device, _, rfl⟩
  unfold refusal IsRefusal
  split <;> decide

/-- A loop that ends has activated nobody when its first device ends it. -/
theorem activated_eq_nil_iff (hroles : rolesNamed env requested = true)
    (hends : reachesAll env requested = false) :
    activated env requested = [] <-> RefusedAtOnce env requested := by
  cases requested with
  | nil => cases hends
  | cons device rest =>
      unfold activated RefusedAtOnce
      cases hjoins : joins env device with
      | true =>
          rw [List.takeWhile_cons_of_pos hjoins]
          exact iff_of_false (List.cons_ne_nil _ _) fun h => by
            have hnot : joins env device = false := h.2
            rw [hjoins] at hnot
            cases hnot
      | false =>
          rw [List.takeWhile_cons_of_neg (by rw [hjoins]; exact Bool.false_ne_true)]
          exact iff_of_true rfl ⟨(rolesNamed_cons_of_ends hjoins).mp hroles, hjoins⟩

theorem rolesNamed_of_standalone
    (h : forall device, device ∈ requested -> device.role = some "standalone") :
    rolesNamed env requested = true := by
  induction requested with
  | nil => rfl
  | cons device rest ih =>
      cases hjoins : joins env device with
      | true =>
          rw [rolesNamed_cons_of_joins hjoins]
          exact ih fun other hother => h other (List.mem_cons_of_mem device hother)
      | false =>
          rw [rolesNamed_cons_of_ends hjoins, h device List.mem_cons_self]
          exact Option.some_ne_none _

theorem rolesNamed_of_refusedAtOnce (h : RefusedAtOnce env requested) :
    rolesNamed env requested = true := by
  cases requested with
  | nil => exact h.elim
  | cons device rest => exact (rolesNamed_cons_of_ends h.2).mpr h.1

theorem answeredWith_publish_iff {answer : Json} :
    AnsweredWith code w.published (w.publish answer).published <->
      HasCode code answer := by
  rw [World.published_publish]
  constructor
  · intro h
    rcases h with ⟨first, later, hafter, hcode⟩
    rw [List.append_cancel_left_eq, List.cons.injEq] at hafter
    rw [hafter.1]
    exact hcode
  · intro hcode
    exact ⟨answer, [], rfl, hcode⟩

/-- Two openings of a list that are told by as many requests are the same. -/
theorem isPrefix_unique {front other : List DeviceInfo} (h : front <+: devices)
    (hother : other <+: devices) (hlength : front.length = other.length) :
    front = other :=
  (List.prefix_of_prefix_length_le h hother hlength.le).eq_of_length hlength

theorem activates_iff {sent answer : Json} {front other : List DeviceInfo}
    {current : World} (hname : readString (some sent) "name" = some activateRequestName)
    (hfront : front <+: requested) (hother : other <+: requested)
    (hcurrent : current.requested = (requestAll sent front w).requested) :
    Activates other w (current.publish answer) <-> front = other := by
  constructor
  · intro h
    rcases h with ⟨message, _, hrequested⟩
    have hsame : w.requested ++ front.map (fun device => (device.ezmId, sent)) =
        w.requested ++ other.map fun device => (device.ezmId, message) :=
      hcurrent.symm.trans hrequested
    have hlength := congrArg List.length (List.append_cancel_left hsame)
    rw [List.length_map, List.length_map] at hlength
    exact isPrefix_unique hfront hother hlength
  · intro heq
    rw [← heq]
    exact ⟨sent, hname, hcurrent⟩

theorem takesWhole_ended_iff {sent answer : Json}
    (hname : readString (some sent) "name" = some activateRequestName)
    (hcode : HasCode code answer) (hrefusal : IsRefusal code)
    (hfront : devices <+: requested) :
    TakesWhole requested w ((requestAll sent devices w).publish answer) <->
      ((exists device, device ∈ requested ∧ device.role ≠ some "standalone") ->
        devices = []) ∧
      forall device, device ∈ devices -> Recorded w device := by
  have hanswered : forall other, AnsweredWith other w.published
      ((requestAll sent devices w).publish answer).published <->
        HasCode other answer := fun _ => answeredWith_publish_iff
  constructor
  · intro h
    constructor
    · intro hbad
      have hunasked : w.requested ++
          devices.map (fun device => (device.ezmId, sent)) = w.requested :=
        (h.refused hbad).unasked
      exact List.map_eq_nil_iff.mp (List.append_right_eq_self.mp hunasked)
    · rcases h.recorded with ⟨front, hprefix, hactivates, hrecorded⟩
      rw [(activates_iff hname hfront hprefix rfl).mp hactivates]
      exact hrecorded
  · intro h
    constructor
    · intro hbad
      constructor
      · refine ⟨code, fun heq => hrefusal.1 ?_, (hanswered code).mpr hcode⟩
        rw [heq]
      · rw [h.1 hbad]
        exact List.append_nil _
      · rfl
    · intro haccepted
      exfalso
      rw [hanswered, hanswered] at haccepted
      cases haccepted with
      | inl hsuccess => exact hrefusal.1 (hasCode_inj hcode hsuccess)
      | inr htimeout => exact hrefusal.2 (hasCode_inj hcode htimeout)
    · exact ⟨devices, hfront, (activates_iff hname hfront hfront rfl).mpr rfl, h.2⟩

theorem takesWhole_reached_iff {sent answer : Json} {waited : World}
    (hname : readString (some sent) "name" = some activateRequestName)
    (hreached : reachesAll env requested = true)
    (hwaited : waited = storeDevices
      (setDeviceList (requested.map paired) (storedDevices w))
      (requestAll sent requested w)) :
    TakesWhole requested w (waited.publish answer) <->
      EachRemains (storedDevices w) (requested.map paired) := by
  have hrequested : waited.requested = (requestAll sent requested w).requested := by
    rw [hwaited]
    rfl
  have hrecorded : forall device, Recorded (waited.publish answer) device <->
      paired device ∈
        setDeviceList (requested.map paired) (storedDevices w) := by
    intro device
    show paired device ∈ storedDevices waited <-> _
    rw [hwaited, storedDevices_storeDevices]
  have hall : (forall device, device ∈ requested ->
      Recorded (waited.publish answer) device) <->
      EachRemains (storedDevices w) (requested.map paired) := by
    rw [← forall_mem_setDeviceList_iff, List.forall_mem_map]
    exact forall₂_congr fun device _ => hrecorded device
  rw [← hall]
  constructor
  · intro h
    rcases h.recorded with ⟨front, hprefix, hactivates, hfront⟩
    rw [(activates_iff hname (List.prefix_refl requested) hprefix hrequested).mp
      hactivates]
    exact hfront
  · intro hstored
    constructor
    · intro hbad
      rcases hbad with ⟨device, hdevice, hrole⟩
      rw [reachesAll_eq, List.all_eq_true] at hreached
      exact absurd ((joins_eq env device).mp (hreached device hdevice)).1 hrole
    · exact fun _ => hstored
    · have hself := List.prefix_refl requested
      exact ⟨requested, hself,
        (activates_iff hname hself hself hrequested).mpr rfl, hstored⟩

theorem safe_iff_of_ended (hroles : rolesNamed env requested = true)
    (hends : reachesAll env requested = false) :
    Safe env requested w <->
      ((exists device, device ∈ requested ∧ device.role ≠ some "standalone") ->
        activated env requested = []) ∧
      forall device, device ∈ activated env requested -> Recorded w device := by
  have hrefused := activated_eq_nil_iff hroles hends
  constructor
  · intro h
    cases h.ended hends with
    | inl hat =>
        rw [hrefused.mpr hat]
        exact ⟨fun _ => rfl, fun device hdevice => by cases hdevice⟩
    | inr hstored =>
        refine ⟨fun hbad => ?_, hstored.2⟩
        rcases hbad with ⟨device, hdevice, hrole⟩
        exact absurd (hstored.1 device hdevice) hrole
  · intro h
    constructor
    · intro hreached
      rw [hends] at hreached
      cases hreached
    · intro _
      by_cases hbad : exists device, device ∈ requested ∧
          device.role ≠ some "standalone"
      · exact Or.inl (hrefused.mp (h.1 hbad))
      · right
        refine ⟨fun device hdevice => ?_, h.2⟩
        by_contra hrole
        exact hbad ⟨device, hdevice, hrole⟩

theorem not_safe_of_unnamed (hroles : rolesNamed env requested = false) :
    ¬ Safe env requested w := by
  intro h
  have hends : reachesAll env requested = false := by
    by_contra hreached
    rw [Bool.not_eq_false] at hreached
    rw [rolesNamed_of_reachesAll hreached] at hroles
    cases hroles
  have hnamed : rolesNamed env requested = true := by
    cases h.ended hends with
    | inl hat => exact rolesNamed_of_refusedAtOnce hat
    | inr hstored => exact rolesNamed_of_standalone hstored.1
  rw [hroles] at hnamed
  cases hnamed

/-- A pairing request is taken as a whole exactly when the daemon is down, or
all devices join and keep their entries, or the first device ends the loop, or
those that join before it ends are stored already. -/
theorem pairsWhole_iff (h : Healthy w.files) (hrouted : Routed msgJson)
    (hrequested : requestedDevices msgJson = some requested) :
    PairsWhole env msgJson requested w <->
      (env.deamonIsRunning = true -> Safe env requested w) := by
  unfold PairsWhole
  cases hrunning : env.deamonIsRunning with
  | false =>
      rcases run_pair_of_down (w := w) hrouted hrunning with ⟨answer, hcode, hrun⟩
      rcases exists_activation msgJson with ⟨sent, hname, _⟩
      have hnobody : requestAll sent [] w = w := by
        unfold requestAll
        rw [List.map_nil, List.append_nil]
      have hended : TakesWhole requested w
          ((requestAll sent [] w).publish answer) :=
        (takesWhole_ended_iff hname hcode ⟨by decide, by decide⟩
          List.nil_prefix).mpr
          ⟨fun _ => rfl, fun device hdevice => by cases hdevice⟩
      rw [hnobody] at hended
      rw [wp_of_run hrun]
      exact iff_of_true hended fun hup => by cases hup
  | true =>
      rw [imp_iff_right rfl]
      rcases exists_pairRequested hrouted hrequested hrunning w with
        ⟨msgRespond, hsame⟩
      have hwp : forall post : Unit -> World -> Prop,
          wp (requestPairMeshDevices env msgJson) post w <->
            wp (pairRequested env msgJson requested msgRespond) post w := by
        intro post
        unfold wp
        rw [hsame]
      rw [hwp]
      cases hroles : rolesNamed env requested with
      | false =>
          exact iff_of_false (not_wp_pairRequested hroles msgRespond _)
            (not_safe_of_unnamed hroles)
      | true =>
          cases hends : endingCode env requested with
          | some code =>
              rcases run_pairRequested_of_ended msgJson hroles hends
                msgRespond w with ⟨sent, answer, hname, hcode, hrun⟩
              have hended : reachesAll env requested = false := by
                rw [← Bool.not_eq_true, ← endingCode_eq_none_iff, hends]
                exact Option.some_ne_none code
              rw [wp_of_run hrun, safe_iff_of_ended hroles hended]
              exact takesWhole_ended_iff hname hcode (isRefusal_of_ending hends)
                (List.takeWhile_prefix _)
          | none =>
              rcases run_pairRequested_of_reached msgJson h hroles hends
                msgRespond with ⟨sent, answer, hname, hcode, hrun⟩
              have hreached := endingCode_eq_none_iff.mp hends
              rw [activated_of_reachesAll hreached] at hrun
              rw [wp_of_run hrun, takesWhole_reached_iff hname hreached rfl]
              constructor
              · intro hremains
                refine ⟨fun _ => hremains, fun hended => ?_⟩
                rw [hreached] at hended
                cases hended
              · exact fun hsafe => hsafe.joined hreached

end

/-!
## Two devices, and a controller at the end of the list
-/

def newKitchen : DeviceInfo :=
  { newHallway with
    mac := some "02:00:00:00:00:0c"
    ezmId := some "ezm_6"
    ip := some "192.168.1.6" }

def twoPairing : Json :=
  .obj [("name", .str "hub.ezm.mesh.devices.pair.requested"),
    ("data", cvtDeviceListToJson [newHallway, newKitchen])]

theorem routed_twoPairing : Routed twoPairing :=
  ⟨"hub.ezm.mesh.devices.pair.requested", rfl, by decide +kernel⟩

theorem requestedDevices_twoPairing :
    requestedDevices twoPairing = some [newHallway, newKitchen] := by
  show some (cvtJsonToDeviceList
    (some (cvtDeviceListToJson [newHallway, newKitchen]))) = _
  rw [cvtJsonToDeviceList_cvtDeviceListToJson]

theorem pairsWhole_two :
    PairsWhole Surroundings.alone twoPairing [newHallway, newKitchen]
      World.installed := by
  apply (pairsWhole_iff healthy_installed routed_twoPairing
    requestedDevices_twoPairing).mpr
  intro _
  constructor
  · exact fun _ => eachRemains_of_pairwise (by decide +kernel)
  · intro hends
    exact absurd hends (by decide)

def mixedPairing : Json :=
  .obj [("name", .str "hub.ezm.mesh.devices.pair.requested"),
    ("data", cvtDeviceListToJson [newHallway, gateway])]

theorem routed_mixedPairing : Routed mixedPairing :=
  ⟨"hub.ezm.mesh.devices.pair.requested", rfl, by decide +kernel⟩

theorem requestedDevices_mixedPairing :
    requestedDevices mixedPairing = some [newHallway, gateway] := by
  show some (cvtJsonToDeviceList
    (some (cvtDeviceListToJson [newHallway, gateway]))) = _
  rw [cvtJsonToDeviceList_cvtDeviceListToJson]

/-- The hallway is activated before the gateway is refused. -/
theorem not_pairsWhole_of_controller :
    ¬ forall env msgJson requested w, Healthy w.files -> Routed msgJson ->
      requestedDevices msgJson = some requested ->
        PairsWhole env msgJson requested w := by
  intro hclaim
  have hwhole := hclaim Surroundings.alone mixedPairing [newHallway, gateway]
    World.installed healthy_installed routed_mixedPairing
    requestedDevices_mixedPairing
  rcases exists_pairRequested routed_mixedPairing requestedDevices_mixedPairing
    (rfl : Surroundings.alone.deamonIsRunning = true) World.installed with
    ⟨msgRespond, hsame⟩
  have hends : endingCode Surroundings.alone [newHallway, gateway] =
      some .unknown := by decide
  rcases run_pairRequested_of_ended mixedPairing (by decide) hends msgRespond
    World.installed with ⟨sent, answer, hname, hcode, hrun⟩
  unfold PairsWhole at hwhole
  rw [wp_of_run (hsame.trans hrun)] at hwhole
  have hnobody := ((takesWhole_ended_iff hname hcode (isRefusal_of_ending hends)
    (List.takeWhile_prefix _)).mp hwhole).1
      ⟨gateway, List.mem_cons_of_mem _ List.mem_cons_self, by decide⟩
  exact absurd hnobody (by decide)

end Api
end Noc
