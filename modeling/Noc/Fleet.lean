import Noc.Api.Confinement
import Noc.Api.ModeAgreement
import Noc.Api.WholeList
import Noc.Foundation.Runs

/-!
# A fleet of devices

Every device runs the daemon.  A message comes from outside the fleet or is one
that a device sent to another; the broker may deliver what was sent at any time,
in any order, more than once or never.
-/

namespace Noc

open Api
open Foundation
open Foundation.Exec
open Foundation.Json
open Mesh

abbrev Fleet (ι : Type) := ι -> World

inductive FleetEvent (ι : Type) where
  | outside (device : ι) (env : Surroundings) (msgJson : Json)
  | delivery (sender receiver : ι) (env : Surroundings)
      (request : Option String × Json)

section

variable {ι : Type} [DecidableEq ι]

/-- The device handles a message. -/
def Fleet.handle (fleet : Fleet ι) (device : ι) (env : Surroundings)
    (msgJson : Json) : Fleet ι :=
  Function.update fleet device
    (final (mqttOnMessageCbHandler env (some msgJson)) (fleet device))

/-- `own` has the `ezm_id` of each device. -/
inductive FleetStep (own : ι -> Option String) :
    Fleet ι -> FleetEvent ι -> Fleet ι -> Prop where
  | outside (fleet : Fleet ι) (device : ι) {env : Surroundings} (msgJson : Json)
      (henv : env.ezmId = own device) :
      FleetStep own fleet (.outside device env msgJson)
        (fleet.handle device env msgJson)
  | delivery (fleet : Fleet ι) (sender receiver : ι) {env : Surroundings}
      {request : Option String × Json} (henv : env.ezmId = own receiver)
      (hsent : request ∈ (fleet sender).requested)
      (htopic : subTopic request.1 = subTopic (own receiver)) :
      FleetStep own fleet (.delivery sender receiver env request)
        (fleet.handle receiver env request.2)

end

/-!
## Requests of other devices
-/

section

variable {msgJson message : Json} {request : Option String × Json}

theorem readString_name_of_printed {msgRequest : MsgRequest} {msgType : MsgType}
    (h : cvtMsgRequestToJson msgRequest msgType = some message) :
    readString (some message) "name" = msgRequest.name := by
  unfold cvtMsgRequestToJson at h
  rcases Option.map_eq_some_iff.mp h with ⟨data, _, rfl⟩
  simp [readString]

theorem selectedHandler_activateRequestName :
    selectedHandler activateRequestName = some .requestActivateAgentDevice := by
  decide +kernel

theorem selectedHandler_inactivateRequestName :
    selectedHandler inactivateRequestName = some .requestInactivateAgentDevice := by
  decide +kernel

theorem handlerOf_of_pairing (h : (pairingPowers msgJson).requests request) :
    handlerOf request.2 = some .requestActivateAgentDevice := by
  have hname : readString (some request.2) "name" = some activateRequestName :=
    readString_name_of_printed h.message
  unfold handlerOf
  rw [hname, Option.bind_some, selectedHandler_activateRequestName]

theorem handlerOf_of_deletion (h : (deletionPowers msgJson).requests request) :
    handlerOf request.2 = some .requestInactivateAgentDevice := by
  have hname : readString (some request.2) "name" = some inactivateRequestName :=
    readString_name_of_printed h.message
  unfold handlerOf
  rw [hname, Option.bind_some, selectedHandler_inactivateRequestName]

end

section

variable {ι : Type} [DecidableEq ι]

@[simp] theorem Fleet.handle_self (fleet : Fleet ι) (device : ι)
    (env : Surroundings) (msgJson : Json) :
    fleet.handle device env msgJson device =
      final (mqttOnMessageCbHandler env (some msgJson)) (fleet device) :=
  Function.update_self _ _ _

theorem Fleet.handle_of_ne (fleet : Fleet ι) {device other : ι}
    (hne : other ≠ device) (env : Surroundings) (msgJson : Json) :
    fleet.handle device env msgJson other = fleet other :=
  Function.update_of_ne hne _ _

end

/-!
## A controller and a device to pair
-/

/-- The controller is `true`. -/
def ownOfTwo (device : Bool) : Option String :=
  some (if device then "ezm_1" else "ezm_2")

def aroundTwo (device : Bool) : Surroundings :=
  { Surroundings.alone with ezmId := ownOfTwo device }

def pairingRequest : Json :=
  .obj [("name", .str "hub.ezm.mesh.devices.pair.requested"),
    ("data", .arr [.obj [("ezm_id", .str "ezm_2"), ("role", .str "standalone")]])]

theorem handlerOf_pairingRequest :
    handlerOf pairingRequest = some .requestPairMeshDevices := by
  decide +kernel

def listedOfTwo : DeviceInfo where
  ezmId := some "ezm_2"
  role := some "standalone"

theorem requestedDevices_pairingRequest :
    requestedDevices pairingRequest = some [listedOfTwo] := rfl

/-- Both devices as installed, once the controller has handled the request. -/
def askingTwo : Fleet Bool :=
  Fleet.handle (fun _ => World.installed) true (aroundTwo true) pairingRequest

theorem runs_askingTwo :
    Runs (FleetStep ownOfTwo) (fun _ => World.installed)
      [.outside true (aroundTwo true) pairingRequest] askingTwo :=
  Runs.cons (FleetStep.outside _ true pairingRequest rfl) (Runs.nil _)

theorem askingTwo_false : askingTwo false = World.installed :=
  Fleet.handle_of_ne _ (by decide) _ _

/-!
## Pairing takes effect
-/

section

variable {env : Surroundings} {msgJson : Json} {w : World}

theorem mqttOnMessageCbHandler_of_handlerOf {handler : MessageHandler}
    (h : handlerOf msgJson = some handler) :
    mqttOnMessageCbHandler env (some msgJson) = handler.run env msgJson := by
  rcases Option.bind_eq_some_iff.mp h with ⟨name, hname, hselected⟩
  unfold mqttOnMessageCbHandler
  dsimp only
  rw [hname]
  dsimp only
  rw [hselected]

theorem routed_of_handlerOf {handler : MessageHandler}
    (h : handlerOf msgJson = some handler) : Routed msgJson := by
  rcases Option.bind_eq_some_iff.mp h with ⟨name, hname, hselected⟩
  exact ⟨name, hname, two_le_of_selectedHandler hselected⟩

/-- The device runs as an agent and is stored as one. -/
structure JoinedFrom (w w' : World) : Prop where
  mode : w'.mode = .agent
  stored : storedSetting w' =
    { storedSetting w with workMode := some (workModeText .agent) }

/-- Whatever the device was, and even when the new mode is not set up to its end. -/
theorem joinedFrom_of_activation (h : Healthy w.files)
    (hhandler : handlerOf msgJson = some .requestActivateAgentDevice) :
    JoinedFrom w (final (mqttOnMessageCbHandler env (some msgJson)) w) := by
  let setting :=
    { storedSetting w with workMode := some (workModeText .agent) }
  let entered := (storeSetting setting w).enterMode .agent
  have hkeeps : Respects KeepsSetting
      (agentSteps env >>= fun _ => meshSettingFree (some setting)) :=
    respects_bind
      (respects_keepsSetting modeFiles (by decide) (respects_agentSteps env))
      fun _ => respects_meshSettingFree _
  have hrun : final (mqttOnMessageCbHandler env (some msgJson)) w =
      final (agentSteps env >>= fun _ => meshSettingFree (some setting)) entered := by
    rw [mqttOnMessageCbHandler_of_handlerOf hhandler]
    show final (switchAgent .agent (runAgentMode env)) w = _
    unfold switchAgent
    rw [final_bind_of_run (run_readMeshSetting h),
      final_bind_of_run (run_writeMeshSetting h setting)]
    rfl
  have hend : KeepsSetting entered
      (final (mqttOnMessageCbHandler env (some msgJson)) w) := by
    rw [hrun]
    exact hkeeps entered
  constructor
  · exact hend.2
  · rw [hend.storedSetting_eq]
    exact storedSetting_storeSetting setting w

/-- What was sent stays sent. -/
theorem mem_requested_of_within {α : Type} (powers : Powers) {program : Daemon α}
    {request : Option String × Json} (h : Respects (Within powers) program)
    (hmem : request ∈ w.requested) : request ∈ (final program w).requested := by
  rcases (h w).requested with ⟨sent, hsent, _⟩
  rw [hsent]
  exact List.mem_append_left _ hmem

/-- A listed device that the loop gets to is sent a request to join, whatever
becomes of the handler afterwards. -/
theorem mem_requested_of_pairing {devices : List DeviceInfo} {listed : DeviceInfo}
    (hhandler : handlerOf msgJson = some .requestPairMeshDevices)
    (hrunning : env.deamonIsRunning = true)
    (hdevices : requestedDevices msgJson = some devices)
    (hroles : rolesNamed env devices = true) (hmem : listed ∈ activated env devices) :
    exists message, handlerOf message = some .requestActivateAgentDevice ∧
      (listed.ezmId, message) ∈
        (final (mqttOnMessageCbHandler env (some msgJson)) w).requested := by
  rcases exists_pairRequested (routed_of_handlerOf hhandler) hdevices hrunning w with
    ⟨msgRespond, hhandled⟩
  rcases exists_activation msgJson with ⟨message, hname, hmessage⟩
  have hpair := run_pairDevices hmessage hroles w
  have hselected : handlerOf message = some .requestActivateAgentDevice := by
    unfold handlerOf
    rw [hname, Option.bind_some, selectedHandler_activateRequestName]
  refine ⟨message, hselected, ?_⟩
  have hfinal : final (mqttOnMessageCbHandler env (some msgJson)) w =
      final (pairRequested env msgJson devices msgRespond) w := by
    rw [mqttOnMessageCbHandler_of_handlerOf hhandler]
    show final (requestPairMeshDevices env msgJson) w = _
    unfold final
    rw [hhandled]
  have hasked : (listed.ezmId, message) ∈
      (requestAll message (activated env devices) w).requested :=
    List.mem_append_right _ (List.mem_map.mpr ⟨listed, hmem, rfl⟩)
  rw [hfinal]
  unfold pairRequested
  rw [final_bind_of_run hpair]
  refine mem_requested_of_within (pairingPowers msgJson) ?_ hasked
  cases endingCode env devices with
  | some code => exact within_respondCode code
  | none =>
      apply respects_bind (within_saveEdited List.mem_cons_self _)
      intro _
      exact respects_ite within_publish_free (within_respondCode _)

end

section

variable {ι : Type} [DecidableEq ι] {own : ι -> Option String}
variable {fleet middle last : Fleet ι} {events : List (FleetEvent ι)}
variable {event : FleetEvent ι} {device sender receiver : ι}
variable {env : Surroundings} {msgJson : Json} {request : Option String × Json}

theorem requested_handle (hmem : request ∈ (fleet sender).requested) :
    request ∈ (fleet.handle device env msgJson sender).requested := by
  by_cases hsender : sender = device
  · rw [hsender, Fleet.handle_self]
    exact mem_requested_of_within _ (within_mqttOnMessageCbHandler env msgJson)
      (hsender ▸ hmem)
  · rw [Fleet.handle_of_ne fleet hsender]
    exact hmem

/-- What was sent can still be delivered. -/
theorem requested_run (hrun : Runs (FleetStep own) fleet events last)
    (hmem : request ∈ (fleet sender).requested) :
    request ∈ (last sender).requested := by
  refine hrun.invariant (fun fleet => request ∈ (fleet sender).requested) ?_ hmem
  intro fleet event last hmem hstep
  cases hstep with
  | outside device msgJson henv => exact requested_handle hmem
  | delivery sender receiver henv hsent htopic => exact requested_handle hmem

/-- Once a device has been told to pair another one that the loop gets to, a
request is under way that makes the other one join whenever it is delivered. -/
theorem exists_joining {devices : List DeviceInfo} {listed : DeviceInfo}
    (hrun : Runs (FleetStep own) fleet events middle)
    (hasked : .outside sender env msgJson ∈ events)
    (hhandler : handlerOf msgJson = some .requestPairMeshDevices)
    (hrunning : env.deamonIsRunning = true)
    (hdevices : requestedDevices msgJson = some devices)
    (hroles : rolesNamed env devices = true) (hlisted : listed ∈ activated env devices)
    (htopic : subTopic listed.ezmId = subTopic (own receiver)) :
    exists request, forall env', env'.ezmId = own receiver ->
      Healthy (middle receiver).files ->
        exists last, FleetStep own middle (.delivery sender receiver env' request) last ∧
          JoinedFrom (middle receiver) (last receiver) := by
  rcases List.append_of_mem hasked with ⟨before, after, rfl⟩
  rcases hrun.split with ⟨asking, _, hlate⟩
  rcases hlate with _ | ⟨hstep, hafter⟩
  cases hstep with
  | outside _ _ henv =>
      rcases mem_requested_of_pairing (w := asking sender) hhandler hrunning hdevices
        hroles hlisted with ⟨message, hselected, hmem⟩
      refine ⟨(listed.ezmId, message), ?_⟩
      intro env' henv' hhealthy
      have hsent : (listed.ezmId, message) ∈ (middle sender).requested := by
        refine requested_run hafter ?_
        rw [Fleet.handle_self]
        exact hmem
      refine ⟨_, FleetStep.delivery middle sender receiver henv' hsent htopic, ?_⟩
      rw [Fleet.handle_self]
      exact joinedFrom_of_activation hhealthy hselected

/-- The other device joins. -/
theorem exists_joining_two : exists request last,
    FleetStep ownOfTwo askingTwo (.delivery true false (aroundTwo false) request) last ∧
      (last false).mode = .agent := by
  have htopic : subTopic listedOfTwo.ezmId = subTopic (ownOfTwo false) := rfl
  have hlisted : listedOfTwo ∈ activated (aroundTwo true) [listedOfTwo] :=
    List.mem_cons_self
  rcases exists_joining runs_askingTwo List.mem_cons_self handlerOf_pairingRequest rfl
    requestedDevices_pairingRequest rfl hlisted htopic with ⟨request, hdelivered⟩
  rcases hdelivered (aroundTwo false) rfl
    (askingTwo_false ▸ healthy_installed) with ⟨last, hstep, hjoined⟩
  exact ⟨request, last, hstep, hjoined.mode⟩

end

/-!
## Why a device changes its mode
-/

/-- A message lists the device, under the topic it listens to. -/
def Lists {ι : Type} (own : ι -> Option String) (msgJson : Json) (device : ι)
    (picks : DeviceInfo -> Prop) : Prop :=
  exists devices listed, requestedDevices msgJson = some devices ∧
    listed ∈ devices ∧ picks listed ∧
    subTopic listed.ezmId = subTopic (own device)

theorem lists_of_passesOn {ι : Type} {own : ι -> Option String} {msgJson : Json}
    {device : ι} {name : String} {picks : DeviceInfo -> Prop}
    {request : Option String × Json} (h : PassesOn msgJson name picks request)
    (htopic : subTopic request.1 = subTopic (own device)) :
    Lists own msgJson device picks := by
  rcases h.listed with ⟨devices, listed, hdevices, hmem, hpicks, htarget⟩
  exact ⟨devices, listed, hdevices, hmem, hpicks, htarget ▸ htopic⟩

section

variable {ι : Type} [DecidableEq ι] {own : ι -> Option String}
variable {fleet middle last : Fleet ι} {events : List (FleetEvent ι)}
variable {event : FleetEvent ι} {device sender receiver : ι}
variable {env : Surroundings} {msgJson : Json}

/-- Every request goes back to a message that its sender got from outside. -/
def Accounted (events : List (FleetEvent ι)) (fleet : Fleet ι) : Prop :=
  forall sender request, request ∈ (fleet sender).requested ->
    exists env msgJson, FleetEvent.outside sender env msgJson ∈ events ∧
      (messagePowers msgJson).requests request

/-- What a device has sent once it has handled a message. -/
theorem mem_requested_handle {request : Option String × Json}
    (hmem : request ∈ (fleet.handle device env msgJson sender).requested) :
    request ∈ (fleet sender).requested ∨
      sender = device ∧ (messagePowers msgJson).requests request := by
  by_cases hsender : sender = device
  · rw [hsender, Fleet.handle_self] at hmem
    rcases (within_mqttOnMessageCbHandler env msgJson (fleet device)).requested with
      ⟨sent, hsent, hall⟩
    rw [hsent, List.mem_append] at hmem
    rcases hmem with hmem | hmem
    · exact Or.inl (hsender ▸ hmem)
    · exact Or.inr ⟨hsender, hall request hmem⟩
  · rw [Fleet.handle_of_ne fleet hsender] at hmem
    exact Or.inl hmem

/-- A delivered request sends no further ones. -/
theorem not_requests_of_requests {request : Option String × Json}
    (h : (messagePowers msgJson).requests request) (other : Option String × Json) :
    ¬ (messagePowers request.2).requests other := by
  rw [requests_messagePowers_iff]
  rcases requests_messagePowers_iff.mp h with ⟨_, hpairing⟩ | ⟨_, hdeletion⟩
  · rw [handlerOf_of_pairing hpairing]
    simp
  · rw [handlerOf_of_deletion hdeletion]
    simp

theorem accounted_step (h : Accounted events middle)
    (hstep : FleetStep own middle event last) :
    Accounted (events ++ [event]) last := by
  intro source request hmem
  cases hstep with
  | outside device msgJson henv =>
      rcases mem_requested_handle hmem with hmem | ⟨rfl, hrequests⟩
      · rcases h source request hmem with ⟨env, msgJson, hevent, hrequests⟩
        exact ⟨env, msgJson, List.mem_append_left _ hevent, hrequests⟩
      · exact ⟨_, msgJson, List.mem_append_right _ List.mem_cons_self, hrequests⟩
  | delivery sender receiver henv hsent htopic =>
      rcases mem_requested_handle hmem with hmem | ⟨rfl, hrequests⟩
      · rcases h source request hmem with ⟨env, msgJson, hevent, hrequests⟩
        exact ⟨env, msgJson, List.mem_append_left _ hevent, hrequests⟩
      · rcases h sender _ hsent with ⟨_, _, _, hcause⟩
        exact absurd hrequests (not_requests_of_requests hcause request)

theorem accounted_run {before : List (FleetEvent ι)} (h : Accounted before fleet)
    (hrun : Runs (FleetStep own) fleet events last) :
    Accounted (before ++ events) last := by
  induction hrun generalizing before with
  | nil fleet =>
      rw [List.append_nil]
      exact h
  | cons hstep hrest ih =>
      rw [List.append_cons]
      exact ih (accounted_step h hstep)

/-- Why an event after others makes a device enter a mode. -/
inductive Enters (own : ι -> Option String) (events : List (FleetEvent ι)) :
    FleetEvent ι -> ι -> WorkMode -> Prop where
  /-- The device is told so itself. -/
  | told {device : ι} {env : Surroundings} {msgJson : Json}
      {handler : MessageHandler} {mode : WorkMode}
      (hhandler : handlerOf msgJson = some handler)
      (hmode : handler.mode = some mode) :
      Enters own events (.outside device env msgJson) device mode
  /-- Another device was told to pair it, as a standalone one. -/
  | paired {sender device : ι} {env env' : Surroundings} {msgJson : Json}
      {request : Option String × Json}
      (hearlier : .outside sender env' msgJson ∈ events)
      (hhandler : handlerOf msgJson = some .requestPairMeshDevices)
      (hlists : Lists own msgJson device fun listed =>
        listed.role = some "standalone") :
      Enters own events (.delivery sender device env request) device .agent
  /-- Another device was told to delete it. -/
  | deleted {sender device : ι} {env env' : Surroundings} {msgJson : Json}
      {request : Option String × Json}
      (hearlier : .outside sender env' msgJson ∈ events)
      (hhandler : handlerOf msgJson = some .deleteMeshDevices)
      (hlists : Lists own msgJson device fun _ => True) :
      Enters own events (.delivery sender device env request) device .standalone

theorem mode_handle (hchanged : (fleet.handle receiver env msgJson device).mode ≠
      (fleet device).mode) :
    device = receiver ∧ exists handler, handlerOf msgJson = some handler ∧
      handler.mode = some (fleet.handle receiver env msgJson device).mode := by
  by_cases hdevice : device = receiver
  · refine ⟨hdevice, ?_⟩
    rw [hdevice, Fleet.handle_self] at hchanged ⊢
    have hmode := (within_mqttOnMessageCbHandler env msgJson (fleet receiver)).mode
    exact mem_modes_messagePowers_iff.mp (hmode.resolve_left hchanged)
  · exact absurd (congrArg World.mode (Fleet.handle_of_ne fleet hdevice env msgJson))
      hchanged

theorem enters_of_step (h : Accounted events middle)
    (hstep : FleetStep own middle event last)
    (hchanged : (last device).mode ≠ (middle device).mode) :
    Enters own events event device (last device).mode := by
  cases hstep with
  | outside receiver msgJson henv =>
      rcases mode_handle hchanged with ⟨rfl, handler, hhandler, hmode⟩
      exact Enters.told hhandler hmode
  | @delivery sender receiver env request henv hsent htopic =>
      rcases mode_handle hchanged with ⟨rfl, handler, hhandler, hmode⟩
      rcases h sender request hsent with ⟨env', msgJson, hearlier, hrequests⟩
      rcases requests_messagePowers_iff.mp hrequests with
        ⟨hasked, hpairing⟩ | ⟨hasked, hdeletion⟩
      · rw [handlerOf_of_pairing hpairing, Option.some_inj] at hhandler
        rw [← hhandler, MessageHandler.mode, Option.some_inj] at hmode
        rw [← hmode]
        exact Enters.paired hearlier hasked (lists_of_passesOn hpairing htopic)
      · rw [handlerOf_of_deletion hdeletion, Option.some_inj] at hhandler
        rw [← hhandler, MessageHandler.mode, Option.some_inj] at hmode
        rw [← hmode]
        exact Enters.deleted hearlier hasked (lists_of_passesOn hdeletion htopic)

/-- No device changes its mode but for a message from outside: its own, or an
earlier one to the device that asks it, which lists it. -/
theorem enters_of_run (hnone : forall device, (fleet device).requested = [])
    (hrun : Runs (FleetStep own) fleet events middle)
    (hstep : FleetStep own middle event last)
    (hchanged : (last device).mode ≠ (middle device).mode) :
    Enters own events event device (last device).mode := by
  have hstart : Accounted [] fleet := by
    intro sender request hmem
    rw [hnone sender] at hmem
    cases hmem
  exact enters_of_step (accounted_run hstart hrun) hstep hchanged

/-- The other device joins because it was paired. -/
theorem enters_of_run_two : exists request,
    Enters ownOfTwo [.outside true (aroundTwo true) pairingRequest]
      (.delivery true false (aroundTwo false) request) false .agent := by
  have hlisted : listedOfTwo ∈ activated (aroundTwo true) [listedOfTwo] :=
    List.mem_cons_self
  rcases mem_requested_of_pairing handlerOf_pairingRequest rfl
    requestedDevices_pairingRequest rfl hlisted with ⟨message, hselected, hmem⟩
  have hstep : FleetStep ownOfTwo askingTwo
      (.delivery true false (aroundTwo false) (listedOfTwo.ezmId, message))
      (askingTwo.handle false (aroundTwo false) message) := by
    refine FleetStep.delivery askingTwo true false rfl ?_ rfl
    unfold askingTwo
    rw [Fleet.handle_self]
    exact hmem
  have hjoined : JoinedFrom World.installed
      (askingTwo.handle false (aroundTwo false) message false) := by
    rw [Fleet.handle_self, askingTwo_false]
    exact joinedFrom_of_activation healthy_installed hselected
  have hchanged : (askingTwo.handle false (aroundTwo false) message false).mode ≠
      (askingTwo false).mode := by
    rw [hjoined.mode, askingTwo_false]
    decide
  have henters := enters_of_run (fun _ => rfl) runs_askingTwo hstep hchanged
  rw [hjoined.mode] at henters
  exact ⟨_, henters⟩

end

end Noc
