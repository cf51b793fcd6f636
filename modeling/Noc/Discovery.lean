import Noc.Api.ModeAgreement
import Noc.Fleet
import Noc.Mdns.ServiceFile

/-!
# Discovery

A device that enters the standalone mode writes its service file, and one that
becomes agent or controller removes it.  What another device lists when it looks for
devices to pair is read from what the responders announce of these files.
-/

namespace Noc

open Api
open Config
open Foundation
open Foundation.Exec
open Foundation.Wire
open Mdns
open Mesh
open Network
open Utils

/-!
## What a device announces
-/

/-- The first line of the interface's address file. -/
def addressOf (w : World) : Option String :=
  (w.lines .wanAddress).bind List.head?

/-- The device as `get_current_device_info` sees it in the standalone mode. -/
def ownInfo (hubId ezmId : Option String) (version mac ip : String) : DeviceInfo where
  hubId := hubId
  ezmId := ezmId
  ezmVersion := some version
  ezmName := some mac
  role := some (workModeText .standalone)
  mac := some mac
  ip := some ip

/-- What stays the same of a device, and the addresses it gets. -/
structure Identity where
  hubId : Option String
  ezmId : Option String
  version : String
  mac : String
  ips : List String
  announceable : forall ip, ip ∈ ips ->
    forall text, text ∈ publisherRecords (ownInfo hubId ezmId version mac ip) -> Announceable text

def Identity.info (own : Identity) (ip : String) : DeviceInfo :=
  ownInfo own.hubId own.ezmId own.version own.mac ip

/-- The service file tells the standalone device, and only such a one. -/
structure Shown (own : Identity) (w : World) : Prop where
  address : addressOf w = some own.mac
  standalone : w.mode = .standalone -> exists ip, ip ∈ own.ips ∧
    w.files.content .avahiEzmService = some (.text (publisherText (own.info ip)))
  hidden : w.mode ≠ .standalone -> w.files.content .avahiEzmService = none

/-- A message is handled to its end on a file system on which nothing fails. -/
structure HandledStep (own : Identity) (w : World) (message : Surroundings × Json)
    (w' : World) : Prop where
  healthy : Healthy w.files
  hubId : message.1.hubId = own.hubId
  ezmId : message.1.ezmId = own.ezmId
  version : message.1.ezmVersion = own.version
  ip : message.1.wanIp ∈ own.ips
  completes : mqttOnMessageCbHandler message.1 (some message.2) w = .ok ((), w')

/-!
## The steps of a switch
-/

/-- What a handler leaves of the service file and the mode. -/
inductive Shows (env : Surroundings) (start w' : World) : Prop where
  | kept
      (hcontent : w'.files.content .avahiEzmService =
        start.files.content .avahiEzmService)
      (hmode : w'.mode = start.mode)
  | hidden (hmode : w'.mode ≠ .standalone)
      (hcontent : w'.files.content .avahiEzmService = none)
  | shown {mac : String} (hmode : w'.mode = .standalone)
      (haddress : addressOf w' = some mac)
      (hcontent : w'.files.content .avahiEzmService =
        some (.text (publisherText
          (ownInfo env.hubId env.ezmId env.ezmVersion mac env.wanIp))))

section

variable {w w' start : World} {env : Surroundings} {msgJson : Json}

/-- The file is written with the role that is stored. -/
theorem run_mdnsCreatePublisher (h : Healthy w.files)
    (hrole : (storedSetting w).workMode = some (workModeText .standalone))
    (hrun : mdnsCreatePublisher env w = .ok ((), w')) :
    exists mac, addressOf w = some mac ∧
      w' = w.storeText .avahiEzmService
        (publisherText
          (ownInfo env.hubId env.ezmId env.ezmVersion mac env.wanIp)) := by
  have hwp := (wp_of_run hrun fun _ after => after = w').mpr rfl
  unfold mdnsCreatePublisher getCurrentDeviceInfo getWorkModeStr at hwp
  simp only [wp_bind, wp_getInterfaceMac h, wp_of_run (run_readMeshSetting h), wp_pure,
    wp_writeText h] at hwp
  rcases hwp with ⟨mac, hmac, mac', hmac', rfl⟩
  rw [hmac] at hmac'
  cases hmac'
  refine ⟨mac, hmac, ?_⟩
  rw [hrole]
  rfl

theorem wlp_bind_of_beside {α β : Type} {program : Daemon α} {next : α -> Daemon β}
    {post : β -> World -> Prop} (hbeside : Respects (Beside modeFiles) program)
    (hnext : forall value w', Beside modeFiles start w' -> wlp (next value) post w')
    (h : Beside modeFiles start w) : wlp (program >>= next) post w := by
  rw [wlp_bind]
  exact wlp_mono (fun value w' hlater => hnext value w' (h.trans hlater)) (hbeside.wlp w)

theorem wlp_runStandaloneMode (h : Healthy w.files)
    (hrole : (storedSetting w).workMode = some (workModeText .standalone)) :
    wlp (runStandaloneMode env) (fun _ w' => Shows env start w') w := by
  unfold runStandaloneMode enter standaloneSteps
  rw [wlp_bind, wlp_modify]
  refine wlp_bind_of_beside (respects_dropMqttBridgeClient (by decide)) ?_
    (refl_of (Beside modeFiles) (w.enterMode .standalone))
  intro _ w1
  refine wlp_bind_of_beside (respects_dropMqttBridgeServer (by decide)) ?_
  intro _ w2
  refine wlp_bind_of_beside (respects_appUci _) ?_
  intro _ w3
  refine wlp_bind_of_beside (keeps_networkInit (List.Subset.refl _)) ?_
  intro _ w4
  refine wlp_bind_of_beside (respects_appUci _) ?_
  intro _ w5 hbeside
  rw [wlp_iff]
  intro _ w6 hrun
  have hsetting : storedSetting w5 = storedSetting w := by
    unfold storedSetting
    rw [hbeside.json_eq (by decide)]
    rfl
  rcases run_mdnsCreatePublisher (hbeside.healthy h) (hsetting ▸ hrole) hrun with
    ⟨mac, hmac, rfl⟩
  have haddress : addressOf (w5.storeText .avahiEzmService
      (publisherText
        (ownInfo env.hubId env.ezmId env.ezmVersion mac env.wanIp))) = some mac := by
    unfold addressOf
    rw [World.lines_storeText_of_ne _ _ (by decide)]
    exact hmac
  have hcontent : (w5.storeText .avahiEzmService
      (publisherText
        (ownInfo env.hubId env.ezmId env.ezmVersion mac env.wanIp))).files.content
        .avahiEzmService = some (.text (publisherText
          (ownInfo env.hubId env.ezmId env.ezmVersion mac env.wanIp))) := by
    simp [World.storeText, store]
  exact .shown hbeside.mode haddress hcontent

theorem wlp_mdnsRemovePublisher {post : Unit -> World -> Prop} {serviceFile : DaemonFile}
    (hpost : forall w', w'.files.content serviceFile = none -> post () w') :
    wlp (mdnsRemovePublisher serviceFile) post w := by
  unfold mdnsRemovePublisher onFiles
  rw [wlp_zoom, wlp_modify]
  exact hpost _ (Function.update_self _ _ _)

/-- What is behind the removal of the service file does not write it again. -/
theorem wlp_hidden {program : Daemon Unit} {touched : List DaemonFile}
    (hbeside : Respects (Beside touched) program) (htouched : .avahiEzmService ∉ touched) :
    wlp (mdnsRemovePublisher .avahiEzmService >>= fun _ => program)
      (fun _ w' => w'.files.content .avahiEzmService = none) w := by
  rw [wlp_bind]
  refine wlp_mdnsRemovePublisher fun w' hnone => ?_
  refine wlp_mono (fun _ w'' hlater => ?_) (hbeside.wlp w')
  rw [hlater.content _ htouched]
  exact hnone

theorem wlp_runAgentMode :
    wlp (runAgentMode env) (fun _ w' => Shows env start w') w := by
  have hnone : wlp (runAgentMode env)
      (fun _ w' => w'.files.content .avahiEzmService = none) w := by
    refine wlp_bind_of_next fun _ _ => ?_
    refine wlp_bind_of_next fun _ _ => ?_
    refine wlp_bind_of_next fun _ _ => ?_
    refine wlp_bind_of_next fun _ _ => ?_
    have hrest : Respects (Beside [.dhcpSetting, .lanSetting, .wanSetting])
        (networkInit >>= fun _ => appUci agentCommands >>= fun _ => waitForDeamon env) :=
      respects_bind (respects_networkInit (by decide) (by decide) (by decide)) fun _ =>
        respects_bind (respects_appUci _) fun _ => respects_waitForDeamon env
    exact wlp_hidden hrest (by decide)
  refine wlp_mono ?_ (wlp_and hnone (enters_runAgentMode.enters w))
  rintro _ w' ⟨hcontent, _, hmode⟩
  exact .hidden (by rw [hmode]; decide) hcontent

theorem wlp_runControllerMode :
    wlp (runControllerMode env) (fun _ w' => Shows env start w') w := by
  have hnone : wlp (runControllerMode env)
      (fun _ w' => w'.files.content .avahiEzmService = none) w := by
    refine wlp_bind_of_next fun _ _ => ?_
    refine wlp_bind_of_next fun _ _ => ?_
    refine wlp_bind_of_next fun _ _ => ?_
    refine wlp_bind_of_next fun _ _ => ?_
    have hrest : Respects (Beside [.dhcpSetting, .lanSetting, .wanSetting, .meshDevices])
        (networkInit >>= fun _ => readMeshSetting >>= fun setting =>
          appUci controllerNetworkCommands >>= fun _ =>
            field setting.wireless >>= fun wireless =>
              field wireless.wifiIface >>= fun iface =>
                appUci (controllerMeshCommands iface) >>= fun _ =>
                  waitForDeamon env >>= fun _ =>
                    getCurrentDeviceInfo env >>= fun controllerDevice =>
                      setDeviceListToFile
                        [{ controllerDevice with status := deviceOn }]) :=
      respects_bind (respects_networkInit (by decide) (by decide) (by decide)) fun _ =>
        respects_bind respects_readMeshSetting fun _ =>
          respects_bind (respects_appUci _) fun _ =>
            respects_bind (respects_deref _ _) fun _ =>
              respects_bind (respects_deref _ _) fun _ =>
                respects_bind (respects_appUci _) fun _ =>
                  respects_bind (respects_waitForDeamon env) fun _ =>
                    respects_bind (respects_getCurrentDeviceInfo env) fun _ =>
                      respects_setDeviceListToFile (by decide) _
    exact wlp_hidden hrest (by decide)
  refine wlp_mono ?_ (wlp_and hnone (enters_runControllerMode.enters w))
  rintro _ w' ⟨hcontent, _, hmode⟩
  exact .hidden (by rw [hmode]; decide) hcontent

/-!
## The handlers
-/

theorem wlp_kept {program : Daemon Unit} {powers : Powers} (hbefore : Beside [] start w)
    (hwithin : Respects (Within powers) program) (hfile : .avahiEzmService ∉ powers.files)
    (hmodes : powers.modes = []) :
    wlp program (fun _ w' => Shows env start w') w := by
  refine wlp_mono (fun _ w' h => ?_) (hwithin.wlp w)
  have hmode : w'.mode = w.mode := h.mode.resolve_right fun hmem => by
    rw [hmodes] at hmem
    cases hmem
  exact .kept ((h.content _ hfile).trans (hbefore.content _ List.not_mem_nil))
    (hmode.trans hbefore.mode)

theorem wlp_answered {code : ErrorCode} {freeType : MsgType} {msgRespond : MsgRespond}
    (hbefore : Beside [] start w) :
    wlp (respondCode env code freeType msgRespond) (fun _ w' => Shows env start w') w := by
  have hwithin : Respects (Within {}) (respondCode env code freeType msgRespond) :=
    within_respondCode code
  exact wlp_kept hbefore hwithin List.not_mem_nil rfl

/-- Nothing is written behind a switch. -/
theorem wlp_switch_then {run : Daemon Unit} {rest : Unit -> Daemon Unit}
    (hrest : forall value, Respects Eq (rest value))
    (hrun : wlp run (fun _ w' => Shows env start w') w) :
    wlp (run >>= rest) (fun _ w' => Shows env start w') w := by
  rw [wlp_bind]
  refine wlp_mono (fun value w' hshows => ?_) hrun
  refine wlp_mono (fun _ w'' hsame => ?_) ((hrest value).wlp w')
  rw [← hsame]
  exact hshows

theorem wlp_switchAgent_standalone (h : Healthy w.files) :
    wlp (switchAgent .standalone (runStandaloneMode env))
      (fun _ w' => Shows env start w') w := by
  unfold switchAgent
  rw [wlp_bind, wlp_of_run (run_readMeshSetting h), wlp_bind,
    wlp_of_run (run_writeMeshSetting h _)]
  refine wlp_switch_then (fun _ => respects_meshSettingFree _) ?_
  exact wlp_runStandaloneMode (healthy_storeSetting h _)
    (by rw [storedSetting_storeSetting])

theorem wlp_switchAgent_agent :
    wlp (switchAgent .agent (runAgentMode env)) (fun _ w' => Shows env start w') w := by
  refine wlp_bind_of_next fun _ _ => ?_
  refine wlp_bind_of_next fun _ _ => ?_
  exact wlp_switch_then (fun _ => respects_meshSettingFree _) wlp_runAgentMode

theorem respects_receive {msgType : MsgType} :
    Respects Eq (receive msgJson msgType) :=
  respects_bind (respects_cvtReqNameToResName _) fun _ => respects_pure _

theorem besideNone_getWorkMode : Respects (Beside []) getWorkMode := by
  refine respects_bind respects_readMeshSetting fun setting => ?_
  refine respects_bind (respects_deref _ _) fun text => ?_
  cases recognisedMode text with
  | none => exact respects_pure _
  | some mode =>
      exact respects_bind (respects_meshSettingFree _) fun _ => respects_pure _

theorem wlp_createMesh_shows :
    wlp (createMesh env msgJson) (fun _ w' => Shows env w w') w := by
  unfold createMesh
  rw [wlp_bind]
  refine wlp_mono ?_ (respects_receive.wlp w)
  rintro ⟨msgRequest, msgRespond⟩ _ rfl
  rw [wlp_bind]
  refine wlp_mono (fun workMode w1 hbeside => ?_) (besideNone_getWorkMode.wlp w)
  rw [wlp_ite]
  split
  · refine wlp_bind_of_next fun _ _ => ?_
    refine wlp_bind_of_next fun _ _ => ?_
    refine wlp_bind_of_next fun _ _ => ?_
    refine wlp_bind_of_next fun _ _ => ?_
    refine wlp_bind_of_next fun _ _ => ?_
    refine wlp_bind_of_next fun _ _ => ?_
    refine wlp_bind_of_next fun _ _ => ?_
    exact wlp_switch_then (fun _ => respects_msgRespondFree) wlp_runControllerMode
  · exact wlp_answered hbeside

theorem wlp_deleteMesh_shows (h : Healthy w.files) :
    wlp (deleteMesh env msgJson) (fun _ w' => Shows env w w') w := by
  unfold deleteMesh
  rw [wlp_bind]
  refine wlp_mono ?_ (respects_receive.wlp w)
  rintro ⟨msgRequest, msgRespond⟩ _ rfl
  rw [wlp_ite]
  split
  · have hwithin : Respects (Within {}) (respondDeamonDown env msgRespond) :=
      within_respondDeamonDown
    exact wlp_kept (refl_of (Beside []) w) hwithin List.not_mem_nil rfl
  · rw [wlp_bind]
    refine wlp_mono (fun workMode w1 hbeside => ?_) (besideNone_getWorkMode.wlp w)
    rw [wlp_ite]
    split
    · exact wlp_answered hbeside
    · have h1 := hbeside.healthy h
      rw [wlp_bind, wlp_of_run (run_readMeshSetting h1), wlp_bind,
        wlp_of_run (run_writeMeshSetting h1 _)]
      have hpublish : forall msgRespond, Respects Api.SameFiles
          (mqttPublishMessage msgRespond .empty) := fun msgRespond =>
        respects_mqttPublishMessage fun _ _ _ => rfl
      rw [wlp_bind]
      refine wlp_mono (fun _ w2 hsame => ?_) ((hpublish _).wlp _)
      refine wlp_switch_then (fun _ => respects_bind (respects_meshSettingFree _) fun _ =>
        respects_msgRespondFree) ?_
      refine wlp_runStandaloneMode ?_ ?_
      · rw [hsame]
        exact healthy_storeSetting h1 _
      · unfold storedSetting World.json
        rw [hsame]
        exact congrArg MeshSetting.workMode (storedSetting_storeSetting _ w1)

/-!
## Messages
-/

theorem avahi_notMem_of_mode {handler : MessageHandler} (h : handler.mode = none) :
    .avahiEzmService ∉ (handler.powers msgJson).files := by
  cases handler with
  | createMesh | deleteMesh | requestActivateAgentDevice
  | requestInactivateAgentDevice => cases h
  | _ =>
      simp [MessageHandler.powers, pairingPowers, deletionPowers, routePowers,
        firewallPowers]

theorem wanAddress_notMem (handler : MessageHandler) :
    .wanAddress ∉ (handler.powers msgJson).files := by
  cases handler <;> simp [MessageHandler.powers, modePowers, modeFiles, pairingPowers,
    deletionPowers, routePowers, firewallPowers]

theorem wlp_run_shows (h : Healthy w.files) (handler : MessageHandler) :
    wlp (handler.run env msgJson) (fun _ w' => Shows env w w') w := by
  cases hmode : handler.mode with
  | none =>
      refine wlp_kept (refl_of (Beside []) w) (within_run handler)
        (avahi_notMem_of_mode hmode) ?_
      refine List.eq_nil_iff_forall_not_mem.mpr fun mode hmem => ?_
      rw [mem_modes_iff, hmode] at hmem
      cases hmem
  | some mode =>
      cases handler with
      | createMesh => exact wlp_createMesh_shows
      | deleteMesh => exact wlp_deleteMesh_shows h
      | requestActivateAgentDevice => exact wlp_switchAgent_agent
      | requestInactivateAgentDevice => exact wlp_switchAgent_standalone h
      | _ => cases hmode

theorem addressOf_of_run
    (hrun : mqttOnMessageCbHandler env (some msgJson) w = .ok ((), w')) :
    addressOf w' = addressOf w := by
  have hwithin := within_mqttOnMessageCbHandler env msgJson w
  rw [final_of_run hrun] at hwithin
  have hfile : .wanAddress ∉ (messagePowers msgJson).files := by
    unfold messagePowers
    cases handlerOf msgJson with
    | none => exact List.not_mem_nil
    | some handler => exact wanAddress_notMem handler
  unfold addressOf World.lines
  rw [hwithin.content _ hfile]

theorem shows_of_run (h : Healthy w.files)
    (hrun : mqttOnMessageCbHandler env (some msgJson) w = .ok ((), w')) :
    Shows env w w' := by
  cases hhandler : handlerOf msgJson with
  | none =>
      have hwithin := within_mqttOnMessageCbHandler env msgJson w
      rw [final_of_run hrun, messagePowers, hhandler] at hwithin
      exact .kept (hwithin.content _ List.not_mem_nil)
        (hwithin.mode.resolve_right List.not_mem_nil)
  | some handler =>
      rw [mqttOnMessageCbHandler_of_handlerOf hhandler] at hrun
      exact wlp_iff.mp (wlp_run_shows h handler) () w' hrun

theorem shown_of_step {own : Identity} {message : Surroundings × Json}
    (h : Shown own w) (hstep : HandledStep own w message w') : Shown own w' := by
  have haddress : addressOf w' = some own.mac :=
    (addressOf_of_run hstep.completes).trans h.address
  refine ⟨haddress, ?_, ?_⟩
  · intro hmode
    cases shows_of_run hstep.healthy hstep.completes with
    | kept hcontent hkept =>
        rcases h.standalone (hkept ▸ hmode) with ⟨ip, hip, htext⟩
        exact ⟨ip, hip, hcontent.trans htext⟩
    | hidden hother _ => exact absurd hmode hother
    | shown _ hmac hcontent =>
        rw [haddress] at hmac
        cases hmac
        rw [hstep.hubId, hstep.ezmId, hstep.version] at hcontent
        exact ⟨_, hstep.ip, hcontent⟩
  · intro hmode
    cases shows_of_run hstep.healthy hstep.completes with
    | kept hcontent hkept => exact hcontent.trans (h.hidden (hkept ▸ hmode))
    | hidden _ hcontent => exact hcontent
    | shown hother _ _ => exact absurd hother hmode

theorem shown_of_run {own : Identity} {messages : List (Surroundings × Json)}
    (h : Shown own w) (hrun : Runs (HandledStep own) w messages w') : Shown own w' :=
  hrun.invariant (Shown own) (fun _ _ _ h hstep => shown_of_step h hstep) h

end

/-!
## What is listed
-/

/-- A datagram with what the device's responder announces. -/
def Answers (capacity : Nat) (w : World) (arrival : Bool × Bytes) : Prop :=
  arrival.2.length <= capacity ∧ exists txts,
    Serves (w.files.content .avahiEzmService) txts ∧ AnnouncesAt arrival.2 txts

theorem Shown.filterMap_announced {own : Identity} {w : World} (h : Shown own w) :
    exists found, (w.mode = .standalone -> exists ip, ip ∈ own.ips ∧
      found = listedAs (own.info ip)) ∧
      forall txts, Serves (w.files.content .avahiEzmService) txts ->
        txts.filterMap announced = if w.mode = .standalone then [found] else [] := by
  by_cases hmode : w.mode = .standalone
  · rcases h.standalone hmode with ⟨ip, hip, hcontent⟩
    refine ⟨listedAs (own.info ip), fun _ => ⟨ip, hip, rfl⟩, fun txts hserves => ?_⟩
    have hplain := own.announceable ip hip
    rw [hcontent, publisherText_eq] at hserves
    rcases hserves.service _ hplain rfl with ⟨texts, rfl, hperm⟩
    have hrole : (own.info ip).role = some "standalone" := rfl
    have hannounced := announced_of_perm hrole hplain hperm
    rw [if_pos hmode, List.filterMap_cons_some hannounced, List.filterMap_nil]
  · refine ⟨{}, fun hother => absurd hother hmode, fun txts hserves => ?_⟩
    rw [hserves.silent (h.hidden hmode), if_neg hmode, List.filterMap_nil]

/-- Whatever each device has been through, a query lists of the devices whose
answers arrive exactly those in the standalone mode, in the order of arrival and with
their identities. -/
theorem listed_of_runs {ι : Type} {own : ι -> Identity} {start last : ι -> World}
    {messages : ι -> List (Surroundings × Json)}
    (hstart : forall device, Shown (own device) (start device))
    (hrun : forall device, Runs (HandledStep (own device)) (start device)
      (messages device) (last device))
    {block : Bytes} (hblock : 12 <= block.length) {arrivals : List (Bool × Bytes)}
    {order : List ι} (harrived : List.Forall₂
      (fun arrival device => Answers block.length (last device) arrival) arrivals order)
    {numSockets : Int} (hsockets : 0 < numSockets) :
    exists found : ι -> DeviceInfo,
      (forall device, (last device).mode = .standalone -> exists ip,
        ip ∈ (own device).ips ∧ found device = listedAs ((own device).info ip)) ∧
      (mdnsReceive block arrivals).bind (mdnsQueryDeviceList numSockets) =
        some ((order.filter fun device => (last device).mode = .standalone).map found) := by
  have hshown : forall device, Shown (own device) (last device) := fun device =>
    shown_of_run (hstart device) (hrun device)
  choose found hfound hlisted using fun device => (hshown device).filterMap_announced
  refine ⟨found, hfound, ?_⟩
  have htxts : exists txtss : List (List (List Bytes)), List.Forall₂ (fun arrival txts =>
      arrival.2.length <= block.length ∧ AnnouncesAt arrival.2 txts) arrivals txtss ∧
      txtss.flatten.filterMap announced =
        (order.filter fun device => (last device).mode = .standalone).map found := by
    induction harrived with
    | nil => exact ⟨[], .nil, rfl⟩
    | @cons arrival device _ _ hanswers _ ih =>
        rcases hanswers with ⟨hfits, txts, hserves, hannounces⟩
        rcases ih with ⟨txtss, hall, hlater⟩
        refine ⟨txts :: txtss, .cons ⟨hfits, hannounces⟩ hall, ?_⟩
        rw [List.flatten_cons, List.filterMap_append, hlater, hlisted device txts hserves]
        by_cases hmode : (last device).mode = .standalone
        · rw [if_pos hmode, List.filter_cons_of_pos (by simpa using hmode)]
          rfl
        · rw [if_neg hmode, List.filter_cons_of_neg (by simpa using hmode)]
          rfl
  rcases htxts with ⟨txtss, hall, hdevices⟩
  rcases mdnsReceive_of_announces hblock hall with ⟨answers, hreceive, hfold⟩
  rw [hreceive, Option.bind_some, mdnsQueryDeviceList, if_neg (by omega), hfold,
    List.nil_append, hdevices]

/-!
## A device that is let go
-/

def inactivation : Json :=
  .obj [("name", .str inactivateRequestName)]

/-- An agent. -/
def letGo : World :=
  { World.installed with
    mode := .agent
    files :=
      { World.installed.files with
        content := fun file =>
          match file with
          | .avahiEzmService => none
          | .wanAddress => some (.text "02:00:00:00:00:01\n")
          | .mosquittoConf => some (.text "port 1883\n")
          | .dhcpSetting => some (.json (.obj [("dns", .obj []), ("dhcp4", .obj [])]))
          | _ => some (.json (.arr [])) } }

theorem healthy_letGo : Healthy letGo.files where
  unlocked := rfl
  fopens := fun _ => rfl
  present := by
    intro file hinstalled
    cases file <;> first
      | exact Option.some_ne_none _
      | cases hinstalled

def ownOfLetGo : Identity where
  hubId := none
  ezmId := none
  version := "1.0"
  mac := "02:00:00:00:00:01"
  ips := ["192.168.1.2"]
  announceable := by
    intro ip hip text htext
    cases List.mem_singleton.mp hip
    have hshort : (publisherRecords (ownInfo none none "1.0" "02:00:00:00:00:01"
        "192.168.1.2")).all fun text => text.toList.length <= 255 := by
      decide +kernel
    have hplain : (publisherRecords (ownInfo none none "1.0" "02:00:00:00:00:01"
        "192.168.1.2")).all fun text => text.toList.all fun c =>
          0x20 <= c.toNat ∧ c.toNat < 0x100 ∧ c ≠ '<' ∧ c ≠ '&' := by
      decide +kernel
    exact
      { short := of_decide_eq_true (List.all_eq_true.mp hshort text htext)
        plain := fun c hmem => of_decide_eq_true
          (List.all_eq_true.mp (List.all_eq_true.mp hplain text htext) c hmem) }

def recordsOfLetGo : List Bytes :=
  (publisherRecords (ownOfLetGo.info "192.168.1.2")).map bytesOf

/-- One TXT record of the root name. -/
def datagramOfLetGo : Bytes :=
  [0, 0, 0x84, 0, 0, 0, 0, 1, 0, 0, 0, 0] ++ [0, 0, 16, 0, 1, 0, 0, 0, 10, 0, 124] ++
    strings recordsOfLetGo

theorem announcesAt_letGo : AnnouncesAt datagramOfLetGo [recordsOfLetGo] := by
  have hcalls : (recordsOf datagramOfLetGo).filter
      (fun call => call.rtype = mdnsRecordtypeTxt) =
        [{ standaloneCall with recordLength := 124 }] := by decide +kernel
  have hplain := ownOfLetGo.announceable "192.168.1.2" List.mem_cons_self
  have hrole : (ownOfLetGo.info "192.168.1.2").role = some "standalone" := rfl
  unfold AnnouncesAt
  rw [hcalls]
  exact .cons
    { short := by decide +kernel
      data := by decide +kernel
      settled := fun _ _ hmem hrecord hstarts =>
        settled_published hrole hplain hmem hrecord hstarts } .nil

theorem listed_of_runs_letGo :
    (mdnsReceive (List.replicate 512 0) [(true, datagramOfLetGo)]).bind
        (mdnsQueryDeviceList 1) =
      some [listedAs (ownOfLetGo.info "192.168.1.2")] := by
  let last := final (mqttOnMessageCbHandler .alone (some inactivation)) letGo
  have hmode : last.mode = .standalone := by decide +kernel
  have hstep : HandledStep ownOfLetGo letGo (.alone, inactivation) last :=
    { healthy := healthy_letGo
      hubId := rfl
      ezmId := rfl
      version := rfl
      ip := List.mem_cons_self
      completes := run_of_isOk (by decide +kernel) }
  have hrun := Runs.cons hstep (Runs.nil last)
  have hstart : Shown ownOfLetGo letGo :=
    { address := by decide +kernel
      standalone := fun hother => by cases hother
      hidden := fun _ => rfl }
  have hserves : Serves (last.files.content .avahiEzmService) [recordsOfLetGo] := by
    rcases (shown_of_run hstart hrun).standalone hmode with ⟨ip, hip, hcontent⟩
    cases List.mem_singleton.mp hip
    rw [hcontent, publisherText_eq]
    exact serves_serviceFile (ownOfLetGo.announceable "192.168.1.2" List.mem_cons_self)
  let block : Bytes := List.replicate 512 0
  have hblock : block.length = 512 := List.length_replicate
  have hfits : datagramOfLetGo.length <= 512 := by decide +kernel
  have harrived : List.Forall₂ (fun arrival (_ : Unit) => Answers block.length last arrival)
      [(true, datagramOfLetGo)] [()] :=
    .cons ⟨hblock.symm ▸ hfits, _, hserves, announcesAt_letGo⟩ .nil
  rcases listed_of_runs (fun _ => hstart) (fun _ => hrun) (by omega) harrived
      Int.one_pos with ⟨found, hfound, hlisted⟩
  rw [hlisted]
  rcases hfound () hmode with ⟨ip, hip, heq⟩
  cases List.mem_singleton.mp hip
  simp [hmode, heq]

end Noc
