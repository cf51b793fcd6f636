import Noc.Api.MessageHandler
import Noc.Api.Published

/-!
# What a request may change

Each handler has a part of the state it may change, and leaves the rest alone
whatever the message holds, whatever fails and wherever the handler stops.
-/

namespace Noc
namespace Api

open Config
open Foundation
open Foundation.Exec
open Foundation.Json
open Mesh
open Network
open Utils

/-- What a program may change besides what it publishes. -/
structure Powers where
  files : List DaemonFile := []
  uci : Bool := false
  firewall : Bool := false
  routes : Bool := false
  modes : List WorkMode := []
  /-- The requests it may send to other devices, each with their `ezm_id`. -/
  requests : Option String × Json -> Prop := fun _ => False

structure Within (powers : Powers) (w w' : World) : Prop where
  content : forall file, file ∉ powers.files ->
    w'.files.content file = w.files.content file
  uci : powers.uci = false -> w'.uci = w.uci
  firewall : powers.firewall = false -> w'.firewall = w.firewall
  kernelRoutes : powers.routes = false -> w'.kernelRoutes = w.kernelRoutes
  mode : w'.mode = w.mode ∨ w'.mode ∈ powers.modes
  requested : exists sent, w'.requested = w.requested ++ sent ∧
    forall request, request ∈ sent -> powers.requests request

instance (powers : Powers) : IsPreorder World (Within powers) where
  refl _ :=
    { content := fun _ _ => rfl
      uci := fun _ => rfl
      firewall := fun _ => rfl
      kernelRoutes := fun _ => rfl
      mode := Or.inl rfl
      requested := ⟨[], by simp, by simp⟩ }
  trans := by
    intro w w' w'' h h'
    constructor
    · exact fun file hfile => (h'.content file hfile).trans (h.content file hfile)
    · exact fun hnone => (h'.uci hnone).trans (h.uci hnone)
    · exact fun hnone => (h'.firewall hnone).trans (h.firewall hnone)
    · exact fun hnone => (h'.kernelRoutes hnone).trans (h.kernelRoutes hnone)
    · rcases h'.mode with hsame | hentered
      · rw [hsame]
        exact h.mode
      · exact Or.inr hentered
    · rcases h.requested with ⟨front, hfront, hall⟩
      rcases h'.requested with ⟨back, hback, hall'⟩
      refine ⟨front ++ back, ?_, ?_⟩
      · rw [hback, hfront, List.append_assoc]
      · intro request hmem
        rcases List.mem_append.mp hmem with hmem | hmem
        · exact hall request hmem
        · exact hall' request hmem

/-- More may be changed. -/
structure Powers.Sub (powers powers' : Powers) : Prop where
  files : powers.files ⊆ powers'.files
  uci : powers.uci = true -> powers'.uci = true
  firewall : powers.firewall = true -> powers'.firewall = true
  routes : powers.routes = true -> powers'.routes = true
  modes : powers.modes ⊆ powers'.modes
  requests : forall request, powers.requests request -> powers'.requests request

theorem Within.mono {powers powers' : Powers} (hsub : powers.Sub powers')
    {w w' : World} (h : Within powers w w') : Within powers' w w' where
  content := fun file hfile => h.content file fun hmem => hfile (hsub.files hmem)
  uci := fun hnone => h.uci (Bool.eq_false_iff.mpr fun hsome =>
    Bool.eq_false_iff.mp hnone (hsub.uci hsome))
  firewall := fun hnone => h.firewall (Bool.eq_false_iff.mpr fun hsome =>
    Bool.eq_false_iff.mp hnone (hsub.firewall hsome))
  kernelRoutes := fun hnone => h.kernelRoutes (Bool.eq_false_iff.mpr fun hsome =>
    Bool.eq_false_iff.mp hnone (hsub.routes hsome))
  mode := h.mode.imp_right fun hmem => hsub.modes hmem
  requested := by
    rcases h.requested with ⟨sent, hsent, hall⟩
    exact ⟨sent, hsent, fun request hmem => hsub.requests request (hall request hmem)⟩

/-!
## The helpers
-/

section

variable {α β : Type} {powers : Powers} {file : DaemonFile}

theorem within_onFiles {program : Exec (FileState DaemonFile) Fault α}
    (h : forall file, file ∉ powers.files ->
      Respects (SameContent file) program) :
    Respects (Within powers) (onFiles program) := by
  intro w
  unfold onFiles
  rw [final_zoom]
  exact
    { refl_of (Within powers) w with
      content := fun file hfile => h file hfile w.files }

theorem within_readJson (file : DaemonFile) :
    Respects (Within powers) (readJson file) :=
  within_onFiles fun other _ =>
    respects_bind (respects_readData file other) fun _ => respects_pure _

theorem within_readLines (file : DaemonFile) :
    Respects (Within powers) (readLines file) := by
  apply within_onFiles
  intro other _
  refine respects_bind (respects_readData file other) ?_
  intro body
  cases body with
  | none => exact respects_pure _
  | some body => exact respects_pure _

theorem within_writeData (hfile : file ∈ powers.files) (body : Body)
    (mode : Int32) :
    Respects (Within powers) (onFiles (writeData body file mode)) := by
  apply within_onFiles
  intro other hother
  exact respects_writeData (ne_of_mem_of_not_mem hfile hother).symm body mode

theorem within_writeJson (hfile : file ∈ powers.files) (tree : Json) :
    Respects (Within powers) (writeJson tree file) :=
  within_writeData hfile _ _

theorem within_appUci (h : powers.uci = true) (commands : List UciCommand) :
    Respects (Within powers) (appUci commands) :=
  respects_modify fun w =>
    { refl_of (Within powers) w with
      uci := fun hnone => absurd h (Bool.eq_false_iff.mp hnone) }

theorem within_execlIptables (h : powers.firewall = true)
    (commands : List IptablesCommand) :
    Respects (Within powers) (execlIptables commands) :=
  respects_modify fun w =>
    { refl_of (Within powers) w with
      firewall := fun hnone => absurd h (Bool.eq_false_iff.mp hnone) }

theorem within_execlIpRoute (h : powers.routes = true)
    (commands : List IpRouteCommand) :
    Respects (Within powers) (execlIpRoute commands) :=
  respects_modify fun w =>
    { refl_of (Within powers) w with
      kernelRoutes := fun hnone => absurd h (Bool.eq_false_iff.mp hnone) }

theorem within_enter {mode : WorkMode} (h : mode ∈ powers.modes) :
    Respects (Within powers) (enter mode) :=
  respects_modify fun w => { refl_of (Within powers) w with mode := Or.inr h }

theorem within_publish (w : World) (message : Json) :
    Within powers w (w.publish message) :=
  { refl_of (Within powers) w with }

theorem within_request {ezmId : Option String} {message : Json}
    (h : powers.requests (ezmId, message)) (w : World) :
    Within powers w (w.request ezmId message) :=
  { refl_of (Within powers) w with
    requested := by
      refine ⟨[(ezmId, message)], rfl, ?_⟩
      intro request hmem
      rw [List.mem_singleton.mp hmem]
      exact h }

/-- The functions that set the network up are built from these helpers. -/
theorem keptByHelpers_within (h : powers.firewall = true) :
    KeptByHelpers (Within powers) powers.files where
  readJson _ := within_readJson _
  readLines _ := within_readLines _
  checkFileExist _ := within_onFiles fun other _ => respects_checkFileExist _ other
  execlIptables := within_execlIptables h
  writeData hfile body _ _ := within_writeData hfile body _
  rewrite hfile body := by
    apply within_onFiles
    intro other hother
    refine respects_bind (respects_fopenWrite other) ?_
    intro isOpen
    exact respects_ite
      (respects_modify fun fs =>
        sameContent_store (ne_of_mem_of_not_mem hfile hother).symm body fs)
      (respects_fail _)
  remove hfile _ := within_onFiles fun other hother =>
    respects_modify fun _ =>
      Function.update_of_ne (ne_of_mem_of_not_mem hfile hother).symm _ _

theorem keptByUci_within (h : powers.uci = true) : KeptByUci (Within powers) where
  appUci := within_appUci h

end

/-!
## Opening and closing statements
-/

section

variable {α β : Type} {powers : Powers} {env : Surroundings} {msgJson : Json}
variable {msgType : MsgType} {msgRespond : MsgRespond}

theorem respects_cvtReqNameToResName {rel : World -> World -> Prop}
    [IsPreorder World rel] (reqName : Option String) :
    Respects rel (cvtReqNameToResName reqName) := by
  unfold cvtReqNameToResName
  cases (reqName.map (strtok '.')).getD [] with
  | nil => exact respects_pure _
  | cons first rest =>
      exact respects_bind (respects_deref _ _) fun _ => respects_pure _

theorem within_receive {next : MsgRequest × MsgRespond -> Daemon Unit}
    (hnext : forall msgRespond, Respects (Within powers)
      (next (cvtJsonToMsgRequest (some msgJson) msgType, msgRespond))) :
    Respects (Within powers) (receive msgJson msgType >>= next) := by
  refine respects_bind_of_wlp ?_ (fun w => wlp_receive w) ?_
  · exact respects_bind (respects_cvtReqNameToResName _) fun _ => respects_pure _
  · rintro ⟨msgRequest, msgRespond⟩ ⟨rfl, _⟩
    exact hnext msgRespond

theorem within_mqttPublishMessage :
    Respects (Within powers) (mqttPublishMessage msgRespond msgType) :=
  respects_mqttPublishMessage fun message _ w => within_publish w message

theorem within_msgRespondFree :
    Respects (Within powers) (msgRespondFree msgRespond msgType) :=
  respects_msgRespondFree

theorem within_publish_free {freeType : MsgType} :
    Respects (Within powers) (mqttPublishMessage msgRespond msgType >>= fun _ =>
      msgRespondFree msgRespond freeType) :=
  respects_bind within_mqttPublishMessage fun _ => within_msgRespondFree

theorem within_respondCode (code : ErrorCode) :
    Respects (Within powers) (respondCode env code msgType msgRespond) :=
  within_publish_free

theorem within_putData (data : Data) :
    Respects (Within powers) (msgRespond.putData data) :=
  respects_bind (respects_deref _ _) fun _ => respects_pure _

/-- What follows a pointer is run on what it points to. -/
theorem within_field {pointer : Option α} {next : α -> Daemon β}
    (hnext : forall value, pointer = some value ->
      Respects (Within powers) (next value)) :
    Respects (Within powers) (field pointer >>= next) := by
  unfold field
  cases pointer with
  | none => exact respects_fail (α := β) Fault.nullField
  | some value => exact hnext value rfl

theorem within_fields {pointer : Option α} {next : α -> Daemon β}
    (hnext : forall value, Respects (Within powers) (next value)) :
    Respects (Within powers) (field pointer >>= next) :=
  within_field fun value _ => hnext value

end

/-!
## The mesh setting
-/

/-- To enter a mode is to set the whole device up anew. -/
def modePowers (mode : WorkMode) : Powers where
  files := .meshSetting :: modeFiles
  uci := true
  firewall := true
  modes := [mode]

instance (mode : WorkMode) :
    KeptByHelpers (Within (modePowers mode)) (.meshSetting :: modeFiles) :=
  keptByHelpers_within rfl

instance (mode : WorkMode) : KeptByUci (Within (modePowers mode)) :=
  keptByUci_within rfl

section

variable {powers : Powers} {env : Surroundings} {msgJson : Json}
variable {msgRespond : MsgRespond} {mode : WorkMode}

theorem within_readMeshSetting : Respects (Within powers) readMeshSetting :=
  respects_bind (within_readJson _) fun _ => respects_pure _

theorem within_getWorkMode : Respects (Within powers) getWorkMode := by
  apply respects_bind within_readMeshSetting
  intro setting
  apply within_fields
  intro text
  cases recognisedMode text with
  | none => exact respects_pure _
  | some mode =>
      exact respects_bind (respects_meshSettingFree _) fun _ => respects_pure _

theorem within_writeMeshSetting (hfile : .meshSetting ∈ powers.files)
    (setting : MeshSetting) :
    Respects (Within powers) (writeMeshSetting setting) := by
  unfold writeMeshSetting
  cases cvtMeshSettingToJson (some setting) with
  | none => exact respects_pure _
  | some json =>
      exact respects_bind (within_writeJson hfile json) fun _ => respects_pure _

theorem within_runStandaloneMode :
    Respects (Within (modePowers .standalone)) (runStandaloneMode env) :=
  respects_bind (within_enter List.mem_cons_self) fun _ =>
    keeps_standaloneSteps env (List.subset_cons_self _ _)

theorem within_runAgentMode :
    Respects (Within (modePowers .agent)) (runAgentMode env) :=
  respects_bind (within_enter List.mem_cons_self) fun _ =>
    keeps_agentSteps env (List.subset_cons_self _ _)

theorem within_runControllerMode :
    Respects (Within (modePowers .controller)) (runControllerMode env) :=
  respects_bind (within_enter List.mem_cons_self) fun _ =>
    keeps_controllerSteps env (List.subset_cons_self _ _)

theorem within_switchAgent {run : Daemon Unit}
    (hrun : Respects (Within (modePowers mode)) run) :
    Respects (Within (modePowers mode)) (switchAgent mode run) :=
  respects_bind within_readMeshSetting fun _ =>
    respects_bind (within_writeMeshSetting List.mem_cons_self _) fun _ =>
      respects_bind hrun fun _ => respects_meshSettingFree _

theorem within_createMesh :
    Respects (Within (modePowers .controller)) (createMesh env msgJson) := by
  apply within_receive
  intro msgRespond
  apply respects_bind within_getWorkMode
  intro workMode
  refine respects_ite ?_ (within_respondCode _)
  apply within_fields
  intro data
  apply within_fields
  intro requested
  apply within_fields
  intro wireless
  apply within_fields
  intro iface
  exact respects_bind within_mqttPublishMessage fun _ =>
    respects_bind (within_writeMeshSetting List.mem_cons_self _) fun _ =>
      respects_bind
        (respects_bind (within_execlIptables rfl _) fun _ => respects_pure _)
        fun _ => respects_bind within_runControllerMode fun _ =>
          within_msgRespondFree

theorem within_requestMesh :
    Respects (Within powers) (requestMesh env msgJson) := by
  apply within_receive
  intro msgRespond
  apply respects_bind within_getWorkMode
  intro workMode
  refine respects_ite (within_respondCode _) ?_
  apply respects_bind within_readMeshSetting
  intro setting
  exact respects_bind (within_putData _) fun _ => within_publish_free

theorem within_respondDeamonDown :
    Respects (Within powers) (respondDeamonDown env msgRespond) :=
  respects_bind (respects_cvtReqNameToResName _) fun _ => within_respondCode _

theorem within_updateMesh :
    Respects (Within { files := [.meshSetting], uci := true })
      (updateMesh env msgJson) := by
  have : KeptByUci (Within { files := [.meshSetting], uci := true }) :=
    keptByUci_within rfl
  apply within_receive
  intro msgRespond
  refine respects_ite within_respondDeamonDown ?_
  apply respects_bind within_getWorkMode
  intro workMode
  refine respects_ite (within_respondCode _) ?_
  apply respects_bind within_readMeshSetting
  intro setting
  apply within_fields
  intro data
  apply within_fields
  intro requested
  refine respects_ite ?_ ?_
  · exact respects_bind (within_writeMeshSetting List.mem_cons_self _) fun _ =>
      respects_bind within_mqttPublishMessage fun _ =>
        respects_bind (respects_meshSettingFree _) fun _ =>
          within_fields fun _ =>
            respects_bind (respects_changeWifiIface _) fun _ =>
              within_msgRespondFree
  · exact respects_bind within_mqttPublishMessage fun _ =>
      respects_bind (respects_meshSettingFree _) fun _ => within_msgRespondFree

theorem within_deleteMesh :
    Respects (Within (modePowers .standalone)) (deleteMesh env msgJson) := by
  apply within_receive
  intro msgRespond
  refine respects_ite within_respondDeamonDown ?_
  apply respects_bind within_getWorkMode
  intro workMode
  refine respects_ite (within_respondCode _) ?_
  apply respects_bind within_readMeshSetting
  intro stored
  exact respects_bind (within_writeMeshSetting List.mem_cons_self _) fun _ =>
    respects_bind within_mqttPublishMessage fun _ =>
      respects_bind within_runStandaloneMode fun _ =>
        respects_bind (respects_meshSettingFree _) fun _ => within_msgRespondFree

end

/-!
## The devices
-/

/-- A request to a device that the message lists, under another name. -/
structure PassesOn (msgJson : Json) (name : String) (picks : DeviceInfo -> Prop)
    (request : Option String × Json) : Prop where
  listed : exists devices device, requestedDevices msgJson = some devices ∧
    device ∈ devices ∧ picks device ∧ request.1 = device.ezmId
  message : cvtMsgRequestToJson
    { cvtJsonToMsgRequest (some msgJson) .meshDeviceList with name := some name }
      .empty = some request.2

/-- Pairing asks standalone devices to join. -/
def pairingPowers (msgJson : Json) : Powers where
  files := [.meshDevices]
  requests := PassesOn msgJson activateRequestName fun device =>
    device.role = some "standalone"

/-- Deletion asks devices to leave. -/
def deletionPowers (msgJson : Json) : Powers where
  files := [.meshDevices]
  requests := PassesOn msgJson inactivateRequestName fun _ => True

section

variable {powers : Powers} {env : Surroundings} {msgJson : Json}
variable {msgRequest : MsgRequest} {devices : List DeviceInfo}

theorem within_requestDeviceListFromFileByStatus (status : Int32) :
    Respects (Within powers) (requestDeviceListFromFileByStatus status) :=
  respects_bind
    (respects_bind (within_readJson _) fun _ => respects_pure _)
    fun _ => respects_pure _

/-- Read the stored devices and write others back. -/
theorem within_editDevices {β : Type} (hfile : .meshDevices ∈ powers.files)
    (edit : List DeviceInfo -> List DeviceInfo)
    (result : List DeviceInfo -> β) :
    Respects (Within powers) (requestDeviceListFromFile >>= fun current =>
      saveDeviceListToFile (edit current) >>= fun _ => pure (result current)) :=
  respects_bind (respects_bind (within_readJson _) fun _ => respects_pure _)
    fun _ => respects_bind
      (respects_bind (within_writeJson hfile _) fun _ => respects_pure _)
      fun _ => respects_pure _

theorem within_saveEdited (hfile : .meshDevices ∈ powers.files)
    (edit : List DeviceInfo -> List DeviceInfo) :
    Respects (Within powers) (requestDeviceListFromFile >>= fun current =>
      saveDeviceListToFile (edit current)) :=
  respects_bind (respects_bind (within_readJson _) fun _ => respects_pure _)
    fun _ => respects_bind (within_writeJson hfile _) fun _ => respects_pure _

theorem within_requestMeshDevices :
    Respects (Within { files := [.meshDevices] })
      (requestMeshDevices env msgJson) := by
  apply within_receive
  intro msgRespond
  refine respects_ite (within_respondCode _) ?_
  apply respects_bind (within_saveEdited List.mem_cons_self _)
  intro _
  apply respects_bind (within_requestDeviceListFromFileByStatus _)
  intro devices
  exact respects_bind (within_putData _) fun _ => within_publish_free

theorem within_pairDevices (h : forall device message, device ∈ devices ->
      device.role = some "standalone" ->
      cvtMsgRequestToJson { msgRequest with name := some activateRequestName }
        .empty = some message -> powers.requests (device.ezmId, message)) :
    Respects (Within powers) (pairDevices env msgRequest devices) := by
  induction devices with
  | nil => exact respects_pure _
  | cons device rest ih =>
      apply within_field
      intro role hrole
      by_cases hstandalone : role = "standalone"
      · rw [if_pos hstandalone]
        apply respects_bind
        · apply within_field
          intro message hmessage
          refine respects_ite ?_ (respects_pure _)
          have hasked : powers.requests (device.ezmId, message) :=
            h device message List.mem_cons_self (hstandalone ▸ hrole) hmessage
          exact respects_bind (respects_modify (within_request hasked)) fun _ =>
            respects_pure _
        · intro ret
          exact respects_ite (respects_pure _) (ih fun other message hmem =>
            h other message (List.mem_cons_of_mem _ hmem))
      · rw [if_neg hstandalone]
        exact respects_pure _

theorem within_requestPairMeshDevices :
    Respects (Within (pairingPowers msgJson))
      (requestPairMeshDevices env msgJson) := by
  apply within_receive
  intro msgRespond
  refine respects_ite (within_respondCode _) ?_
  apply within_field
  intro data hdata
  apply within_field
  intro devices hdevices
  have hrequested : requestedDevices msgJson = some devices := by
    unfold requestedDevices
    exact Option.bind_eq_some_iff.mpr ⟨data, hdata, hdevices⟩
  apply respects_bind
  · apply within_pairDevices
    intro device message hmem hrole hmessage
    exact ⟨⟨devices, device, hrequested, hmem, hrole, rfl⟩, hmessage⟩
  · intro stopped
    cases stopped with
    | some code => exact within_respondCode _
    | none =>
        apply respects_bind (within_saveEdited List.mem_cons_self _)
        intro _
        exact respects_ite within_publish_free (within_respondCode _)

theorem within_requestDevicesAvailableForPairing :
    Respects (Within { firewall := true })
      (requestDevicesAvailableForPairing env msgJson) := by
  have : KeptByHelpers (Within { firewall := true }) [] := keptByHelpers_within rfl
  apply within_receive
  intro msgRespond
  refine respects_ite (within_respondCode _) ?_
  apply respects_bind
  · exact respects_bind
      (respects_bind (within_execlIptables rfl _) fun _ => respects_pure _)
      fun _ => within_fields fun _ =>
        respects_bind respects_iptablesRefresh fun _ => respects_pure _
  · intro devices
    exact respects_bind (within_putData _) fun _ => within_publish_free

theorem within_updateMeshDevices :
    Respects (Within { files := [.meshDevices] })
      (updateMeshDevices env msgJson) := by
  apply within_receive
  intro msgRespond
  refine respects_ite (within_respondCode _) ?_
  apply within_fields
  intro data
  apply within_fields
  intro devices
  apply respects_bind (within_editDevices List.mem_cons_self _ _)
  intro ret
  exact within_publish_free

theorem within_deleteMeshDevices :
    Respects (Within (deletionPowers msgJson)) (deleteMeshDevices env msgJson) := by
  apply within_receive
  intro msgRespond
  refine respects_ite (within_respondCode _) ?_
  apply respects_bind (within_saveEdited List.mem_cons_self _)
  intro _
  apply respects_bind (within_requestDeviceListFromFileByStatus _)
  intro before
  apply within_field
  intro data hdata
  apply within_field
  intro deleted hdeleted
  have hrequested : requestedDevices msgJson = some deleted := by
    unfold requestedDevices
    exact Option.bind_eq_some_iff.mpr ⟨data, hdata, hdeleted⟩
  apply respects_bind (within_editDevices List.mem_cons_self _ _)
  intro ret
  refine respects_ite (within_respondCode _) ?_
  apply respects_bind
  · apply respects_each_of_mem
    intro device hmem
    apply within_field
    intro message hmessage
    have hasked : (deletionPowers msgJson).requests (device.ezmId, message) :=
      ⟨⟨deleted, device, hrequested, hmem, trivial, rfl⟩, hmessage⟩
    exact respects_modify (within_request hasked)
  · intro _
    refine respects_ite ?_ (within_respondCode _)
    exact respects_bind within_mqttPublishMessage fun _ => within_publish_free

theorem within_requestMeshQuality :
    Respects (Within powers) (requestMeshQuality env msgJson) :=
  respects_bind (respects_cvtReqNameToResName _) fun _ => within_publish_free

end

/-!
## The network
-/

section

variable {α : Type} {powers : Powers} {env : Surroundings} {msgJson : Json}

theorem within_requestSetting {load : Daemon (ErrorCode × Data)}
    (hload : Respects (Within powers) load) (msgType : MsgType) :
    Respects (Within powers) (requestSetting env load msgType msgJson) := by
  apply within_receive
  intro msgRespond
  apply respects_bind hload
  rintro ⟨err, data⟩
  exact respects_bind (within_putData _) fun _ => within_publish_free

theorem within_applyRecord {record : Data -> Option α}
    {apply : α -> Daemon (ErrorCode × Data)}
    {release : Option α -> Daemon Unit} (msgType : MsgType)
    (happly : forall value, Respects (Within powers) (apply value))
    (hrelease : forall pointer, Respects (Within powers) (release pointer)) :
    Respects (Within powers)
      (applyRecord env record apply release msgType msgJson) := by
  apply within_receive
  intro msgRespond
  apply within_fields
  intro data
  cases record data with
  | none =>
      exact respects_bind (hrelease none) fun _ => within_msgRespondFree
  | some value =>
      apply respects_bind (happly value)
      rintro ⟨err, result⟩
      apply respects_bind (within_putData _)
      intro answer
      exact respects_bind within_mqttPublishMessage fun _ =>
        respects_bind (hrelease _) fun _ => within_msgRespondFree

theorem within_coded {wrap : α -> Data} {program : Daemon (ErrorCode × α)}
    (h : Respects (Within powers) program) :
    Respects (Within powers) (coded wrap program) :=
  respects_bind h fun _ => respects_pure _

theorem within_given {wrap : α -> Data} {set : α -> Daemon ErrorCode}
    (h : forall value, Respects (Within powers) (set value)) (value : α) :
    Respects (Within powers) (given wrap set value) :=
  respects_bind (h value) fun _ => respects_pure _

theorem within_keep (pointer : Option α) : Respects (Within powers) (keep pointer) :=
  respects_pure _

theorem within_load (file : DaemonFile) (decode : Option Json -> α) :
    Respects (Within powers) (readJson file >>= fun json => pure (decode json)) :=
  respects_bind (within_readJson file) fun _ => respects_pure _

theorem within_writeThen {file : DaemonFile} (hfile : file ∈ powers.files)
    (tree : Json) (result : Int32 -> α) :
    Respects (Within powers) (writeJson tree file >>= fun ret => pure (result ret)) :=
  respects_bind (within_writeJson hfile tree) fun _ => respects_pure _

theorem within_lanSet (lan : Lan) :
    Respects (Within { files := [.lanSetting], uci := true }) (lanSet lan) :=
  respects_bind (within_appUci rfl _) fun _ =>
    respects_bind (within_writeThen List.mem_cons_self _ _) fun _ =>
      respects_ite (respects_pure _)
        (respects_bind (within_appUci rfl _) fun _ => respects_pure _)

theorem within_wanSet (wan : Wan) :
    Respects (Within { files := [.wanSetting], uci := true }) (wanSet wan) :=
  respects_bind (within_appUci rfl _) fun _ =>
    respects_bind (within_writeThen List.mem_cons_self _ _) fun _ =>
      respects_ite (respects_pure _)
        (respects_bind (within_appUci rfl _) fun _ => respects_pure _)

theorem within_dnsDhcpSet (dnsDhcp : Option DnsDhcp) :
    Respects (Within { files := [.dhcpSetting], uci := true })
      (dnsDhcpSet dnsDhcp) := by
  have : KeptByUci (Within { files := [.dhcpSetting], uci := true }) :=
    keptByUci_within rfl
  apply respects_bind
  · exact respects_bind (respects_encodeDnsDhcp _) fun _ =>
      within_writeThen List.mem_cons_self _ _
  · intro _
    apply within_fields
    intro config
    refine respects_bind (respects_dnsSet _) ?_
    intro err
    refine respects_ite (respects_pure _) ?_
    refine respects_bind (respects_dhcp4Set _) ?_
    intro err
    exact respects_ite (respects_pure _)
      (respects_bind (respects_appUci _) fun _ => respects_pure _)

theorem within_createDnsDhcp :
    Respects (Within { files := [.dhcpSetting], uci := true })
      (createDnsDhcp env msgJson) := by
  apply within_receive
  intro msgRespond
  apply within_fields
  intro data
  apply within_fields
  intro dnsDhcp
  exact respects_bind (within_dnsDhcpSet _) fun _ => within_publish_free

theorem within_dhcpLeaseGet : Respects (Within powers) dhcpLeaseGet := by
  apply respects_bind (within_readLines _)
  intro lines
  cases lines with
  | none => exact respects_pure _
  | some lines => exact respects_pure _

/-!
A change of the routes.
-/

def routePowers : Powers where
  files := [.routeSetting]
  routes := true

theorem within_routeLoop
    (commands : Route -> List Route -> List IpRouteCommand)
    (edit : Route -> List Route -> List Route) (requests setting : List Route)
    (foundId : Bool) :
    Respects (Within routePowers)
      (routeLoop commands edit requests setting foundId) := by
  induction requests generalizing setting foundId with
  | nil => exact respects_pure _
  | cons request rest ih =>
      exact respects_bind (within_execlIpRoute rfl _) fun _ => ih _ _

theorem within_routeCreate (uuid : Nat -> String) (creates : List Route) :
    Respects (Within routePowers) (routeCreate uuid creates) :=
  respects_bind (within_load _ _) fun _ =>
    respects_bind (within_execlIpRoute rfl _) fun _ =>
      respects_bind (within_writeThen List.mem_cons_self _ _) fun _ =>
        respects_pure _

theorem within_routeUpdate (updates : List Route) :
    Respects (Within routePowers) (routeUpdate updates) :=
  respects_bind (within_load _ _) fun _ =>
    respects_bind (within_routeLoop _ _ _ _ _) fun _ =>
      respects_ite
        (respects_bind (within_writeThen List.mem_cons_self _ _) fun _ =>
          respects_pure _)
        (respects_pure _)

theorem within_routeDelete (deletes : List Route) :
    Respects (Within routePowers) (routeDelete deletes) :=
  respects_bind (within_load _ _) fun _ =>
    respects_bind (within_routeLoop _ _ _ _ _) fun _ =>
      respects_bind (within_writeThen List.mem_cons_self _ _) fun _ =>
        respects_ite (respects_pure _) (respects_pure _)

theorem within_routeListFree (routes : Option (List Route)) :
    Respects (Within powers) (routeListFree routes) :=
  respects_bind (respects_deref _ _) fun _ => respects_pure _

/-!
A change of a setting the firewall is rebuilt from.
-/

def firewallPowers (file : DaemonFile) : Powers where
  files := [file]
  firewall := true

theorem within_saveThenRefresh {file : DaemonFile} {save : Daemon ErrorCode}
    (h : Respects (Within (firewallPowers file)) save) :
    Respects (Within (firewallPowers file)) (untilError [save, iptablesRefresh]) := by
  have : KeptByHelpers (Within (firewallPowers file)) [file] :=
    keptByHelpers_within rfl
  apply respects_untilError
  intro step hmem
  rcases List.mem_cons.mp hmem with rfl | hmem
  · exact h
  · rw [List.mem_singleton.mp hmem]
    exact respects_iptablesRefresh

theorem within_saveForwarding (iptables : List Iptable) :
    Respects (Within (firewallPowers .iptablesDnatForwardingSetting))
      (saveForwarding iptables) :=
  within_saveThenRefresh (within_writeThen List.mem_cons_self _ _)

theorem within_iptablesDnatForwardingCreate (uuid : Nat -> String)
    (creates : List Iptable) :
    Respects (Within (firewallPowers .iptablesDnatForwardingSetting))
      (iptablesDnatForwardingCreate uuid creates) :=
  respects_bind (within_load _ _) fun _ =>
    respects_ite (respects_pure _)
      (respects_bind (within_saveForwarding _) fun _ => respects_pure _)

theorem within_iptablesDnatForwardingUpdate (updates : List Iptable) :
    Respects (Within (firewallPowers .iptablesDnatForwardingSetting))
      (iptablesDnatForwardingUpdate updates) :=
  respects_bind (within_load _ _) fun _ =>
    respects_bind (within_saveForwarding _) fun _ =>
      respects_ite (respects_pure _)
        (respects_ite (respects_pure _) (respects_pure _))

theorem within_iptablesDnatForwardingDelete (deletes : List Iptable) :
    Respects (Within (firewallPowers .iptablesDnatForwardingSetting))
      (iptablesDnatForwardingDelete deletes) :=
  respects_bind (within_load _ _) fun _ =>
    respects_bind (within_saveForwarding _) fun _ =>
      respects_ite (respects_pure _)
        (respects_ite (respects_pure _) (respects_pure _))

theorem within_iptableDnatDmzUpdate (iptables : Iptable) :
    Respects (Within (firewallPowers .iptablesDnatDmzSetting))
      (iptableDnatDmzUpdate iptables) :=
  within_saveThenRefresh (within_writeThen List.mem_cons_self _ _)

theorem within_iptableNovaServiceSet (services : List IptableNovaService) :
    Respects (Within (firewallPowers .iptablesNovaSetting))
      (iptableNovaServiceSet services) :=
  within_saveThenRefresh
    (within_fields fun _ => within_writeThen List.mem_cons_self _ _)

end

/-!
## Every handler
-/

/-- What the handler of a message may change. -/
def MessageHandler.powers (msgJson : Json) : MessageHandler -> Powers
  | createMesh => modePowers .controller
  | updateMesh => { files := [.meshSetting], uci := true }
  | deleteMesh | requestInactivateAgentDevice => modePowers .standalone
  | requestActivateAgentDevice => modePowers .agent
  | requestMeshDevices | updateMeshDevices => { files := [.meshDevices] }
  | requestPairMeshDevices => pairingPowers msgJson
  | deleteMeshDevices => deletionPowers msgJson
  | requestDevicesAvailableForPairing => { firewall := true }
  | createLan => { files := [.lanSetting], uci := true }
  | createWan => { files := [.wanSetting], uci := true }
  | createDnsDhcp => { files := [.dhcpSetting], uci := true }
  | createStaticRoute | deleteStaticRoute | updateStaticRoutes => routePowers
  | createDnatPortForwardingProfile | updateDnatPortForwardingProfiles
  | deleteDnatPortForwardingProfile =>
      firewallPowers .iptablesDnatForwardingSetting
  | createDnatDmz => firewallPowers .iptablesDnatDmzSetting
  | createNovaServicesPortProfiles => firewallPowers .iptablesNovaSetting
  | requestMesh | requestMeshQuality | requestLan | requestWan | requestDnsDhcp
  | requestDhcp4Leases | requestStaticRoutes | requestDnatPortForwardingProfiles
  | requestDnatDmz | requestNovaServicesPortProfiles => {}

/-- The mode a handler enters. -/
def MessageHandler.mode : MessageHandler -> Option WorkMode
  | .createMesh => some .controller
  | .deleteMesh | .requestInactivateAgentDevice => some .standalone
  | .requestActivateAgentDevice => some .agent
  | _ => none

section

variable {env : Surroundings} {msgJson : Json}

theorem within_run (handler : MessageHandler) :
    Respects (Within (handler.powers msgJson)) (handler.run env msgJson) := by
  cases handler with
  | createMesh => exact within_createMesh
  | requestMesh => exact within_requestMesh
  | updateMesh => exact within_updateMesh
  | deleteMesh => exact within_deleteMesh
  | requestMeshDevices => exact within_requestMeshDevices
  | requestPairMeshDevices => exact within_requestPairMeshDevices
  | requestDevicesAvailableForPairing =>
      exact within_requestDevicesAvailableForPairing
  | updateMeshDevices => exact within_updateMeshDevices
  | deleteMeshDevices => exact within_deleteMeshDevices
  | requestActivateAgentDevice => exact within_switchAgent within_runAgentMode
  | requestInactivateAgentDevice =>
      exact within_switchAgent within_runStandaloneMode
  | requestMeshQuality => exact within_requestMeshQuality
  | requestLan => exact within_requestSetting (within_coded (within_load _ _)) _
  | createLan =>
      exact within_applyRecord _ (within_given within_lanSet) within_keep
  | requestWan => exact within_requestSetting (within_coded (within_load _ _)) _
  | createWan =>
      exact within_applyRecord _ (within_given within_wanSet) within_keep
  | requestDnsDhcp =>
      exact within_requestSetting
        (respects_bind (within_load _ _) fun _ => respects_pure _) _
  | createDnsDhcp => exact within_createDnsDhcp
  | requestDhcp4Leases =>
      exact within_requestSetting (within_coded within_dhcpLeaseGet) _
  | requestStaticRoutes =>
      exact within_requestSetting
        (within_coded (respects_bind (within_load _ _) fun _ => respects_pure _)) _
  | createStaticRoute =>
      exact within_applyRecord _
        (fun _ => within_coded (within_routeCreate _ _)) within_keep
  | deleteStaticRoute =>
      exact within_applyRecord _
        (fun _ => within_coded (within_routeDelete _)) within_routeListFree
  | updateStaticRoutes =>
      exact within_applyRecord _
        (fun _ => within_coded (within_routeUpdate _)) within_routeListFree
  | requestDnatPortForwardingProfiles =>
      exact within_requestSetting (within_coded (within_load _ _)) _
  | updateDnatPortForwardingProfiles =>
      exact within_applyRecord _
        (fun _ => within_coded (within_iptablesDnatForwardingUpdate _)) within_keep
  | createDnatPortForwardingProfile =>
      exact within_applyRecord _
        (fun _ => within_coded (within_iptablesDnatForwardingCreate _ _))
        within_keep
  | deleteDnatPortForwardingProfile =>
      exact within_applyRecord _
        (fun _ => within_coded (within_iptablesDnatForwardingDelete _)) within_keep
  | requestDnatDmz =>
      exact within_requestSetting (within_coded (within_load _ _)) _
  | createDnatDmz =>
      exact within_applyRecord _ (within_given within_iptableDnatDmzUpdate)
        within_keep
  | requestNovaServicesPortProfiles =>
      exact within_requestSetting (within_coded (within_load _ _)) _
  | createNovaServicesPortProfiles =>
      exact within_applyRecord _ (within_given within_iptableNovaServiceSet)
        within_keep

/-!
## Messages
-/

/-- The handler a message starts. -/
def handlerOf (msgJson : Json) : Option MessageHandler :=
  (readString (some msgJson) "name").bind selectedHandler

/-- A message that starts no handler is answered at most. -/
def messagePowers (msgJson : Json) : Powers :=
  match handlerOf msgJson with
  | some handler => handler.powers msgJson
  | none => {}

theorem within_mqttOnMessageCbHandler (env : Surroundings) (msgJson : Json) :
    Respects (Within (messagePowers msgJson))
      (mqttOnMessageCbHandler env (some msgJson)) := by
  unfold mqttOnMessageCbHandler messagePowers handlerOf
  dsimp only
  cases readString (some msgJson) "name" with
  | none => exact respects_pure _
  | some name =>
      rw [Option.bind_some]
      dsimp only
      cases selectedHandler name with
      | none =>
          exact respects_bind (respects_cvtReqNameToResName _) fun _ =>
            within_mqttPublishMessage
      | some handler => exact within_run handler

theorem mem_modes_iff {handler : MessageHandler} {mode : WorkMode} :
    mode ∈ (handler.powers msgJson).modes <-> handler.mode = some mode := by
  cases handler <;> simp [MessageHandler.powers, MessageHandler.mode, modePowers,
    pairingPowers, deletionPowers, routePowers, firewallPowers, eq_comm]

theorem mem_modes_messagePowers_iff {mode : WorkMode} :
    mode ∈ (messagePowers msgJson).modes <->
      exists handler, handlerOf msgJson = some handler ∧
        handler.mode = some mode := by
  unfold messagePowers
  cases handlerOf msgJson with
  | none => simp
  | some handler => simp [mem_modes_iff]

/-- Two handlers send requests to other devices. -/
theorem requests_messagePowers_iff {request : Option String × Json} :
    (messagePowers msgJson).requests request <->
      (handlerOf msgJson = some .requestPairMeshDevices ∧
        (pairingPowers msgJson).requests request) ∨
      (handlerOf msgJson = some .deleteMeshDevices ∧
        (deletionPowers msgJson).requests request) := by
  unfold messagePowers
  cases handlerOf msgJson with
  | none => simp
  | some handler =>
      cases handler <;> simp [MessageHandler.powers, modePowers, routePowers,
        firewallPowers]

/-!
Over many messages, one after the other.
-/

def Powers.join (powers powers' : Powers) : Powers where
  files := powers.files ++ powers'.files
  uci := powers.uci || powers'.uci
  firewall := powers.firewall || powers'.firewall
  routes := powers.routes || powers'.routes
  modes := powers.modes ++ powers'.modes
  requests := fun request => powers.requests request ∨ powers'.requests request

theorem Powers.sub_join_left (powers powers' : Powers) :
    powers.Sub (powers.join powers') where
  files := List.subset_append_left _ _
  uci := fun h => Bool.or_eq_true_iff.mpr (Or.inl h)
  firewall := fun h => Bool.or_eq_true_iff.mpr (Or.inl h)
  routes := fun h => Bool.or_eq_true_iff.mpr (Or.inl h)
  modes := List.subset_append_left _ _
  requests := fun _ => Or.inl

theorem Powers.sub_join_right (powers powers' : Powers) :
    powers'.Sub (powers.join powers') where
  files := List.subset_append_right _ _
  uci := fun h => Bool.or_eq_true_iff.mpr (Or.inr h)
  firewall := fun h => Bool.or_eq_true_iff.mpr (Or.inr h)
  routes := fun h => Bool.or_eq_true_iff.mpr (Or.inr h)
  modes := List.subset_append_right _ _
  requests := fun _ => Or.inr

def totalPowers : List Json -> Powers
  | [] => {}
  | msgJson :: rest => (messagePowers msgJson).join (totalPowers rest)

/-- Each message finds the surroundings as they are then. -/
def handleAll : List (Surroundings × Json) -> World -> World
  | [], w => w
  | (env, msgJson) :: rest, w =>
      handleAll rest (final (mqttOnMessageCbHandler env (some msgJson)) w)

/-- However many messages come and whatever they hold, nothing changes that none
of their handlers may change. -/
theorem within_handleAll (messages : List (Surroundings × Json)) (w : World) :
    Within (totalPowers (messages.map Prod.snd)) w (handleAll messages w) := by
  induction messages generalizing w with
  | nil => exact refl_of (Within {}) w
  | cons message rest ih =>
      rcases message with ⟨env, msgJson⟩
      have hfirst := within_mqttOnMessageCbHandler env msgJson w
      exact trans_of (Within _) (hfirst.mono (Powers.sub_join_left _ _))
        ((ih _).mono (Powers.sub_join_right _ _))

end

end Api
end Noc
