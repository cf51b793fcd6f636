import Noc.Api.ErrorCode
import Noc.Foundation.Scan
import Noc.Network.Iptables.Rules
import Noc.World

/-!
# The firewall store

The three setting files of the firewall and `iptables_refresh`, which rebuilds
the installed rules from them.
-/

namespace Noc
namespace Network

open Api
open Foundation
open Foundation.Exec
open Foundation.Json
open Utils

/-!
## DMZ
-/

def iptableDnatDmzRequestFromSettingFile : Daemon (ErrorCode × Iptable) := do
  let json <- readJson .iptablesDnatDmzSetting
  return (.success, cvtJsonToIptable json)

def iptableDnatDmzSaveToSettingFile (iptables : Iptable) : Daemon ErrorCode := do
  let ret <- writeJson (cvtIptableToJson iptables) .iptablesDnatDmzSetting
  return if ret = -1 then .internalServer else .success

def iptableDnatDmzReloadFromSettingFile : Daemon ErrorCode := do
  let (err, iptables) <- iptableDnatDmzRequestFromSettingFile
  if err ≠ .success then return err
  else
    execlIptables (iptablesDnatDmzProfilesSet iptables)
    return .success

/-!
## Port forwarding
-/

def iptableDnatForwardingRequestFromSettingFile :
    Daemon (ErrorCode × List Iptable) := do
  let json <- readJson .iptablesDnatForwardingSetting
  return (.success, cvtJsonToIptableList json)

def iptablesDnatForwardingSaveToSettingFile (iptables : List Iptable) :
    Daemon ErrorCode := do
  let ret <-
    writeJson (cvtIptableListToJson iptables) .iptablesDnatForwardingSetting
  return if ret ≠ 0 then .internalServer else .success

def iptableDnatForwardingReloadFromSettingFile : Daemon ErrorCode := do
  let (err, iptables) <- iptableDnatForwardingRequestFromSettingFile
  if err ≠ .success then return err
  else
    execlIptables (iptablesOpenPortProfiles iptables)
    return .success

/-!
## Nova services
-/

def iptableNovaServiceRequestFromSettingFile :
    Daemon (ErrorCode × List IptableNovaService) := do
  let json <- readJson .iptablesNovaSetting
  return (.success, cvtJsonToIptableNovaServiceList json)

/-- The test for failure is the wrong way round: a written file is reported as
an error. -/
def iptableNovaServiceSaveToSettingFile (services : List IptableNovaService) :
    Daemon ErrorCode := do
  let json <- field (cvtIptableNovaServiceListToJson services)
  let ret <- writeJson json .iptablesNovaSetting
  return if ret ≠ -1 then .internalServer else .success

def openNovaService (service : IptableNovaService) : Daemon Unit := do
  let profiles <- field service.portProfiles
  execlIptables (iptablesOpenPortProfiles profiles)

def iptableNovaServiceReloadFromSettingFile : Daemon ErrorCode := do
  let (err, services) <- iptableNovaServiceRequestFromSettingFile
  if err ≠ .success then return err
  else
    each openNovaService services
    return .success

/-!
## Refreshing
-/

def iptablesDefaultSetting : Daemon ErrorCode := do
  execlIptables iptablesDefaultSettingList
  return .success

def iptablesAllowAllTraffic : Daemon ErrorCode := do
  execlIptables iptablesAllowAllTrafficList
  return .success

def iptablesRestrictBasic : Daemon ErrorCode := do
  execlIptables iptableRestrictBasic
  return .success

/-- Run the steps in order up to the first that fails. -/
def untilError : List (Daemon ErrorCode) -> Daemon ErrorCode
  | [] => return .success
  | step :: rest => do
      let err <- step
      if err ≠ .success then return err else untilError rest

def iptablesRefresh : Daemon ErrorCode :=
  untilError
    [iptablesDefaultSetting,
     iptableDnatDmzReloadFromSettingFile,
     iptableDnatForwardingReloadFromSettingFile,
     iptableNovaServiceReloadFromSettingFile,
     iptablesRestrictBasic]

/-!
## Edits of the forwarding list
-/

/-- A stored profile is found by an identifier that contains its own. -/
def matchesProfile (request stored : Iptable) : Bool :=
  appStrstr request.id stored.id

def createdProfiles (uuid : Nat -> String) (creates : List Iptable) :
    List Iptable :=
  creates.mapIdx fun i iptables =>
    { iptables with id := some (uuidGen "iptable" (uuid i)) }

/-- One record of an update replaces every profile it finds. -/
def updateProfile (stored : List Iptable) (update : Iptable) : List Iptable :=
  stored.map fun iptables =>
    if matchesProfile update iptables then update else iptables

/-- One record of a deletion removes the first profile it finds. -/
def deleteProfile (stored : List Iptable) (delete : Iptable) : List Iptable :=
  stored.eraseP (matchesProfile delete)

/-- Whether some record finds a profile in the list its predecessors leave. -/
def findsProfile (edit : List Iptable -> Iptable -> List Iptable) :
    List Iptable -> List Iptable -> Bool
  | [], _ => false
  | request :: rest, stored =>
      stored.any (matchesProfile request) ||
        findsProfile edit rest (edit stored request)

/-!
## Operations
-/

/-- What follows a change of the forwarding list. -/
def saveForwarding (iptables : List Iptable) : Daemon ErrorCode :=
  untilError [iptablesDnatForwardingSaveToSettingFile iptables, iptablesRefresh]

def iptablesDnatForwardingRequest : Daemon (ErrorCode × List Iptable) :=
  iptableDnatForwardingRequestFromSettingFile

def iptablesDnatForwardingCreate (uuid : Nat -> String)
    (creates : List Iptable) : Daemon (ErrorCode × List Iptable) := do
  let (err, setting) <- iptablesDnatForwardingRequest
  if err ≠ .success then return (err, setting)
  else
    let iptables := setting ++ createdProfiles uuid creates
    let err <- saveForwarding iptables
    return (err, iptables)

def iptablesDnatForwardingUpdate (updates : List Iptable) :
    Daemon (ErrorCode × List Iptable) := do
  let (_, setting) <- iptablesDnatForwardingRequest
  let iptables := updates.foldl updateProfile setting
  let err <- saveForwarding iptables
  if err ≠ .success then return (err, iptables)
  else if findsProfile updateProfile updates setting then
    return (.success, iptables)
  else return (.idMismatched, iptables)

def iptablesDnatForwardingDelete (deletes : List Iptable) :
    Daemon (ErrorCode × List Iptable) := do
  let (_, setting) <- iptablesDnatForwardingRequest
  let iptables := deletes.foldl deleteProfile setting
  let err <- saveForwarding iptables
  if err ≠ .success then return (err, iptables)
  else if findsProfile deleteProfile deletes setting then
    return (.success, iptables)
  else return (.idMismatched, iptables)

def iptableDnatDmzUpdate (iptables : Iptable) : Daemon ErrorCode :=
  untilError [iptableDnatDmzSaveToSettingFile iptables, iptablesRefresh]

def iptableNovaServiceSet (services : List IptableNovaService) :
    Daemon ErrorCode :=
  untilError [iptableNovaServiceSaveToSettingFile services, iptablesRefresh]

/-- A scan opens the firewall, looks for devices and refreshes. -/
def openWhile {α : Type} (query : Daemon α) : Daemon α := do
  let _ <- iptablesAllowAllTraffic
  let found <- query
  let _ <- iptablesRefresh
  return found

/-!
## Results on a healthy file system
-/

def storedDmz (w : World) : Iptable :=
  cvtJsonToIptable (w.json .iptablesDnatDmzSetting)

def storedForwarding (w : World) : List Iptable :=
  cvtJsonToIptableList (w.json .iptablesDnatForwardingSetting)

def storedNova (w : World) : List IptableNovaService :=
  cvtJsonToIptableNovaServiceList (w.json .iptablesNovaSetting)

def novaProfiles (services : List IptableNovaService) : List (List Iptable) :=
  services.map fun service => service.portProfiles.getD []

/-- The firewall that the three setting files stand for. -/
def rebuild (w : World) : Firewall :=
  Firewall.accepting.run
    (refreshCommands (storedDmz w) (storedForwarding w)
      (novaProfiles (storedNova w)))

section

variable {w : World}

@[simp] theorem storedDmz_runIptables (commands : List IptablesCommand) :
    storedDmz (w.runIptables commands) = storedDmz w := rfl

@[simp] theorem storedForwarding_runIptables (commands : List IptablesCommand) :
    storedForwarding (w.runIptables commands) = storedForwarding w := rfl

@[simp] theorem storedNova_runIptables (commands : List IptablesCommand) :
    storedNova (w.runIptables commands) = storedNova w := rfl

theorem wp_untilError_cons (step : Daemon ErrorCode)
    (rest : List (Daemon ErrorCode)) (post : ErrorCode -> World -> Prop) :
    wp (untilError (step :: rest)) post w <->
      wp step (fun err w' =>
        if err ≠ .success then post err w' else wp (untilError rest) post w')
        w := by
  show wp (step >>= fun err => if err ≠ .success then pure err
    else untilError rest) post w <-> _
  simp only [wp_bind, wp_ite, wp_pure]

/-- The first step fails or the others follow. -/
theorem wp_untilError_of_run {step : Daemon ErrorCode} {w' : World}
    (hrun : step w = .ok (.success, w')) (rest : List (Daemon ErrorCode))
    (post : ErrorCode -> World -> Prop) :
    wp (untilError (step :: rest)) post w <-> wp (untilError rest) post w' := by
  rw [wp_untilError_cons, wp_of_run hrun]
  rfl

theorem wp_openNovaService (service : IptableNovaService) (w : World)
    (post : Unit -> World -> Prop) :
    wp (openNovaService service) post w <->
      service.portProfiles ≠ none ∧
        post () (w.runIptables
          (iptablesOpenPortProfiles (service.portProfiles.getD []))) := by
  unfold openNovaService field execlIptables
  rw [wp_bind, wp_deref]
  cases service.portProfiles <;> simp

theorem foldl_runIptables {α : Type} (commands : α -> List IptablesCommand)
    (values : List α) (w : World) :
    values.foldl (fun w value => w.runIptables (commands value)) w =
      w.runIptables (values.map commands).flatten := by
  induction values generalizing w with
  | nil => rfl
  | cons value rest ih =>
      rw [List.foldl_cons, ih, List.map_cons, List.flatten_cons]
      simp [World.runIptables, Firewall.run_append]

/-- Opening the services' ports follows every `port_profiles`. -/
theorem wp_iptableNovaServiceReload (h : Healthy w.files)
    (post : ErrorCode -> World -> Prop) :
    wp iptableNovaServiceReloadFromSettingFile post w <->
      CarriesPortProfiles (storedNova w) ∧
        post .success (w.runIptables
          ((novaProfiles (storedNova w)).map iptablesOpenPortProfiles).flatten) := by
  unfold iptableNovaServiceReloadFromSettingFile
    iptableNovaServiceRequestFromSettingFile
  rw [wp_bind, wp_bind, wp_readJson h rfl]
  show wp (each openNovaService (storedNova w) >>= fun _ => pure .success)
    post w <-> _
  rw [wp_bind, wp_each_of_effect wp_openNovaService, foldl_runIptables]
  unfold novaProfiles CarriesPortProfiles
  rw [List.map_map]
  rfl

theorem run_iptableDnatDmzReload (h : Healthy w.files) :
    iptableDnatDmzReloadFromSettingFile w =
      .ok (.success,
        w.runIptables (iptablesDnatDmzProfilesSet (storedDmz w))) := by
  apply run_of_wp
  unfold iptableDnatDmzReloadFromSettingFile iptableDnatDmzRequestFromSettingFile
  rw [wp_bind, wp_bind, wp_readJson h rfl]
  exact ⟨rfl, rfl⟩

theorem run_iptableDnatForwardingReload (h : Healthy w.files) :
    iptableDnatForwardingReloadFromSettingFile w =
      .ok (.success,
        w.runIptables (iptablesOpenPortProfiles (storedForwarding w))) := by
  apply run_of_wp
  unfold iptableDnatForwardingReloadFromSettingFile
    iptableDnatForwardingRequestFromSettingFile
  rw [wp_bind, wp_bind, wp_readJson h rfl]
  exact ⟨rfl, rfl⟩

/-- Refreshing rebuilds the firewall whatever was installed. -/
theorem wp_iptablesRefresh (h : Healthy w.files)
    (post : ErrorCode -> World -> Prop) :
    wp iptablesRefresh post w <->
      CarriesPortProfiles (storedNova w) ∧
        post .success { w with firewall := rebuild w } := by
  have hrebuilt : w.firewall.run (refreshCommands (storedDmz w)
      (storedForwarding w) (novaProfiles (storedNova w))) = rebuild w :=
    Firewall.run_refreshCommands _ _ _ _ _
  unfold iptablesRefresh
  have hdefault : iptablesDefaultSetting w =
      .ok (.success, w.runIptables iptablesDefaultSettingList) := rfl
  have hdmz := run_iptableDnatDmzReload
    (w := w.runIptables iptablesDefaultSettingList) h
  rw [storedDmz_runIptables, World.runIptables_append] at hdmz
  have hforwarding := run_iptableDnatForwardingReload
    (w := w.runIptables (iptablesDefaultSettingList ++
      iptablesDnatDmzProfilesSet (storedDmz w))) h
  rw [storedForwarding_runIptables, World.runIptables_append] at hforwarding
  have hlast : forall v : World, wp (untilError [iptablesRestrictBasic]) post v <->
      post .success (v.runIptables iptableRestrictBasic) := fun _ => Iff.rfl
  rw [wp_untilError_of_run hdefault, wp_untilError_of_run hdmz,
    wp_untilError_of_run hforwarding, wp_untilError_cons,
    wp_iptableNovaServiceReload (w := w.runIptables _) h]
  simp only [ne_eq, not_true_eq_false, if_false, hlast, storedNova_runIptables,
    World.runIptables_append]
  rw [← hrebuilt]
  rfl

/-!
## Operations on a healthy file system
-/

theorem run_iptablesDnatForwardingRequest (h : Healthy w.files) :
    iptablesDnatForwardingRequest w = .ok ((.success, storedForwarding w), w) := by
  apply run_of_wp
  unfold iptablesDnatForwardingRequest iptableDnatForwardingRequestFromSettingFile
  rw [wp_bind, wp_readJson h rfl]
  exact ⟨rfl, rfl⟩

def storeForwarding (iptables : List Iptable) (w : World) : World :=
  w.storeJson .iptablesDnatForwardingSetting (cvtIptableListToJson iptables)

def storeDmz (iptables : Iptable) (w : World) : World :=
  w.storeJson .iptablesDnatDmzSetting (cvtIptableToJson iptables)

@[simp] theorem storedForwarding_storeForwarding (iptables : List Iptable) :
    storedForwarding (storeForwarding iptables w) = iptables := by
  simp [storedForwarding, storeForwarding]

@[simp] theorem storedNova_storeForwarding (iptables : List Iptable) :
    storedNova (storeForwarding iptables w) = storedNova w := by
  simp [storedNova, storeForwarding]

@[simp] theorem storedDmz_storeDmz (iptables : Iptable) :
    storedDmz (storeDmz iptables w) = iptables := by
  simp [storedDmz, storeDmz]

@[simp] theorem storedNova_storeDmz (iptables : Iptable) :
    storedNova (storeDmz iptables w) = storedNova w := by
  simp [storedNova, storeDmz]

/-- A world whose installed firewall is rebuilt. -/
def refreshed (w : World) : World :=
  { w with firewall := rebuild w }

@[simp] theorem rebuild_refreshed : rebuild (refreshed w) = rebuild w := rfl

theorem run_iptablesDnatForwardingSave (h : Healthy w.files)
    (iptables : List Iptable) :
    iptablesDnatForwardingSaveToSettingFile iptables w =
      .ok (.success, storeForwarding iptables w) := by
  apply run_of_wp
  unfold iptablesDnatForwardingSaveToSettingFile
  rw [wp_bind, wp_writeJson h]
  exact ⟨rfl, rfl⟩

/-- Saving the forwarding list rebuilds the firewall. -/
theorem wp_saveForwarding (h : Healthy w.files) (iptables : List Iptable)
    (post : ErrorCode -> World -> Prop) :
    wp (saveForwarding iptables) post w <->
      CarriesPortProfiles (storedNova w) ∧
        post .success (refreshed (storeForwarding iptables w)) := by
  unfold saveForwarding
  rw [wp_untilError_of_run (run_iptablesDnatForwardingSave h iptables),
    wp_untilError_cons, wp_iptablesRefresh (h.store _ _),
    storedNova_storeForwarding]
  rfl

theorem wp_iptablesDnatForwardingCreate (h : Healthy w.files)
    (uuid : Nat -> String) (creates : List Iptable)
    (post : ErrorCode × List Iptable -> World -> Prop) :
    wp (iptablesDnatForwardingCreate uuid creates) post w <->
      CarriesPortProfiles (storedNova w) ∧
        post (.success, storedForwarding w ++ createdProfiles uuid creates)
          (refreshed (storeForwarding
            (storedForwarding w ++ createdProfiles uuid creates) w)) := by
  unfold iptablesDnatForwardingCreate
  rw [wp_bind, wp_of_run (run_iptablesDnatForwardingRequest h)]
  show wp (saveForwarding _ >>= _) post w <-> _
  rw [wp_bind, wp_saveForwarding h]
  rfl

/-- What an update or a deletion reports. -/
def foundCode (edit : List Iptable -> Iptable -> List Iptable)
    (requests : List Iptable) (w : World) : ErrorCode :=
  if findsProfile edit requests (storedForwarding w) then .success
  else .idMismatched

theorem wp_iptablesDnatForwardingUpdate (h : Healthy w.files)
    (updates : List Iptable) (post : ErrorCode × List Iptable -> World -> Prop) :
    wp (iptablesDnatForwardingUpdate updates) post w <->
      CarriesPortProfiles (storedNova w) ∧
        post (foundCode updateProfile updates w,
            updates.foldl updateProfile (storedForwarding w))
          (refreshed (storeForwarding
            (updates.foldl updateProfile (storedForwarding w)) w)) := by
  unfold iptablesDnatForwardingUpdate
  rw [wp_bind, wp_of_run (run_iptablesDnatForwardingRequest h)]
  show wp (saveForwarding _ >>= _) post w <-> _
  rw [wp_bind, wp_saveForwarding h]
  unfold foundCode
  cases findsProfile updateProfile updates (storedForwarding w) <;> rfl

theorem wp_iptablesDnatForwardingDelete (h : Healthy w.files)
    (deletes : List Iptable) (post : ErrorCode × List Iptable -> World -> Prop) :
    wp (iptablesDnatForwardingDelete deletes) post w <->
      CarriesPortProfiles (storedNova w) ∧
        post (foundCode deleteProfile deletes w,
            deletes.foldl deleteProfile (storedForwarding w))
          (refreshed (storeForwarding
            (deletes.foldl deleteProfile (storedForwarding w)) w)) := by
  unfold iptablesDnatForwardingDelete
  rw [wp_bind, wp_of_run (run_iptablesDnatForwardingRequest h)]
  show wp (saveForwarding _ >>= _) post w <-> _
  rw [wp_bind, wp_saveForwarding h]
  unfold foundCode
  cases findsProfile deleteProfile deletes (storedForwarding w) <;> rfl

theorem wp_iptableDnatDmzUpdate (h : Healthy w.files) (iptables : Iptable)
    (post : ErrorCode -> World -> Prop) :
    wp (iptableDnatDmzUpdate iptables) post w <->
      CarriesPortProfiles (storedNova w) ∧
        post .success (refreshed (storeDmz iptables w)) := by
  have hsave : iptableDnatDmzSaveToSettingFile iptables w =
      .ok (.success, storeDmz iptables w) := by
    apply run_of_wp
    unfold iptableDnatDmzSaveToSettingFile
    rw [wp_bind, wp_writeJson h]
    exact ⟨rfl, rfl⟩
  unfold iptableDnatDmzUpdate
  rw [wp_untilError_of_run hsave, wp_untilError_cons,
    wp_iptablesRefresh (h.store _ _), storedNova_storeDmz]
  rfl

/-- Setting the Nova services saves them and stops there. -/
theorem wp_iptableNovaServiceSet (h : Healthy w.files)
    (services : List IptableNovaService) (post : ErrorCode -> World -> Prop) :
    wp (iptableNovaServiceSet services) post w <->
      exists tree, cvtIptableNovaServiceListToJson services = some tree ∧
        post .internalServer (w.storeJson .iptablesNovaSetting tree) := by
  unfold iptableNovaServiceSet iptableNovaServiceSaveToSettingFile field
  rw [wp_untilError_cons, wp_bind, wp_deref]
  simp only [wp_bind, wp_writeJson h]
  rfl

/-- A query that finds something leaves the firewall rebuilt. -/
theorem wp_openWhile_field {α : Type} (h : Healthy w.files) (found : Option α)
    (post : α -> World -> Prop) :
    wp (openWhile (field found)) post w <->
      exists value, found = some value ∧ CarriesPortProfiles (storedNova w) ∧
        post value (refreshed w) := by
  unfold openWhile field
  rw [wp_bind]
  show wp (deref Fault.nullField found >>= _) post
    (w.runIptables iptablesAllowAllTrafficList) <-> _
  rw [wp_bind, wp_deref]
  simp only [wp_bind, wp_iptablesRefresh
    (w := w.runIptables iptablesAllowAllTrafficList) h, wp_pure]
  rfl

end

/-!
## What refreshing leaves alone

Everything but the firewall.
-/

section

variable {rel : World -> World -> Prop} [KeptByReads rel]

theorem respects_untilError {rel : World -> World -> Prop}
    [IsPreorder World rel] {steps : List (Daemon ErrorCode)}
    (h : forall step, step ∈ steps -> Respects rel step) :
    Respects rel (untilError steps) := by
  induction steps with
  | nil => exact respects_pure _
  | cons step rest ih =>
      refine respects_bind (h step List.mem_cons_self) ?_
      intro err
      refine respects_ite (respects_pure _) (ih ?_)
      intro other hmem
      exact h other (List.mem_cons_of_mem step hmem)

theorem respects_openNovaService (service : IptableNovaService) :
    Respects rel (openNovaService service) :=
  respects_bind (respects_deref _ _) fun _ => respects_execlIptables _

theorem respects_iptableDnatDmzReload :
    Respects rel iptableDnatDmzReloadFromSettingFile := by
  apply respects_bind
  · exact respects_bind (respects_readJson rfl) fun _ => respects_pure _
  · intro iptables
    exact respects_ite (respects_pure _)
      (respects_bind (respects_execlIptables _) fun _ => respects_pure _)

theorem respects_iptableDnatForwardingReload :
    Respects rel iptableDnatForwardingReloadFromSettingFile := by
  apply respects_bind
  · exact respects_bind (respects_readJson rfl) fun _ => respects_pure _
  · intro iptables
    exact respects_ite (respects_pure _)
      (respects_bind (respects_execlIptables _) fun _ => respects_pure _)

theorem respects_iptableNovaServiceReload :
    Respects rel iptableNovaServiceReloadFromSettingFile := by
  apply respects_bind
  · exact respects_bind (respects_readJson rfl) fun _ => respects_pure _
  · intro services
    exact respects_ite (respects_pure _)
      (respects_bind (respects_each respects_openNovaService _) fun _ =>
        respects_pure _)

theorem respects_iptablesRefresh :
    Respects rel iptablesRefresh := by
  have hrun : forall commands : List IptablesCommand,
      Respects rel (execlIptables commands >>= fun _ =>
        (pure .success : Daemon ErrorCode)) := by
    intro commands
    exact respects_bind (respects_execlIptables commands) fun _ =>
      respects_pure _
  apply respects_untilError
  simp only [List.forall_mem_cons, List.not_mem_nil, false_imp_iff,
    implies_true, and_true]
  exact ⟨hrun _, respects_iptableDnatDmzReload,
    respects_iptableDnatForwardingReload, respects_iptableNovaServiceReload,
    hrun _⟩

end

end Network
end Noc
