import Noc.Network.Dhcp.Apply
import Noc.Network.Iptables.Store
import Noc.Network.LanWan
import Noc.Network.Route.Store

/-!
# What the setters report

Each settings API saves its setting in one call of `write_data`.  What it
reports should tell whether that call succeeded, and the firewall should be
rebuilt exactly when it did.
-/

namespace Noc

open Foundation
open Foundation.Exec
open Utils

/-!
## A refused write

All accesses succeed except that the `n`th `fopen` may be refused.
-/

structure SavesAt (n : Nat) (fs : FileState DaemonFile) : Prop where
  unlocked : fs.locked = false
  fopens : forall m, m ≠ n -> fs.fopenFails m = false
  present : forall file, file.installed = true -> fs.content file ≠ none

/-- The world after an `fopen`, and after one that was refused. -/
def World.afterFopen (w : World) : World :=
  { w with files := nextFopen w.files }

def World.afterRefusal (w : World) : World :=
  { w with files := { nextFopen w.files with locked := true } }

section

variable {w : World} {n : Nat} {fs : FileState DaemonFile}

theorem SavesAt.healthy (h : SavesAt n fs) (hopens : fs.fopenFails n = false) :
    Healthy fs where
  unlocked := h.unlocked
  fopens := by
    intro m
    by_cases hm : m = n
    · rw [hm]
      exact hopens
    · exact h.fopens m hm
  present := h.present

theorem SavesAt.afterFopen (h : SavesAt (n + 1) w.files) :
    SavesAt n w.afterFopen.files where
  unlocked := h.unlocked
  fopens := fun m hm => h.fopens (m + 1) fun heq => hm (Nat.succ.inj heq)
  present := h.present

theorem run_readJson_of_savesAt (h : SavesAt (n + 1) w.files) {file : DaemonFile}
    (hfile : file.installed = true) :
    readJson file w = .ok (w.json file, w.afterFopen) := by
  have hopened : opened file w.files = w.files.content file := by
    unfold opened
    rw [h.fopens 0 (Nat.succ_ne_zero n).symm]
    rfl
  have hsome : (w.files.content file).isNone = false := by
    rw [Option.isNone_eq_false_iff, Option.isSome_iff_ne_none]
    exact h.present file hfile
  have hsame : { nextFopen w.files with locked := false } = nextFopen w.files := by
    unfold nextFopen
    rw [← h.unlocked]
  apply run_of_wp
  unfold readJson onFiles loadJsonFromFile
  rw [wp_zoom, wp_bind, wp_readData, hopened, hsome, hsame]
  exact ⟨h.unlocked, rfl, rfl⟩

/-- What one write leaves. -/
def World.afterWrite (tree : Json) (file : DaemonFile) (w : World) : World :=
  if w.files.fopenFails 0 then w.afterRefusal else w.storeJson file tree

theorem run_writeJson_of_savesAt (h : SavesAt 0 w.files) (tree : Json)
    (file : DaemonFile) :
    writeJson tree file w =
      .ok (if w.files.fopenFails 0 then -1 else 0, w.afterWrite tree file) := by
  unfold World.afterWrite
  cases hrefused : w.files.fopenFails 0 with
  | false => exact run_writeJson (h.healthy hrefused) tree file
  | true =>
      apply run_of_wp
      unfold writeJson onFiles
      rw [wp_zoom, wp_writeData, if_pos (Or.inl rfl), hrefused, if_pos rfl]
      exact ⟨h.unlocked, rfl, rfl⟩

theorem json_afterWrite (hopens : w.files.fopenFails 0 = false) (tree : Json)
    (file : DaemonFile) : (w.afterWrite tree file).json file = some tree := by
  unfold World.afterWrite
  rw [hopens, if_neg Bool.false_ne_true]
  exact World.json_storeJson_self w file tree

end

namespace Network

open Api
open Foundation.Json

/-!
## Reporting
-/

/-- The call returns a code, that of a success only when the file was written and
now yields the value, so never when the write failed. -/
def TellsOf {α : Type} (set : Daemon (ErrorCode × α)) (stored : World -> α)
    (n : Nat) (w : World) : Prop :=
  wp set (fun out w' => out.1 = .success ->
    w.files.fopenFails n = false ∧ stored w' = out.2) w

/-- Whatever was installed before, the firewall is refreshed from the saved
setting when the write succeeded and left alone when it failed. -/
def RefreshesIff {α : Type} (set : Daemon α) (saved : World -> World)
    (n : Nat) (w : World) : Prop :=
  forall firewall : Firewall,
    (final set { w with firewall := firewall }).firewall =
      if w.files.fopenFails n then firewall
      else (final iptablesRefresh (saved { w with firewall := firewall })).firewall

/-- The value a setter was given, beside its code. -/
def withValue {α : Type} (value : α) (set : Daemon ErrorCode) :
    Daemon (ErrorCode × α) := do
  let err <- set
  return (err, value)

inductive SettingCall where
  | routeCreate (uuid : Nat -> String) (creates : List Route)
  | routeUpdate (updates : List Route)
  | routeDelete (deletes : List Route)
  | lanSet (lan : Lan)
  | wanSet (wan : Wan)
  | dnsDhcpSet (dnsDhcp : Option DnsDhcp)
  | dnatDmzUpdate (iptables : Iptable)
  | dnatForwardingCreate (uuid : Nat -> String) (creates : List Iptable)
  | dnatForwardingUpdate (updates : List Iptable)
  | dnatForwardingDelete (deletes : List Iptable)
  | novaServiceSet (services : List IptableNovaService)

namespace SettingCall

/-- Which `fopen` of the call is the one that saves. -/
def savingFopen : SettingCall -> Nat
  | routeCreate _ _ | routeUpdate _ | routeDelete _ => 1
  | dnatForwardingCreate _ _ | dnatForwardingUpdate _ => 1
  | dnatForwardingDelete _ => 1
  | _ => 0

def Tells (w : World) : SettingCall -> Prop
  | routeCreate uuid creates =>
      TellsOf (Network.routeCreate uuid creates) storedRoutes 1 w
  | routeUpdate updates => TellsOf (Network.routeUpdate updates) storedRoutes 1 w
  | routeDelete deletes => TellsOf (Network.routeDelete deletes) storedRoutes 1 w
  | lanSet lan => TellsOf (withValue lan (Network.lanSet lan)) storedLan 0 w
  | wanSet wan => TellsOf (withValue wan (Network.wanSet wan)) storedWan 0 w
  | dnsDhcpSet dnsDhcp =>
      TellsOf (withValue dnsDhcp (Network.dnsDhcpSet dnsDhcp))
        (fun w' => some (storedDnsDhcp w')) 0 w
  | dnatDmzUpdate iptables =>
      TellsOf (withValue iptables (iptableDnatDmzUpdate iptables)) storedDmz 0 w
  | dnatForwardingCreate uuid creates =>
      TellsOf (iptablesDnatForwardingCreate uuid creates) storedForwarding 1 w
  | dnatForwardingUpdate updates =>
      TellsOf (iptablesDnatForwardingUpdate updates) storedForwarding 1 w
  | dnatForwardingDelete deletes =>
      TellsOf (iptablesDnatForwardingDelete deletes) storedForwarding 1 w
  | novaServiceSet services =>
      TellsOf (withValue services (iptableNovaServiceSet services)) storedNova 0 w

/-- The firewall calls; services that cannot be printed are never written. -/
def Refreshes (w : World) : SettingCall -> Prop
  | dnatDmzUpdate iptables =>
      RefreshesIff (iptableDnatDmzUpdate iptables) (storeDmz iptables) 0 w
  | dnatForwardingCreate uuid creates =>
      RefreshesIff (iptablesDnatForwardingCreate uuid creates)
        (storeForwarding (storedForwarding w ++ createdProfiles uuid creates)) 1 w
  | dnatForwardingUpdate updates =>
      RefreshesIff (iptablesDnatForwardingUpdate updates)
        (storeForwarding (updates.foldl updateProfile (storedForwarding w))) 1 w
  | dnatForwardingDelete deletes =>
      RefreshesIff (iptablesDnatForwardingDelete deletes)
        (storeForwarding (deletes.foldl deleteProfile (storedForwarding w))) 1 w
  | novaServiceSet services =>
      forall tree, cvtIptableNovaServiceListToJson services = some tree ->
        RefreshesIff (iptableNovaServiceSet services)
          (fun w => w.storeJson .iptablesNovaSetting tree) 0 w
  | _ => True

structure Reports (w : World) (call : SettingCall) : Prop where
  tells : call.Tells w
  refreshes : call.Refreshes w

/-- The refresh behind a write that succeeds opens the ports of the stored Nova
services, and it ends when they have port profiles. -/
def RefreshEnds (n : Nat) (w : World) : Prop :=
  w.files.fopenFails n = false -> CarriesPortProfiles (storedNova w)

/-- A configuration is written and survives; the Nova services are never reported
as they should be. -/
def ReportsWhen (w : World) : SettingCall -> Prop
  | dnsDhcpSet dnsDhcp =>
      w.files.fopenFails 0 = false ∧
        exists dns servers dhcp4, dnsDhcp = some (configuration dns servers dhcp4) ∧
          Survives dns servers dhcp4
  | dnatDmzUpdate _ => RefreshEnds 0 w
  | dnatForwardingCreate _ _ => RefreshEnds 1 w
  | dnatForwardingUpdate _ => RefreshEnds 1 w
  | dnatForwardingDelete _ => RefreshEnds 1 w
  | novaServiceSet _ => False
  | _ => True

end SettingCall

/-!
## The savers
-/

section

variable {w : World}

theorem wp_withValue {α : Type} {value : α} {set : Daemon ErrorCode}
    {post : ErrorCode × α -> World -> Prop} :
    wp (withValue value set) post w <->
      wp set (fun err w' => post (err, value) w') w := by
  unfold withValue
  rw [wp_bind]
  exact Iff.rfl

/-- A saver makes its code of what `write_data` returns. -/
theorem run_save_of_savesAt (h : SavesAt 0 w.files) (tree : Json)
    (file : DaemonFile) {code : Int32 -> ErrorCode} {refused saved : ErrorCode}
    (hrefused : code (-1) = refused) (hsaved : code 0 = saved) :
    (writeJson tree file >>= fun ret => pure (code ret)) w =
      .ok (if w.files.fopenFails 0 then refused else saved,
        w.afterWrite tree file) := by
  rw [bind_of_run (run_writeJson_of_savesAt h _ _), ← hrefused, ← hsaved]
  cases w.files.fopenFails 0 <;> rfl

theorem run_routeSave_of_savesAt (h : SavesAt 0 w.files) (routes : List Route) :
    routeSaveToSettingFile routes w =
      .ok (if w.files.fopenFails 0 then .internalServer else .success,
        w.afterWrite (cvtRouteListToJson routes) .routeSetting) :=
  run_save_of_savesAt h _ _ rfl rfl

theorem run_lanSave_of_savesAt (h : SavesAt 0 w.files) (lan : Lan) :
    lanSaveToSettingFile lan w =
      .ok (if w.files.fopenFails 0 then .internalServer else .success,
        w.afterWrite (cvtLanToJson lan) .lanSetting) :=
  run_save_of_savesAt h _ _ rfl rfl

theorem run_wanSave_of_savesAt (h : SavesAt 0 w.files) (wan : Wan) :
    wanSaveToSettingFile wan w =
      .ok (if w.files.fopenFails 0 then .internalServer else .success,
        w.afterWrite (cvtWanToJson wan) .wanSetting) :=
  run_save_of_savesAt h _ _ rfl rfl

theorem run_dmzSave_of_savesAt (h : SavesAt 0 w.files) (iptables : Iptable) :
    iptableDnatDmzSaveToSettingFile iptables w =
      .ok (if w.files.fopenFails 0 then .internalServer else .success,
        w.afterWrite (cvtIptableToJson iptables) .iptablesDnatDmzSetting) :=
  run_save_of_savesAt h _ _ rfl rfl

theorem run_forwardingSave_of_savesAt (h : SavesAt 0 w.files)
    (iptables : List Iptable) :
    iptablesDnatForwardingSaveToSettingFile iptables w =
      .ok (if w.files.fopenFails 0 then .internalServer else .success,
        w.afterWrite (cvtIptableListToJson iptables)
          .iptablesDnatForwardingSetting) :=
  run_save_of_savesAt h _ _ rfl rfl

/-- Here the code is the other way round. -/
theorem run_novaSave_of_savesAt (h : SavesAt 0 w.files)
    {services : List IptableNovaService} {tree : Json}
    (htree : cvtIptableNovaServiceListToJson services = some tree) :
    iptableNovaServiceSaveToSettingFile services w =
      .ok (if w.files.fopenFails 0 then .success else .internalServer,
        w.afterWrite tree .iptablesNovaSetting) := by
  unfold iptableNovaServiceSaveToSettingFile field
  rw [htree]
  exact run_save_of_savesAt h _ _ rfl rfl

theorem run_routeRequest_of_savesAt {n : Nat} (h : SavesAt (n + 1) w.files) :
    routeRequestFromSettingFile w = .ok (storedRoutes w, w.afterFopen) := by
  unfold routeRequestFromSettingFile
  rw [bind_of_run (run_readJson_of_savesAt h rfl)]
  rfl

theorem run_forwardingRequest_of_savesAt {n : Nat} (h : SavesAt (n + 1) w.files) :
    iptablesDnatForwardingRequest w =
      .ok ((.success, storedForwarding w), w.afterFopen) := by
  unfold iptablesDnatForwardingRequest iptableDnatForwardingRequestFromSettingFile
  rw [bind_of_run (run_readJson_of_savesAt h rfl)]
  rfl

/-!
## LAN and WAN
-/

theorem tells_lanSet (h : SavesAt 0 w.files) (lan : Lan) :
    (SettingCall.lanSet lan).Tells w := by
  show TellsOf (withValue lan (lanSet lan)) storedLan 0 w
  unfold TellsOf lanSet appUci
  rw [wp_withValue, wp_bind, wp_modify, wp_bind,
    wp_of_run (run_lanSave_of_savesAt (w := w.runUci (lanCommands lan)) h lan),
    World.files_runUci]
  cases hrefused : w.files.fopenFails 0 with
  | true =>
      intro hsuccess
      cases hsuccess
  | false =>
      intro _
      refine ⟨rfl, ?_⟩
      have hjson := json_afterWrite (w := w.runUci (lanCommands lan)) hrefused
        (cvtLanToJson lan) .lanSetting
      show cvtJsonToLan (World.json (World.afterWrite _ _ _) _) = lan
      rw [hjson, cvtJsonToLan_cvtLanToJson]

theorem tells_wanSet (h : SavesAt 0 w.files) (wan : Wan) :
    (SettingCall.wanSet wan).Tells w := by
  show TellsOf (withValue wan (wanSet wan)) storedWan 0 w
  let staged := w.runUci
    [.set "network.wan.proto" wan.proto, .set "network.wan.ipaddr" wan.ipaddr]
  unfold TellsOf wanSet appUci
  rw [wp_withValue, wp_bind, wp_modify, wp_bind,
    wp_of_run (run_wanSave_of_savesAt (w := staged) h wan), World.files_runUci]
  cases hrefused : w.files.fopenFails 0 with
  | true =>
      intro hsuccess
      cases hsuccess
  | false =>
      intro _
      refine ⟨rfl, ?_⟩
      have hjson := json_afterWrite (w := staged) hrefused (cvtWanToJson wan)
        .wanSetting
      show cvtJsonToWan (World.json (World.afterWrite _ _ _) _) = wan
      rw [hjson, cvtJsonToWan_cvtWanToJson]

/-!
## Routes
-/

/-- What a save of routes leaves when it reports a success. -/
theorem wp_routeSave (h : SavesAt 0 w.files) (routes : List Route) :
    wp (routeSaveToSettingFile routes)
      (fun err w' => err = .success ->
        w.files.fopenFails 0 = false ∧ storedRoutes w' = routes) w := by
  rw [wp_of_run (run_routeSave_of_savesAt h routes)]
  cases hrefused : w.files.fopenFails 0 with
  | true =>
      intro hsuccess
      cases hsuccess
  | false =>
      intro _
      refine ⟨rfl, ?_⟩
      unfold storedRoutes
      rw [json_afterWrite hrefused]
      exact storedRoutes_storeRoutes routes w

/-- The loop over the records accesses no file. -/
theorem wp_routeLoop_files (commands : Route -> List Route -> List IpRouteCommand)
    (edit : Route -> List Route -> List Route) (requests setting : List Route)
    (foundId : Bool) :
    wp (routeLoop commands edit requests setting foundId)
      (fun _ w' => w'.files = w.files) w := by
  apply wp_routeLoop commands edit requests fun _ _ w' => w'.files = w.files
  · intro _ _ _ _ w' hfiles
    exact hfiles
  · rfl

theorem tells_routeCreate (h : SavesAt 1 w.files) (uuid : Nat -> String)
    (creates : List Route) : (SettingCall.routeCreate uuid creates).Tells w := by
  show TellsOf (routeCreate uuid creates) storedRoutes 1 w
  unfold TellsOf routeCreate execlIpRoute
  rw [wp_bind, wp_of_run (run_routeRequest_of_savesAt h), wp_bind, wp_modify,
    wp_bind]
  exact wp_routeSave (w := w.afterFopen.runIpRoute _) h.afterFopen _

theorem tells_routeUpdate (h : SavesAt 1 w.files) (updates : List Route) :
    (SettingCall.routeUpdate updates).Tells w := by
  show TellsOf (routeUpdate updates) storedRoutes 1 w
  unfold TellsOf routeUpdate
  rw [wp_bind, wp_of_run (run_routeRequest_of_savesAt h), wp_bind]
  apply wp_mono _ (wp_routeLoop_files _ _ _ _ _)
  intro out w' hfiles
  have hsaves : SavesAt 0 w'.files := by
    rw [hfiles]
    exact h.afterFopen
  rw [wp_ite]
  split
  · rw [wp_bind]
    apply wp_mono _ (wp_routeSave hsaves out.1)
    intro err w'' hsaved
    rw [hfiles] at hsaved
    exact hsaved
  · intro hsuccess
    cases hsuccess

theorem tells_routeDelete (h : SavesAt 1 w.files) (deletes : List Route) :
    (SettingCall.routeDelete deletes).Tells w := by
  show TellsOf (routeDelete deletes) storedRoutes 1 w
  unfold TellsOf routeDelete
  rw [wp_bind, wp_of_run (run_routeRequest_of_savesAt h), wp_bind]
  apply wp_mono _ (wp_routeLoop_files _ _ _ _ _)
  intro out w' hfiles
  have hsaves : SavesAt 0 w'.files := by
    rw [hfiles]
    exact h.afterFopen
  rw [wp_bind]
  apply wp_mono _ (wp_routeSave hsaves _)
  intro err w'' hsaved
  rw [hfiles] at hsaved
  rw [wp_ite]
  split
  · exact hsaved
  · rename_i hsuccess
    intro _
    exact hsaved (not_not.mp hsuccess)

/-!
## The firewall

The refresh starts by erasing whatever was installed, so what it leaves does not
depend on that.
-/

theorem final_bind_pure {α β : Type} (program : Daemon α) (next : α -> Daemon β)
    (hnext : forall value v, final (next value) v = v) (w : World) :
    final (program >>= next) w = final program w := by
  cases final_bind_cases program next w with
  | inl hend => exact hend
  | inr hsome =>
      rcases hsome with ⟨value, _, hend⟩
      rw [hend, hnext]

theorem final_untilError_single (step : Daemon ErrorCode) (w : World) :
    final (untilError [step]) w = final step w := by
  apply final_bind_pure
  intro err v
  show final (if err ≠ .success then pure err else pure .success) v = v
  split <;> rfl

/-- The steps after one that returned a code. -/
theorem final_untilError_of_run {step : Daemon ErrorCode} {err : ErrorCode}
    {w' : World} (hrun : step w = .ok (err, w')) (rest : List (Daemon ErrorCode)) :
    final (untilError (step :: rest)) w =
      if err = .success then final (untilError rest) w' else w' := by
  show final (step >>= fun err => if err ≠ .success then pure err
    else untilError rest) w = _
  rw [final_bind_of_run hrun]
  by_cases hsuccess : err = .success
  · rw [if_neg (not_not.mpr hsuccess), if_pos hsuccess]
  · rw [if_pos hsuccess, if_neg hsuccess]
    rfl

theorem final_iptablesRefresh_firewall (w : World) (firewall other : Firewall) :
    final iptablesRefresh { w with firewall := firewall } =
      final iptablesRefresh { w with firewall := other } := by
  have hdefault : forall installed : Firewall,
      iptablesDefaultSetting { w with firewall := installed } =
        .ok (.success, { w with firewall :=
          Firewall.accepting.run (iptablesDefaultSettingList.drop 9) }) := by
    intro installed
    rw [← Firewall.run_iptablesDefaultSettingList installed]
    rfl
  unfold iptablesRefresh
  rw [final_untilError_of_run (hdefault firewall),
    final_untilError_of_run (hdefault other)]

/-- Saving, then refreshing if the saver reports a success. -/
theorem wp_saveThenRefresh (h : SavesAt 0 w.files) {save : Daemon ErrorCode}
    {tree : Json} {file : DaemonFile}
    (hsave : save w = .ok
      (if w.files.fopenFails 0 then .internalServer else .success,
        w.afterWrite tree file))
    (hnova : storedNova (w.storeJson file tree) = storedNova w)
    (post : ErrorCode -> World -> Prop) :
    wp (untilError [save, iptablesRefresh]) post w <->
      if w.files.fopenFails 0 then post .internalServer w.afterRefusal
      else CarriesPortProfiles (storedNova w) ∧
        post .success (refreshed (w.storeJson file tree)) := by
  rw [wp_untilError_cons, wp_of_run hsave]
  unfold World.afterWrite
  cases hrefused : w.files.fopenFails 0 with
  | true => exact Iff.rfl
  | false =>
      rw [if_neg Bool.false_ne_true, if_neg (by simp), wp_untilError_cons]
      simp only [if_neg Bool.false_ne_true]
      rw [wp_iptablesRefresh ((h.healthy hrefused).store _ _), hnova]
      exact Iff.rfl

theorem final_saveThenRefresh {save : Daemon ErrorCode} {tree : Json}
    {file : DaemonFile}
    (hsave : save w = .ok
      (if w.files.fopenFails 0 then .internalServer else .success,
        w.afterWrite tree file)) :
    final (untilError [save, iptablesRefresh]) w =
      if w.files.fopenFails 0 then w.afterRefusal
      else final iptablesRefresh (w.storeJson file tree) := by
  rw [final_untilError_of_run hsave]
  unfold World.afterWrite
  cases w.files.fopenFails 0 with
  | true => rfl
  | false => exact final_untilError_single _ _

theorem tells_dnatDmzUpdate_iff (h : SavesAt 0 w.files) (iptables : Iptable) :
    (SettingCall.dnatDmzUpdate iptables).Tells w <->
      (SettingCall.dnatDmzUpdate iptables).ReportsWhen w := by
  show TellsOf (withValue iptables (iptableDnatDmzUpdate iptables)) storedDmz 0 w <->
    SettingCall.RefreshEnds 0 w
  unfold TellsOf SettingCall.RefreshEnds iptableDnatDmzUpdate
  rw [wp_withValue, wp_saveThenRefresh h (run_dmzSave_of_savesAt h iptables)
    (storedNova_storeDmz iptables)]
  cases w.files.fopenFails 0 with
  | true => simp
  | false =>
      have hstored : storedDmz (refreshed (w.storeJson .iptablesDnatDmzSetting
          (cvtIptableToJson iptables))) = iptables := storedDmz_storeDmz iptables
      simp [hstored]

theorem refreshes_dnatDmzUpdate (h : SavesAt 0 w.files) (iptables : Iptable) :
    (SettingCall.dnatDmzUpdate iptables).Refreshes w := by
  intro firewall
  have hsave := run_dmzSave_of_savesAt
    (w := { w with firewall := firewall }) h iptables
  show (final (untilError _) _).firewall = _
  rw [final_saveThenRefresh hsave]
  cases w.files.fopenFails 0 <;> rfl

theorem wp_saveForwarding_of_savesAt (h : SavesAt 0 w.files) (iptables : List Iptable)
    (post : ErrorCode -> World -> Prop) :
    wp (saveForwarding iptables) post w <->
      if w.files.fopenFails 0 then post .internalServer w.afterRefusal
      else CarriesPortProfiles (storedNova w) ∧
        post .success (refreshed (storeForwarding iptables w)) :=
  wp_saveThenRefresh h (run_forwardingSave_of_savesAt h iptables)
    (storedNova_storeForwarding iptables) post

/-- What follows the save returns the list, and a success only after one. -/
theorem wp_reported_iff (h : SavesAt 0 w.files) (iptables : List Iptable)
    {next : ErrorCode -> Daemon (ErrorCode × List Iptable)}
    (hnext : forall err v, exists code, next err v = .ok ((code, iptables), v) ∧
      (code = .success -> err = .success)) :
    wp (saveForwarding iptables >>= next)
        (fun out w' => out.1 = .success ->
          w.files.fopenFails 0 = false ∧ storedForwarding w' = out.2) w <->
      SettingCall.RefreshEnds 0 w := by
  have hstored : storedForwarding (refreshed (storeForwarding iptables w)) = iptables :=
    storedForwarding_storeForwarding iptables
  unfold SettingCall.RefreshEnds
  rw [wp_bind, wp_saveForwarding_of_savesAt h]
  cases w.files.fopenFails 0 with
  | true =>
      rcases hnext .internalServer w.afterRefusal with ⟨code, hrun, hcode⟩
      rw [if_pos rfl, wp_of_run hrun]
      exact iff_of_true (fun hsuccess => nomatch hcode hsuccess) fun hopens => nomatch hopens
  | false =>
      rcases hnext .success (refreshed (storeForwarding iptables w)) with ⟨code, hrun, _⟩
      rw [if_neg Bool.false_ne_true, wp_of_run hrun, forall_prop_of_true rfl]
      exact and_iff_left fun _ => ⟨rfl, hstored⟩

/-- What an update and a deletion end with. -/
def reportFound (iptables : List Iptable) (found : Bool) (err : ErrorCode) :
    Daemon (ErrorCode × List Iptable) :=
  if err ≠ .success then pure (err, iptables)
  else if found then pure (.success, iptables)
  else pure (.idMismatched, iptables)

theorem exists_reportFound (iptables : List Iptable) (found : Bool) (err : ErrorCode)
    (v : World) :
    exists code, reportFound iptables found err v = .ok ((code, iptables), v) ∧
      (code = .success -> err = .success) := by
  unfold reportFound
  split
  · exact ⟨err, rfl, id⟩
  · rename_i hsuccess
    cases found with
    | true => exact ⟨.success, rfl, fun _ => not_not.mp hsuccess⟩
    | false => exact ⟨.idMismatched, rfl, fun hfound => nomatch hfound⟩

theorem final_reportFound (iptables : List Iptable) (found : Bool)
    (err : ErrorCode) (v : World) : final (reportFound iptables found err) v = v := by
  rcases exists_reportFound iptables found err v with ⟨code, hrun, _⟩
  exact final_of_run hrun

theorem tells_dnatForwardingCreate_iff (h : SavesAt 1 w.files) (uuid : Nat -> String)
    (creates : List Iptable) :
    (SettingCall.dnatForwardingCreate uuid creates).Tells w <->
      SettingCall.RefreshEnds 1 w := by
  show TellsOf (iptablesDnatForwardingCreate uuid creates) storedForwarding 1 w <-> _
  unfold TellsOf iptablesDnatForwardingCreate
  rw [wp_bind, wp_of_run (run_forwardingRequest_of_savesAt h)]
  exact wp_reported_iff h.afterFopen _ fun err _ => ⟨err, rfl, id⟩

theorem tells_dnatForwardingUpdate_iff (h : SavesAt 1 w.files)
    (updates : List Iptable) :
    (SettingCall.dnatForwardingUpdate updates).Tells w <->
      SettingCall.RefreshEnds 1 w := by
  show TellsOf (iptablesDnatForwardingUpdate updates) storedForwarding 1 w <-> _
  unfold TellsOf iptablesDnatForwardingUpdate
  rw [wp_bind, wp_of_run (run_forwardingRequest_of_savesAt h)]
  exact wp_reported_iff h.afterFopen _ (exists_reportFound _ _)

theorem tells_dnatForwardingDelete_iff (h : SavesAt 1 w.files)
    (deletes : List Iptable) :
    (SettingCall.dnatForwardingDelete deletes).Tells w <->
      SettingCall.RefreshEnds 1 w := by
  show TellsOf (iptablesDnatForwardingDelete deletes) storedForwarding 1 w <-> _
  unfold TellsOf iptablesDnatForwardingDelete
  rw [wp_bind, wp_of_run (run_forwardingRequest_of_savesAt h)]
  exact wp_reported_iff h.afterFopen _ (exists_reportFound _ _)

/-- What a call does to the firewall that saves the forwarding list and ends. -/
theorem refreshesIff_of_saveForwarding (h : SavesAt 1 w.files) {α : Type}
    {set : Daemon α} {iptables : List Iptable} {next : ErrorCode -> Daemon α}
    (hset : forall firewall : Firewall,
      final set { w with firewall := firewall } =
        final (saveForwarding iptables >>= next)
          (World.afterFopen { w with firewall := firewall }))
    (hnext : forall err v, final (next err) v = v) :
    RefreshesIff set (storeForwarding iptables) 1 w := by
  intro firewall
  have hsave := run_forwardingSave_of_savesAt
    (w := World.afterFopen { w with firewall := firewall }) h.afterFopen iptables
  rw [hset, final_bind_pure _ _ hnext]
  show (final (untilError _) _).firewall = _
  rw [final_saveThenRefresh hsave]
  show World.firewall (if w.files.fopenFails 1 then _ else _) = _
  cases hrefused : w.files.fopenFails 1 with
  | true => rfl
  | false =>
      have hsame : World.afterFopen { w with firewall := firewall } =
          { w with firewall := firewall } := by
        unfold World.afterFopen
        rw [nextFopen_eq (h.healthy hrefused).fopens]
      rw [hsame]
      rfl

theorem refreshes_dnatForwardingCreate (h : SavesAt 1 w.files)
    (uuid : Nat -> String) (creates : List Iptable) :
    (SettingCall.dnatForwardingCreate uuid creates).Refreshes w := by
  let iptables := storedForwarding w ++ createdProfiles uuid creates
  have hset : forall firewall : Firewall,
      final (iptablesDnatForwardingCreate uuid creates)
          { w with firewall := firewall } =
        final (saveForwarding iptables >>= fun err => pure (err, iptables))
          (World.afterFopen { w with firewall := firewall }) := by
    intro firewall
    unfold iptablesDnatForwardingCreate
    rw [final_bind_of_run (run_forwardingRequest_of_savesAt
      (w := { w with firewall := firewall }) h)]
    rfl
  exact refreshesIff_of_saveForwarding h hset fun _ _ => rfl

theorem refreshes_dnatForwardingUpdate (h : SavesAt 1 w.files)
    (updates : List Iptable) :
    (SettingCall.dnatForwardingUpdate updates).Refreshes w := by
  have hset : forall firewall : Firewall,
      final (iptablesDnatForwardingUpdate updates) { w with firewall := firewall } =
        final (saveForwarding (updates.foldl updateProfile (storedForwarding w)) >>=
          reportFound (updates.foldl updateProfile (storedForwarding w))
            (findsProfile updateProfile updates (storedForwarding w)))
          (World.afterFopen { w with firewall := firewall }) := by
    intro firewall
    unfold iptablesDnatForwardingUpdate
    rw [final_bind_of_run (run_forwardingRequest_of_savesAt
      (w := { w with firewall := firewall }) h)]
    rfl
  exact refreshesIff_of_saveForwarding h hset (final_reportFound _ _)

theorem refreshes_dnatForwardingDelete (h : SavesAt 1 w.files)
    (deletes : List Iptable) :
    (SettingCall.dnatForwardingDelete deletes).Refreshes w := by
  have hset : forall firewall : Firewall,
      final (iptablesDnatForwardingDelete deletes) { w with firewall := firewall } =
        final (saveForwarding (deletes.foldl deleteProfile (storedForwarding w)) >>=
          reportFound (deletes.foldl deleteProfile (storedForwarding w))
            (findsProfile deleteProfile deletes (storedForwarding w)))
          (World.afterFopen { w with firewall := firewall }) := by
    intro firewall
    unfold iptablesDnatForwardingDelete
    rw [final_bind_of_run (run_forwardingRequest_of_savesAt
      (w := { w with firewall := firewall }) h)]
    rfl
  exact refreshesIff_of_saveForwarding h hset (final_reportFound _ _)

/-!
## Nova services
-/

/-- Services that are printed: written, they are not installed, and refused,
they are. -/
theorem not_refreshes_novaServiceSet (h : SavesAt 0 w.files)
    {services : List IptableNovaService} (hcarries : CarriesPortProfiles services) :
    ¬ (SettingCall.novaServiceSet services).Refreshes w := by
  intro hrefreshes
  rcases cvtIptableNovaServiceListToJson_of_carries hcarries with ⟨tree, htree⟩
  have hall := hrefreshes tree htree
  let open_ : Firewall := Firewall.accepting
  let shut : Firewall := { Firewall.accepting with policy := fun _ => .drop }
  have hne : open_ ≠ shut := by
    intro heq
    have hpolicy := congrFun (congrArg Firewall.policy heq) .input
    cases hpolicy
  have hends : forall firewall : Firewall,
      final (iptableNovaServiceSet services) { w with firewall := firewall } =
        if w.files.fopenFails 0 then
          final iptablesRefresh (World.afterRefusal { w with firewall := firewall })
        else World.storeJson { w with firewall := firewall } .iptablesNovaSetting
          tree := by
    intro firewall
    have hsave := run_novaSave_of_savesAt (w := { w with firewall := firewall })
      h htree
    unfold iptableNovaServiceSet
    rw [final_untilError_of_run hsave]
    unfold World.afterWrite
    show (if (if w.files.fopenFails 0 then _ else _) = _ then _ else
      if w.files.fopenFails 0 then _ else _) = _
    cases w.files.fopenFails 0 with
    | true =>
        rw [if_pos rfl, if_pos rfl, if_pos rfl, if_pos rfl]
        exact final_untilError_single _ _
    | false => rfl
  have hopen := hall open_
  have hshut := hall shut
  rw [hends] at hopen hshut
  cases hrefused : w.files.fopenFails 0 with
  | true =>
      rw [hrefused, if_pos rfl, if_pos rfl] at hopen hshut
      have hsame := final_iptablesRefresh_firewall w.afterRefusal open_ shut
      apply hne
      rw [← hopen, ← hshut]
      exact congrArg World.firewall hsame
  | false =>
      rw [hrefused, if_neg Bool.false_ne_true, if_neg Bool.false_ne_true]
        at hopen hshut
      have hsame := final_iptablesRefresh_firewall
        (w.storeJson .iptablesNovaSetting tree) open_ shut
      apply hne
      exact hopen.trans ((congrArg World.firewall hsame).trans hshut.symm)

/-- Services that are not printed end the setter before it returns. -/
theorem not_tells_novaServiceSet {services : List IptableNovaService}
    (hnot : ¬ CarriesPortProfiles services) :
    ¬ (SettingCall.novaServiceSet services).Tells w := by
  have hnone := (cvtIptableNovaServiceListToJson_eq_none_iff services).mpr hnot
  show ¬ TellsOf (withValue services (iptableNovaServiceSet services)) storedNova 0 w
  unfold TellsOf iptableNovaServiceSet iptableNovaServiceSaveToSettingFile field
  rw [wp_withValue, wp_untilError_cons, hnone, wp_bind, wp_deref]
  rintro ⟨tree, htree, _⟩
  cases htree

/-!
## DNS and DHCP
-/

theorem wlp_dnsDhcpSave (h : SavesAt 0 w.files) (config : DnsDhcp) :
    wlp (dnsDhcpSaveToSettingFile (some config))
      (fun _ w' => w' =
        w.afterWrite (cvtDnsDhcpToJson config) .dhcpSetting) w := by
  unfold dnsDhcpSaveToSettingFile encodeDnsDhcp field
  rw [wlp_bind, wlp_bind, wlp_deref]
  intro value hvalue
  cases hvalue
  rw [wlp_ite]
  split
  · rw [wlp_pure, wlp_bind, wlp_of_run (run_writeJson_of_savesAt h _ _)]
    rfl
  · exact trivial

/-- A configuration that is applied is reported as a success, whatever the
write returned. -/
theorem wlp_dnsDhcpSet (h : SavesAt 0 w.files) (config : DnsDhcp) :
    wlp (dnsDhcpSet (some config))
      (fun err w' => err = .success ∧
        w'.json .dhcpSetting =
          (w.afterWrite (cvtDnsDhcpToJson config) .dhcpSetting).json
            .dhcpSetting) w := by
  unfold dnsDhcpSet
  rw [wlp_bind]
  apply wlp_mono _ (wlp_dnsDhcpSave h config)
  intro _ saved hsaved
  rw [hsaved]
  show wlp (dnsSet config.dns >>= fun err =>
      if err ≠ .success then pure err
      else dhcp4Set config.dhcp4 >>= fun err =>
        if err ≠ .success then pure err
        else appUci [.commit "dhcp"] >>= fun _ => pure .success) _ _
  rw [wlp_bind]
  have hdns : Respects (Beside []) (dnsSet config.dns) := respects_dnsSet _
  apply wlp_mono _ (wlp_and (success_of_dnsSet config.dns) (hdns.wlp _))
  intro err w' hafter
  rw [hafter.1, if_neg (by simp)]
  unfold dhcp4Set field appUci
  rw [wlp_bind, wlp_bind, wlp_deref]
  intro dhcp4 _
  rw [wlp_bind, wlp_modify, wlp_pure, if_neg (by simp), wlp_bind, wlp_modify,
    wlp_pure]
  refine ⟨rfl, ?_⟩
  rw [World.json_runUci, World.json_runUci, hafter.2.json_eq List.not_mem_nil]

/-- A configuration that can be applied and comes back is one that survives. -/
theorem survives_of_applicable {config : DnsDhcp} (happlicable : Applicable config)
    (hsame : cvtJsonToDnsDhcp (some (cvtDnsDhcpToJson config)) = config) :
    exists dns servers dhcp4, config = configuration dns servers dhcp4 ∧
      Survives dns servers dhcp4 := by
  rcases happlicable.dns with ⟨dns, hdns, _, _⟩
  rcases Option.ne_none_iff_exists'.mp happlicable.dhcp4 with ⟨dhcp4, hdhcp4⟩
  have hread : (cvtJsonToDnsDhcp (some (cvtDnsDhcpToJson config))).dns =
      cvtJsonToDns (some (cvtDnsToJson dns)) := by
    simp [cvtJsonToDnsDhcp, cvtDnsDhcpToJson, hdns]
  rw [hsame, hdns, cvtJsonToDns_cvtDnsToJson] at hread
  split at hread
  · cases hread
  · have hservers : .servers (stringArray dns.forwardingDns.toJson) =
        dns.forwardingDns :=
      (congrArg Dns.forwardingDns (Option.some_inj.mp hread)).symm
    have hconfig : config = configuration dns
        (stringArray dns.forwardingDns.toJson) dhcp4 := by
      unfold configuration
      rw [hservers]
      show config = { dns := some dns, dhcp4 := some dhcp4 }
      rw [← hdns, ← hdhcp4]
    refine ⟨dns, _, dhcp4, hconfig, ?_⟩
    rw [← cvtJsonToDnsDhcp_configuration_iff, ← hconfig]
    exact hsame

theorem Survives.applicable {dns : Dns} {servers : List (Option String)} {dhcp4 : Dhcp4}
    (h : Survives dns servers dhcp4) : Applicable (configuration dns servers dhcp4) where
  readable := rfl
  dns := ⟨_, rfl, h.additional, fun _ => Option.some_ne_none servers⟩
  dhcp4 := Option.some_ne_none dhcp4

theorem tells_dnsDhcpSet_iff (h : SavesAt 0 w.files) (dnsDhcp : Option DnsDhcp) :
    (SettingCall.dnsDhcpSet dnsDhcp).Tells w <->
      (SettingCall.dnsDhcpSet dnsDhcp).ReportsWhen w := by
  show TellsOf (withValue dnsDhcp (dnsDhcpSet dnsDhcp))
    (fun w' => some (storedDnsDhcp w')) 0 w <-> _
  unfold TellsOf
  rw [wp_withValue]
  cases dnsDhcp with
  | none =>
      apply iff_of_false
      · rw [wp_iff]
        rintro ⟨err, w', hrun, _⟩
        cases hrun
      · rintro ⟨_, dns, servers, dhcp4, hconfig, _⟩
        cases hconfig
  | some config =>
      have hreturns := returns_dnsDhcpSet_of_write
        (run_writeJson_of_savesAt h (cvtDnsDhcpToJson config) .dhcpSetting)
      have hafter := wlp_dnsDhcpSet h config
      constructor
      · intro htells
        have happlicable : Applicable config :=
          hreturns.mp (wp_mono (fun _ _ _ => trivial) htells)
        rcases wp_iff.mp (wp_and_wlp htells hafter) with
          ⟨err, w', _, htold, hsuccess, hjson⟩
        rcases htold hsuccess with ⟨hopens, hstored⟩
        rw [json_afterWrite hopens] at hjson
        have hsame : cvtJsonToDnsDhcp (some (cvtDnsDhcpToJson config)) = config := by
          rw [← hjson]
          exact Option.some_inj.mp hstored
        rcases survives_of_applicable happlicable hsame with
          ⟨dns, servers, dhcp4, hconfig, hsurvives⟩
        exact ⟨hopens, dns, servers, dhcp4, congrArg some hconfig, hsurvives⟩
      · rintro ⟨hopens, dns, servers, dhcp4, hconfig, hsurvives⟩
        cases hconfig
        apply wp_mono _ (wp_and_wlp (hreturns.mpr hsurvives.applicable) hafter)
        rintro err w' ⟨_, _, hjson⟩ _
        rw [json_afterWrite hopens] at hjson
        refine ⟨hopens, congrArg some ?_⟩
        unfold storedDnsDhcp
        rw [hjson]
        exact (cvtJsonToDnsDhcp_configuration_iff dns servers dhcp4).mpr hsurvives

/-!
## All setters
-/

end

theorem savesAt_installed (n : Nat) : SavesAt n World.installed.files where
  unlocked := rfl
  fopens := fun _ _ => rfl
  present := healthy_installed.present

def sshService : IptableNovaService where
  name := some "ssh"
  portProfiles := some
    [{ portRange := some "22", protocol := some "tcp", enable := true }]

end Network
end Noc
