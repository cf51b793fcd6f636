import Noc.Mesh.RunMode

/-!
# The mutex after a call

Each of the calls ends in a write.  Where no `fopen` is refused, a call that
returns has got that far, and the write frees the mutex.
-/

namespace Noc
namespace Mesh

open Api
open Config
open Foundation
open Foundation.Exec
open Network
open Utils

/-!
## No open is refused
-/

def OpensSucceed (fs : FileState DaemonFile) : Prop :=
  forall n, fs.fopenFails n = false

def OpensStay (fs fs' : FileState DaemonFile) : Prop :=
  OpensSucceed fs -> OpensSucceed fs'

instance : IsPreorder (FileState DaemonFile) OpensStay where
  refl _ := id
  trans _ _ _ h h' := h' ∘ h

/-- No more opens are refused than before. -/
def KeepsOpens (w w' : World) : Prop :=
  OpensStay w.files w'.files

instance : IsPreorder World KeepsOpens where
  refl _ := id
  trans _ _ _ h h' := h' ∘ h

theorem opensStay_lock : Respects OpensStay lock := by
  refine respects_bind respects_read ?_
  intro fs
  exact respects_ite (respects_fail _) (respects_modify fun _ => id)

theorem opensStay_nextFopen (fs : FileState DaemonFile) :
    OpensStay fs (nextFopen fs) :=
  fun h n => h (n + 1)

theorem opensStay_fopenRead (file : DaemonFile) :
    Respects OpensStay (fopenRead file) :=
  respects_bind respects_read fun _ =>
    respects_bind (respects_modify opensStay_nextFopen) fun _ =>
      respects_pure _

theorem opensStay_fopenWrite : Respects OpensStay fopenWrite :=
  respects_bind respects_read fun _ =>
    respects_bind (respects_modify opensStay_nextFopen) fun _ =>
      respects_pure _

theorem opensStay_readData (file : DaemonFile) :
    Respects OpensStay (readData file) := by
  refine respects_bind opensStay_lock ?_
  intro _
  refine respects_bind (opensStay_fopenRead file) ?_
  intro body
  cases body with
  | none => exact respects_pure _
  | some body =>
      exact respects_bind (respects_modify fun _ => id) fun _ =>
        respects_pure _

theorem opensStay_checkFileExist (file : DaemonFile) :
    Respects OpensStay (checkFileExist file) := by
  refine respects_bind opensStay_lock ?_
  intro _
  refine respects_bind (opensStay_fopenRead file) ?_
  intro body
  cases body with
  | none => exact respects_pure _
  | some body =>
      exact respects_bind (respects_modify fun _ => id) fun _ =>
        respects_pure _

theorem opensStay_writeData (data : Body) (file : DaemonFile) (mode : Int32) :
    Respects OpensStay (writeData data file mode) := by
  refine respects_bind opensStay_lock ?_
  intro _
  refine respects_ite ?_ (respects_pure _)
  refine respects_bind opensStay_fopenWrite ?_
  intro isOpen
  refine respects_ite ?_ (respects_pure _)
  refine respects_bind respects_read ?_
  intro fs
  exact respects_bind (respects_modify fun _ => id) fun _ =>
    respects_bind (respects_modify fun _ => id) fun _ => respects_pure _

theorem keepsOpens_onFiles {α : Type}
    {program : Exec (FileState DaemonFile) Fault α}
    (h : Respects OpensStay program) :
    Respects KeepsOpens (onFiles program) := by
  intro w
  unfold onFiles
  rw [final_zoom]
  exact h w.files

instance : KeptByHelpers KeepsOpens modeFiles where
  readJson _ := keepsOpens_onFiles
    (respects_bind (opensStay_readData _) fun _ => respects_pure _)
  readLines _ := by
    apply keepsOpens_onFiles
    refine respects_bind (opensStay_readData _) ?_
    intro body
    cases body with
    | none => exact respects_pure _
    | some body => exact respects_pure _
  checkFileExist _ := keepsOpens_onFiles (opensStay_checkFileExist _)
  execlIptables _ := respects_modify fun _ => id
  writeData _ body _ _ := keepsOpens_onFiles (opensStay_writeData body _ _)
  rewrite _ _ := by
    apply keepsOpens_onFiles
    refine respects_bind opensStay_fopenWrite ?_
    intro isOpen
    exact respects_ite (respects_modify fun _ => id) (respects_fail _)
  remove _ _ := keepsOpens_onFiles (respects_modify fun _ => id)

instance : KeptByUci KeepsOpens where
  appUci _ := respects_modify fun _ => id

/-!
## Programs that end in a write
-/

/-- The files are not accessed. -/
def SameFiles (w w' : World) : Prop :=
  w'.files = w.files

instance : IsPreorder World SameFiles where
  refl _ := rfl
  trans _ _ _ h h' := Eq.trans h' h

instance : KeptByUci SameFiles where
  appUci _ := respects_modify fun _ => rfl

/-- Where no open is refused, the mutex is free when the program returns. -/
def EndsFree {α : Type} (program : Daemon α) : Prop :=
  forall w, OpensSucceed w.files ->
    wlp program (fun _ w' => w'.files.locked = false) w

section

variable {α β : Type} {program : Daemon α} {next : α -> Daemon β}

theorem endsFree_bind (hprogram : Respects KeepsOpens program)
    (hnext : forall value, EndsFree (next value)) :
    EndsFree (program >>= next) := by
  intro w hw
  rw [wlp_bind]
  exact wlp_mono (fun value w' hkeeps => hnext value w' (hkeeps hw))
    (hprogram.wlp w)

theorem endsFree_then (hprogram : EndsFree program)
    (hnext : forall value, Respects SameFiles (next value)) :
    EndsFree (program >>= next) := by
  intro w hw
  rw [wlp_bind]
  refine wlp_mono ?_ (hprogram w hw)
  intro value w' hfree
  refine wlp_mono ?_ ((hnext value).wlp w')
  intro _ w'' hsame
  rw [hsame]
  exact hfree

end

theorem endsFree_writeData (body : Body) (file : DaemonFile) :
    EndsFree (onFiles (writeData body file truncateMode)) := by
  intro w hw
  unfold onFiles
  rw [wlp_zoom, wlp_iff]
  intro ret fs' hrun
  have hends := (wp_writeData body file truncateMode (fun _ fs => fs = fs')
    w.files).mp ((wp_of_run hrun _).mpr rfl)
  rw [if_pos (Or.inl rfl), hw 0, if_neg Bool.false_ne_true] at hends
  show fs'.locked = false
  rw [← hends.2]

theorem endsFree_save (tree : Json) (file : DaemonFile)
    {rest : Daemon ErrorCode} (hrest : Respects SameFiles rest) :
    EndsFree ((writeJson tree file >>= fun ret =>
        pure (if ret = -1 then ErrorCode.internalServer else .success)) >>=
      fun err => if err ≠ .success then pure err else rest) := by
  have hsave : EndsFree (writeJson tree file >>= fun ret =>
      (pure (if ret = -1 then ErrorCode.internalServer else .success) :
        Daemon ErrorCode)) :=
    endsFree_then (endsFree_writeData _ _) fun _ => respects_pure _
  exact endsFree_then hsave fun _ => respects_ite (respects_pure _) hrest

theorem sameFiles_commit (package : String) :
    Respects SameFiles (appUci [.commit package] >>= fun _ =>
      (pure .success : Daemon ErrorCode)) :=
  respects_bind (respects_appUci _) fun _ => respects_pure _

/-!
## The calls
-/

theorem endsFree_lanSet (lan : Lan) : EndsFree (lanSet lan) :=
  endsFree_bind (respects_appUci _) fun _ =>
    endsFree_save _ _ (sameFiles_commit "network")

theorem endsFree_wanSet (wan : Wan) : EndsFree (wanSet wan) :=
  endsFree_bind (respects_appUci _) fun _ =>
    endsFree_save _ _ (sameFiles_commit "network")

theorem endsFree_dnsDhcpSet (dnsDhcp : Option DnsDhcp) :
    EndsFree (dnsDhcpSet dnsDhcp) := by
  have hsave : EndsFree (dnsDhcpSaveToSettingFile dnsDhcp) :=
    endsFree_bind (respects_encodeDnsDhcp _) fun _ =>
      endsFree_then (endsFree_writeData _ _) fun _ => respects_pure _
  refine endsFree_then hsave ?_
  intro _
  refine respects_bind (respects_deref _ _) ?_
  intro config
  refine respects_bind (respects_dnsSet _) ?_
  intro err
  refine respects_ite (respects_pure _) ?_
  refine respects_bind (respects_dhcp4Set _) ?_
  intro err
  exact respects_ite (respects_pure _) (sameFiles_commit "dhcp")

theorem endsFree_networkInit : EndsFree networkInit := by
  have hread : wanReloadFromSettingFile =
      readJson .wanSetting >>= fun json => wanSet (cvtJsonToWan json) := by
    show ((readJson .wanSetting >>= fun json =>
      pure (ErrorCode.success, cvtJsonToWan json)) >>= _) = _
    rw [bind_bind]
    rfl
  have hwan : EndsFree wanReloadFromSettingFile := by
    rw [hread]
    exact endsFree_bind (respects_readJson rfl) fun _ => endsFree_wanSet _
  exact endsFree_bind (respects_dnsDhcpReloadFromSettingFile (by decide))
    fun _ =>
    endsFree_bind respects_iptablesRefresh fun _ =>
    endsFree_bind (respects_lanReloadFromSettingFile (by decide)) fun _ =>
    endsFree_then hwan fun _ => respects_pure _

theorem keepsOpens_enter (mode : WorkMode) :
    Respects KeepsOpens (enter mode) :=
  respects_modify fun _ => id

theorem keepsOpens_networkInit : Respects KeepsOpens networkInit :=
  respects_networkInit (by decide) (by decide) (by decide)

theorem endsFree_runStandaloneMode (env : Surroundings) :
    EndsFree (runStandaloneMode env) := by
  have hpublisher : EndsFree (mdnsCreatePublisher env) :=
    endsFree_bind (respects_getCurrentDeviceInfo env) fun _ =>
      endsFree_then (endsFree_writeData _ _) fun _ => respects_pure _
  exact endsFree_bind (keepsOpens_enter _) fun _ =>
    endsFree_bind (respects_dropMqttBridgeClient (by decide)) fun _ =>
    endsFree_bind (respects_dropMqttBridgeServer (by decide)) fun _ =>
    endsFree_bind (respects_appUci _) fun _ =>
    endsFree_bind keepsOpens_networkInit fun _ =>
    endsFree_bind (respects_appUci _) fun _ => hpublisher

theorem endsFree_runAgentMode (env : Surroundings) :
    EndsFree (runAgentMode env) :=
  endsFree_bind (keepsOpens_enter _) fun _ =>
    endsFree_bind (respects_dropMqttBridgeServer (by decide)) fun _ =>
    endsFree_bind (respects_ensureMqttBridgeClient (by decide)) fun _ =>
    endsFree_bind (respects_mdnsRemovePublisher (by decide) rfl) fun _ =>
    endsFree_bind (respects_mdnsRemovePublisher (by decide) rfl) fun _ =>
    endsFree_then endsFree_networkInit fun _ =>
      respects_bind (respects_appUci _) fun _ => respects_waitForDeamon env

theorem endsFree_runControllerMode (env : Surroundings) :
    EndsFree (runControllerMode env) := by
  have hdevices : forall devices, EndsFree (setDeviceListToFile devices) := by
    intro devices
    apply endsFree_bind
    · exact respects_bind (respects_readJson rfl) fun _ => respects_pure _
    · intro current
      exact endsFree_then (endsFree_writeData _ _) fun _ => respects_pure _
  exact endsFree_bind (keepsOpens_enter _) fun _ =>
    endsFree_bind (respects_dropMqttBridgeClient (by decide)) fun _ =>
    endsFree_bind (respects_ensureMqttBridgeServer (by decide)) fun _ =>
    endsFree_bind (respects_mdnsRemovePublisher (by decide) rfl) fun _ =>
    endsFree_bind (respects_mdnsRemovePublisher (by decide) rfl) fun _ =>
    endsFree_bind keepsOpens_networkInit fun _ =>
    endsFree_bind respects_readMeshSetting fun _ =>
    endsFree_bind (respects_appUci _) fun _ =>
    endsFree_bind (respects_deref _ _) fun _ =>
    endsFree_bind (respects_deref _ _) fun _ =>
    endsFree_bind (respects_appUci _) fun _ =>
    endsFree_bind (respects_waitForDeamon env) fun _ =>
    endsFree_bind (respects_getCurrentDeviceInfo env) fun _ => hdevices _

end Mesh
end Noc
