import Noc.Mesh.RunMode

/-!
# Rules for staged changes

Which UCI packages a program leaves with changes that no commit made permanent.
A refused write keeps the mutex, and a held mutex blocks every file access after
it, so what is said of a program is said for when the mutex is free at its end.
-/

namespace Noc
namespace Mesh

open Api
open Config
open Foundation
open Foundation.Exec
open Network
open Utils

/-!
## What file accesses leave alone
-/

def StaysHeld (fs fs' : FileState DaemonFile) : Prop :=
  fs.locked = true -> fs'.locked = true

instance : IsPreorder (FileState DaemonFile) StaysHeld where
  refl _ := id
  trans _ _ _ h h' := h' ∘ h

theorem staysHeld_of_blocked {α : Type}
    {program : Exec (FileState DaemonFile) Fault α}
    (h : forall fs, fs.locked = true -> program fs = .error (.blocked, fs)) :
    Respects StaysHeld program := by
  intro fs hheld
  rw [final_of_error (h fs hheld)]
  exact hheld

/-- No UCI command is run and a held mutex stays held. -/
structure KeepsUci (w w' : World) : Prop where
  uci : w'.uci = w.uci
  held : w.files.locked = true -> w'.files.locked = true

instance : IsPreorder World KeepsUci where
  refl _ := ⟨rfl, id⟩
  trans _ _ _ h h' := ⟨h'.uci.trans h.uci, h'.held ∘ h.held⟩

theorem keepsUci_onFiles {α : Type}
    {program : Exec (FileState DaemonFile) Fault α}
    (h : Respects StaysHeld program) : Respects KeepsUci (onFiles program) := by
  intro w
  unfold onFiles
  rw [final_zoom]
  exact ⟨rfl, h w.files⟩

theorem keepsUci_of_blocked {α : Type}
    {program : Exec (FileState DaemonFile) Fault α}
    (h : forall fs, fs.locked = true -> program fs = .error (.blocked, fs)) :
    Respects KeepsUci (onFiles program) :=
  keepsUci_onFiles (staysHeld_of_blocked h)

instance : KeptByHelpers KeepsUci modeFiles where
  readJson _ := keepsUci_of_blocked fun _ => loadJsonFromFile_of_locked
  readLines _ := keepsUci_of_blocked fun _ => readLine_of_locked
  checkFileExist _ := keepsUci_of_blocked fun _ => checkFileExist_of_locked
  execlIptables _ := respects_modify fun _ => ⟨rfl, id⟩
  writeData _ body _ _ := keepsUci_of_blocked fun _ h =>
    writeData_of_locked h body _
  rewrite _ _ := by
    apply keepsUci_onFiles
    apply respects_bind
    · exact respects_bind respects_read fun _ =>
        respects_bind (respects_modify fun _ => id) fun _ => respects_pure _
    · intro isOpen
      exact respects_ite (respects_modify fun _ => id) (respects_fail _)
  remove _ _ := keepsUci_onFiles (respects_modify fun _ => id)

/-!
## What a program stages

`Stages before after` is a rule about the packages with something staged: only
the ones in `before` when a program starts, only the ones in `after` when it
returns.
-/

/-- The UCI store after the recorded commands. -/
def uciStore (initial : StagingStore String UciCommand) (w : World) :
    StagingStore String UciCommand :=
  initial.run (w.uci.map UciCommand.op)

def Settled (initial : StagingStore String UciCommand)
    (packages : List String) (w : World) : Prop :=
  w.files.locked = true ∨ (uciStore initial w).StagedWithin packages

def Stages {α : Type} (before after : List String) (program : Daemon α) :
    Prop :=
  forall initial w, Settled initial before w ->
    wlp program (fun _ w' => Settled initial after w') w

/-- All commands are about one package. -/
def NamesPackage (package : String) (commands : List UciCommand) : Prop :=
  forall command, command ∈ commands -> packageOf command.args = package

section

variable {α β : Type} {before middle after : List String}
  {initial : StagingStore String UciCommand} {w w' : World}

theorem uciStore_runUci (commands : List UciCommand) :
    uciStore initial (w.runUci commands) =
      (uciStore initial w).run (commands.map UciCommand.op) := by
  unfold uciStore World.runUci
  rw [List.map_append, StagingStore.run_append]

theorem Settled.mono (h : Settled initial before w)
    (hsubset : before ⊆ after) : Settled initial after w :=
  h.imp_right (StagingStore.StagedWithin.mono hsubset)

theorem Settled.keeps (h : Settled initial before w) (hkeeps : KeepsUci w w') :
    Settled initial before w' := by
  cases h with
  | inl hheld => exact Or.inl (hkeeps.held hheld)
  | inr hstaged =>
      right
      unfold uciStore
      rw [hkeeps.uci]
      exact hstaged

theorem stages_of_keeps {program : Daemon α}
    (h : Respects KeepsUci program) : Stages before before program := by
  intro initial w hbefore
  exact wlp_mono (fun _ _ hkeeps => hbefore.keeps hkeeps) (h.wlp w)

theorem Stages.mono {before' after' : List String} {program : Daemon α}
    (h : Stages before after program) (hbefore : before' ⊆ before)
    (hafter : after ⊆ after') : Stages before' after' program := by
  intro initial w hw
  exact wlp_mono (fun _ _ hw' => hw'.mono hafter)
    (h initial w (hw.mono hbefore))

theorem stages_bind {program : Daemon α} {next : α -> Daemon β}
    (hprogram : Stages before middle program)
    (hnext : forall value, Stages middle after (next value)) :
    Stages before after (program >>= next) := by
  intro initial w hw
  rw [wlp_bind]
  exact wlp_mono (fun value w' hw' => hnext value initial w' hw')
    (hprogram initial w hw)

theorem stages_ite {c : Prop} [Decidable c] {program other : Daemon α}
    (hprogram : Stages before after program)
    (hother : Stages before after other) :
    Stages before after (if c then program else other) := by
  split
  · exact hprogram
  · exact hother

theorem stages_bind_of_spec {program : Daemon α} {next : α -> Daemon β}
    {spec : α -> Prop} (hprogram : Stages before middle program)
    (hspec : forall w, wlp program (fun value _ => spec value) w)
    (hnext : forall value, spec value -> Stages middle after (next value)) :
    Stages before after (program >>= next) := by
  intro initial w hw
  rw [wlp_bind]
  refine wlp_mono ?_ (wlp_and (hprogram initial w hw) (hspec w))
  intro value w' h
  exact hnext value h.2 initial w' h.1

theorem stages_appUci (commands : List UciCommand) :
    Stages before
      (StagingStore.pendingAfter before (commands.map UciCommand.op))
      (appUci commands) := by
  intro initial w hw
  unfold appUci
  rw [wlp_modify]
  cases hw with
  | inl hheld => exact Or.inl hheld
  | inr hstaged =>
      right
      rw [uciStore_runUci]
      exact StagingStore.stagedWithin_run hstaged _

/-- A list that commits what it stages. -/
theorem stages_appUci_of_pending {commands : List UciCommand}
    (h : StagingStore.pendingAfter before (commands.map UciCommand.op) = after) :
    Stages before after (appUci commands) := by
  rw [← h]
  exact stages_appUci commands

/-- Commands on the package that may have something staged anyway. -/
theorem stages_appUci_of_names {package : String} {commands : List UciCommand}
    (h : NamesPackage package commands) :
    Stages [package] [package] (appUci commands) := by
  intro initial w hw
  unfold appUci
  rw [wlp_modify]
  cases hw with
  | inl hheld => exact Or.inl hheld
  | inr hstaged =>
      right
      rw [uciStore_runUci]
      apply StagingStore.stagedWithin_run_of_targets hstaged
      intro op hop
      rcases List.mem_map.mp hop with ⟨command, hmem, rfl⟩
      rw [command.target_op, h command hmem]
      exact List.mem_singleton_self package

/-- A step that reports an error has left the mutex held. -/
theorem stages_unless_error {program rest : Daemon ErrorCode}
    (hprogram : Stages before middle program)
    (herror : forall w, wlp program (fun err w' =>
      err = .success ∨ w'.files.locked = true) w)
    (hrest : Stages middle after rest) :
    Stages before after (program >>= fun err =>
      if err ≠ .success then pure err else rest) := by
  intro initial w hw
  rw [wlp_bind]
  refine wlp_mono ?_ (wlp_and (hprogram initial w hw) (herror w))
  intro err w' h
  rw [wlp_ite]
  split
  case isTrue hfailed =>
    exact Or.inl (h.2.resolve_left hfailed)
  case isFalse => exact hrest initial w' h.1

end

end Mesh
end Noc
