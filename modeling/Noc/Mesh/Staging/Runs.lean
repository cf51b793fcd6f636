import Noc.Foundation.Runs
import Noc.Mesh.Staging.Calls
import Noc.Mesh.Staging.Mutex

/-!
# Staged changes over runs

Sequences of calls that set the device up, and when a UCI package is left with
changes a restart loses.
-/

namespace Noc
namespace Mesh

open Api
open Config
open Foundation
open Foundation.Exec
open Network
open Utils

/-!
## Calls
-/

inductive UciCall where
  | runStandaloneMode
  | runAgentMode
  | runControllerMode
  | lanSet (lan : Lan)
  | wanSet (wan : Wan)
  | dnsDhcpSet (dnsDhcp : Option DnsDhcp)

def UciCall.exec (env : Surroundings) : UciCall -> Daemon Unit
  | runStandaloneMode => Mesh.runStandaloneMode env
  | runAgentMode => Mesh.runAgentMode env
  | runControllerMode => Mesh.runControllerMode env
  | lanSet lan => do
      let _ <- Network.lanSet lan
      return ()
  | wanSet wan => do
      let _ <- Network.wanSet wan
      return ()
  | dnsDhcpSet dnsDhcp => do
      let _ <- Network.dnsDhcpSet dnsDhcp
      return ()

/-- A call completes and its writes succeed: a refused one would have left the
mutex held. -/
def Completed (w : World) (call : UciCall) (w' : World) : Prop :=
  exists env, call.exec env w = .ok ((), w') ∧ w'.files.locked = false

/-- Where no open is refused, the mutex is free whenever a call returns. -/
theorem completed_of_opens {env : Surroundings} {call : UciCall} {w w' : World}
    (hopens : OpensSucceed w.files) (hrun : call.exec env w = .ok ((), w')) :
    Completed w call w' := by
  have hends : EndsFree (call.exec env) := by
    cases call with
    | runStandaloneMode => exact endsFree_runStandaloneMode env
    | runAgentMode => exact endsFree_runAgentMode env
    | runControllerMode => exact endsFree_runControllerMode env
    | lanSet lan =>
        exact endsFree_then (endsFree_lanSet lan) fun _ => respects_pure _
    | wanSet wan =>
        exact endsFree_then (endsFree_wanSet wan) fun _ => respects_pure _
    | dnsDhcpSet dnsDhcp =>
        exact endsFree_then (endsFree_dnsDhcpSet dnsDhcp) fun _ =>
          respects_pure _
  exact ⟨env, hrun, (wlp_of_run hrun _).mp (hends w hopens)⟩

/-!
## Runs
-/

def NothingStaged (initial : StagingStore String UciCommand) (w : World) :
    Prop :=
  forall package, (uciStore initial w).staged package = []

section

variable {initial : StagingStore String UciCommand} {w w' : World}

theorem stages_exec (env : Surroundings) {call : UciCall}
    (hcall : call ≠ .runStandaloneMode) : Stages [] [] (call.exec env) := by
  cases call with
  | runStandaloneMode => exact absurd rfl hcall
  | runAgentMode => exact stages_runAgentMode env
  | runControllerMode => exact stages_runControllerMode env
  | lanSet lan =>
      exact stages_bind (stages_lanSet lan) fun _ =>
        stages_of_keeps (respects_pure _)
  | wanSet wan =>
      exact stages_bind (stages_wanSet wan) fun _ =>
        stages_of_keeps (respects_pure _)
  | dnsDhcpSet dnsDhcp =>
      exact stages_bind (stages_dnsDhcpSet dnsDhcp) fun _ =>
        stages_of_keeps (respects_pure _)

theorem nothingStaged_of_completed {call : UciCall}
    (hcall : call ≠ .runStandaloneMode) (h : NothingStaged initial w)
    (hstep : Completed w call w') : NothingStaged initial w' := by
  rcases hstep with ⟨env, hrun, hfree⟩
  have hsettled : Settled initial [] w :=
    Or.inr (StagingStore.stagedWithin_nil.mpr h)
  have hends := (wlp_of_run hrun _).mp (stages_exec env hcall initial w hsettled)
  cases hends with
  | inl hheld => exact absurd hheld (by rw [hfree]; exact Bool.false_ne_true)
  | inr hstaged => exact StagingStore.stagedWithin_nil.mp hstaged

theorem not_nothingStaged_of_standalone
    (hstep : Completed w .runStandaloneMode w') :
    ¬ NothingStaged initial w' := by
  rcases hstep with ⟨env, hrun, _⟩
  intro h
  exact (wlp_of_run hrun _).mp (wlp_runStandaloneMode env initial w)
    (h "network")

theorem nothingStaged_of_run {calls : List UciCall}
    (hcalls : .runStandaloneMode ∉ calls) (h : NothingStaged initial w)
    (hrun : Runs Completed w calls w') : NothingStaged initial w' := by
  induction hrun with
  | nil w => exact h
  | cons hstep hrest ih =>
      rw [List.mem_cons, not_or] at hcalls
      exact ih hcalls.2
        (nothingStaged_of_completed (Ne.symm hcalls.1) h hstep)

end

/-- Nothing is staged after any call of a run if and only if none of the calls
is `run_standalone_mode`. -/
theorem nothingStaged_iff {initial : StagingStore String UciCommand}
    {w w' : World} {calls : List UciCall} (h : NothingStaged initial w)
    (hrun : Runs Completed w calls w') :
    (forall early late middle, calls = early ++ late ->
        Runs Completed w early middle -> Runs Completed middle late w' ->
        NothingStaged initial middle) <->
      .runStandaloneMode ∉ calls := by
  constructor
  · intro hclean hmem
    rcases List.append_of_mem hmem with ⟨early, late, rfl⟩
    rcases Runs.split hrun with ⟨before, hearly, hrest⟩
    cases hrest with
    | cons hstep hlate =>
        have hstarts := hearly.append (Runs.cons hstep (Runs.nil _))
        exact not_nothingStaged_of_standalone hstep
          (hclean _ late _ (by simp) hstarts hlate)
  · intro hcalls early late middle hsplit hearly _
    apply nothingStaged_of_run _ h hearly
    intro hmem
    exact hcalls (by rw [hsplit]; exact List.mem_append_left late hmem)

/-!
## A device set up from its stored settings
-/

def configured : World :=
  ((World.installed.storeText .mosquittoConf "port 1883").storeText .wanAddress
    "a4:11:62:00:00:01").storeJson .dhcpSetting
      (.obj [("dns", .obj []), ("dhcp4", .obj [])])

theorem opensSucceed_configured : OpensSucceed configured.files :=
  fun _ => rfl

def emptyStore : StagingStore String UciCommand where
  committed := fun _ => []
  staged := fun _ => []

theorem nothingStaged_configured : NothingStaged emptyStore configured :=
  fun _ => rfl

theorem completed_standalone : Completed configured .runStandaloneMode
    (final ((UciCall.runStandaloneMode).exec .alone) configured) :=
  completed_of_opens opensSucceed_configured (run_of_isOk (by decide +kernel))

/-- The LAN is set, the device joins a mesh, and the WAN is set. -/
def settingUp : List UciCall :=
  [.lanSet { ipaddr := some "192.168.5.1", proto := some "static" },
   .runAgentMode,
   .wanSet { proto := some "dhcp" }]

def configuredAfter (calls : List UciCall) : World :=
  calls.foldl (fun w call => final (call.exec .alone) w) configured

theorem completed_configuredAfter (early : List UciCall) {call : UciCall}
    (hopens : OpensSucceed (configuredAfter early).files)
    (hreturns : (call.exec .alone (configuredAfter early)).isOk = true) :
    Completed (configuredAfter early) call (configuredAfter (early ++ [call])) := by
  have hafter : configuredAfter (early ++ [call]) =
      final (call.exec .alone) (configuredAfter early) := by
    unfold configuredAfter
    rw [List.foldl_append, List.foldl_cons, List.foldl_nil]
  rw [hafter]
  exact completed_of_opens hopens (run_of_isOk hreturns)

theorem runs_settingUp :
    Runs Completed configured settingUp (configuredAfter settingUp) := by
  have hlan : Completed configured _ (configuredAfter (settingUp.take 1)) :=
    completed_configuredAfter [] opensSucceed_configured (by decide +kernel)
  have hagent : Completed (configuredAfter (settingUp.take 1)) _
      (configuredAfter (settingUp.take 2)) :=
    completed_configuredAfter (settingUp.take 1) (fun _ => rfl) (by decide +kernel)
  have hwan : Completed (configuredAfter (settingUp.take 2)) _
      (configuredAfter settingUp) :=
    completed_configuredAfter (settingUp.take 2) (fun _ => rfl) (by decide +kernel)
  exact Runs.cons hlan (Runs.cons hagent (Runs.cons hwan (Runs.nil _)))

theorem nothingStaged_iff_settingUp :
    (forall early late middle, settingUp = early ++ late ->
        Runs Completed configured early middle ->
        Runs Completed middle late (configuredAfter settingUp) ->
        NothingStaged emptyStore middle) <->
      .runStandaloneMode ∉ settingUp :=
  nothingStaged_iff nothingStaged_configured runs_settingUp

/-- One switch to the standalone mode leaves the network settings staged. -/
theorem not_nothingStaged_of_run :
    ¬ forall initial w calls w', NothingStaged initial w ->
      Runs Completed w calls w' -> NothingStaged initial w' := by
  intro hclaim
  exact not_nothingStaged_of_standalone completed_standalone
    (hclaim emptyStore configured [.runStandaloneMode] _
      nothingStaged_configured (Runs.cons completed_standalone (Runs.nil _)))

end Mesh
end Noc
