import Mathlib.Data.List.Basic
import Mathlib.Logic.Function.Basic

/-!
# Staged changes

A store whose changes wait with their package until the package is committed.
Which packages have something waiting after a list of operations follows from
the packages the operations name.
-/

namespace Noc
namespace Foundation

variable {package change : Type}

inductive StagingOp (package change : Type) where
  | stage (target : package) (entry : change)
  | commit (target : package)

namespace StagingOp

/-- The package an operation names, and whether it commits it. -/
def target : StagingOp package change -> package × Bool
  | stage target _ => (target, false)
  | commit target => (target, true)

end StagingOp

structure StagingStore (package change : Type) where
  committed : package -> List change
  staged : package -> List change

namespace StagingStore

/-- Nothing waits for a commit outside the named packages. -/
def StagedWithin (packages : List package)
    (s : StagingStore package change) : Prop :=
  forall p, s.staged p ≠ [] -> p ∈ packages

/-- Something waits for a commit in each of the named packages. -/
def StagedIn (packages : List package)
    (s : StagingStore package change) : Prop :=
  forall p, p ∈ packages -> s.staged p ≠ []

theorem StagedWithin.mono {packages packages' : List package}
    {s : StagingStore package change} (hsubset : packages ⊆ packages')
    (h : StagedWithin packages s) : StagedWithin packages' s :=
  fun p hp => hsubset (h p hp)

theorem stagedWithin_nil {s : StagingStore package change} :
    StagedWithin [] s <-> forall p, s.staged p = [] := by
  constructor
  · intro h p
    by_contra hp
    cases h p hp
  · intro h p hp
    exact absurd (h p) hp

variable [DecidableEq package]

def apply (s : StagingStore package change) :
    StagingOp package change -> StagingStore package change
  | .stage target entry =>
      { s with
        staged := Function.update s.staged target
          (s.staged target ++ [entry]) }
  | .commit target =>
      { committed := Function.update s.committed target
          (s.committed target ++ s.staged target)
        staged := Function.update s.staged target [] }

def run (s : StagingStore package change)
    (ops : List (StagingOp package change)) : StagingStore package change :=
  ops.foldl apply s

theorem run_append (s : StagingStore package change)
    (ops later : List (StagingOp package change)) :
    s.run (ops ++ later) = (s.run ops).run later :=
  List.foldl_append

/-!
## Packages with something waiting
-/

def pendingStep (packages : List package)
    (op : StagingOp package change) : List package :=
  match op with
  | .stage target _ => target :: packages
  | .commit target => packages.filter fun p => p ≠ target

def pendingAfter (packages : List package)
    (ops : List (StagingOp package change)) : List package :=
  ops.foldl pendingStep packages

theorem stagedWithin_apply {packages : List package}
    {s : StagingStore package change} (h : StagedWithin packages s)
    (op : StagingOp package change) :
    StagedWithin (pendingStep packages op) (s.apply op) := by
  intro p hp
  cases op with
  | stage target entry =>
      by_cases hsame : p = target
      · rw [hsame]
        exact List.mem_cons_self
      · have hold : s.staged p ≠ [] := by
          simpa [apply, hsame] using hp
        exact List.mem_cons_of_mem _ (h p hold)
  | commit target =>
      by_cases hsame : p = target
      · simp [apply, hsame] at hp
      · have hold : s.staged p ≠ [] := by
          simpa [apply, hsame] using hp
        simpa [pendingStep, hsame] using h p hold

theorem stagedIn_apply {packages : List package}
    {s : StagingStore package change} (h : StagedIn packages s)
    (op : StagingOp package change) :
    StagedIn (pendingStep packages op) (s.apply op) := by
  intro p hp
  cases op with
  | stage target entry =>
      by_cases hsame : p = target
      · simp [apply, hsame]
      · have hold : p ∈ packages := by
          simpa [pendingStep, hsame] using hp
        simpa [apply, hsame] using h p hold
  | commit target =>
      rcases List.mem_filter.mp hp with ⟨hold, hdiffers⟩
      have hne : p ≠ target := by simpa using hdiffers
      simpa [apply, hne] using h p hold

theorem stagedWithin_run {packages : List package}
    {s : StagingStore package change} (h : StagedWithin packages s)
    (ops : List (StagingOp package change)) :
    StagedWithin (pendingAfter packages ops) (s.run ops) := by
  induction ops generalizing packages s with
  | nil => exact h
  | cons op rest ih => exact ih (stagedWithin_apply h op)

theorem stagedIn_run {packages : List package}
    {s : StagingStore package change} (h : StagedIn packages s)
    (ops : List (StagingOp package change)) :
    StagedIn (pendingAfter packages ops) (s.run ops) := by
  induction ops generalizing packages s with
  | nil => exact h
  | cons op rest ih => exact ih (stagedIn_apply h op)

/-- Operations on the named packages leave nothing waiting elsewhere. -/
theorem stagedWithin_run_of_targets {packages : List package}
    {s : StagingStore package change} (h : StagedWithin packages s)
    {ops : List (StagingOp package change)}
    (htargets : forall op, op ∈ ops -> op.target.1 ∈ packages) :
    StagedWithin packages (s.run ops) := by
  induction ops generalizing s with
  | nil => exact h
  | cons op rest ih =>
      have hstep : pendingStep packages op ⊆ packages := by
        cases op with
        | stage target entry =>
            exact List.cons_subset.mpr
              ⟨htargets _ List.mem_cons_self, List.Subset.refl _⟩
        | commit target => exact List.filter_subset_self _
      apply ih ((stagedWithin_apply h op).mono hstep)
      intro other hmem
      exact htargets other (List.mem_cons_of_mem op hmem)

end StagingStore
end Foundation
end Noc
