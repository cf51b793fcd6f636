import Mathlib.Tactic.Common

/-!
# Runs

Runs of a labelled step relation and the rule every invariant proof goes
through: what one step preserves, a whole run preserves.
-/

namespace Noc
namespace Foundation

variable {σ τ ι : Type}

inductive Runs (step : σ -> ι -> σ -> Prop) : σ -> List ι -> σ -> Prop where
  | nil (s : σ) : Runs step s [] s
  | cons {s s' s'' : σ} {label : ι} {labels : List ι}
      (hstep : step s label s') (hrest : Runs step s' labels s'') :
      Runs step s (label :: labels) s''

namespace Runs

variable {step : σ -> ι -> σ -> Prop}

theorem invariant (inv : σ -> Prop)
    (hpreserved : forall s label s', inv s -> step s label s' -> inv s')
    {s s' : σ} {labels : List ι} (hrun : Runs step s labels s')
    (hinit : inv s) : inv s' := by
  induction hrun with
  | nil s => exact hinit
  | cons hstep hrest ih => exact ih (hpreserved _ _ _ hinit hstep)

/-- A run of a stronger step relation is a run of a weaker one. -/
theorem mono {step' : σ -> ι -> σ -> Prop}
    (himp : forall s label s', step s label s' -> step' s label s')
    {s s' : σ} {labels : List ι} (hrun : Runs step s labels s') :
    Runs step' s labels s' := by
  induction hrun with
  | nil s => exact Runs.nil s
  | cons hstep hrest ih => exact Runs.cons (himp _ _ _ hstep) ih

/-- A run's steps satisfy what all its labels do. -/
theorem restrict {good : ι -> Prop} {s s' : σ} {labels : List ι}
    (hrun : Runs step s labels s')
    (hgood : forall label, label ∈ labels -> good label) :
    Runs (fun s label s' => step s label s' ∧ good label) s labels s' := by
  induction hrun with
  | nil s => exact Runs.nil s
  | cons hstep hrest ih =>
      apply Runs.cons ⟨hstep, hgood _ List.mem_cons_self⟩
      apply ih
      intro label hmem
      exact hgood label (List.mem_cons_of_mem _ hmem)

/-- What every step's label has, all labels of a run have. -/
theorem forall_label {good : ι -> Prop}
    (hgood : forall s label s', step s label s' -> good label)
    {s s' : σ} {labels : List ι} (hrun : Runs step s labels s') :
    forall label, label ∈ labels -> good label := by
  induction hrun with
  | nil s =>
      intro label hmem
      cases hmem
  | cons hstep hrest ih =>
      intro label hmem
      rcases List.mem_cons.mp hmem with heq | hmem
      · rw [heq]
        exact hgood _ _ _ hstep
      · exact ih label hmem

/-- A run is simulated when its steps are. -/
theorem simulate {step' : τ -> ι -> τ -> Prop} (rel : σ -> τ -> Prop)
    (hsim : forall s t label s', rel s t -> step s label s' ->
      exists t', step' t label t' ∧ rel s' t')
    {s s' : σ} {t : τ} {labels : List ι} (hrun : Runs step s labels s')
    (hrel : rel s t) : exists t', Runs step' t labels t' ∧ rel s' t' := by
  induction hrun generalizing t with
  | nil s => exact ⟨t, Runs.nil t, hrel⟩
  | cons hstep hrest ih =>
      rcases hsim _ t _ _ hrel hstep with ⟨middle, hfirst, hmiddle⟩
      rcases ih hmiddle with ⟨t', hlater, hlast⟩
      exact ⟨t', Runs.cons hfirst hlater, hlast⟩

theorem append {early late : List ι} {s s' s'' : σ}
    (hearly : Runs step s early s') (hlate : Runs step s' late s'') :
    Runs step s (early ++ late) s'' := by
  induction hearly with
  | nil s => exact hlate
  | cons hstep hrest ih => exact Runs.cons hstep (ih hlate)

/-- The state between two parts of a run. -/
theorem split {early late : List ι} {s s'' : σ}
    (hrun : Runs step s (early ++ late) s'') :
    exists s', Runs step s early s' ∧ Runs step s' late s'' := by
  induction early generalizing s with
  | nil => exact ⟨s, Runs.nil s, hrun⟩
  | cons label rest ih =>
      cases hrun with
      | cons hstep hrest =>
          rcases ih hrest with ⟨s', hearly, hlate⟩
          exact ⟨s', Runs.cons hstep hearly, hlate⟩

end Runs
end Foundation
end Noc
