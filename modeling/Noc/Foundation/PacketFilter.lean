import Mathlib.Data.List.Basic

/-!
# Chains of rules

A packet passes the rules of a chain in order until one that matches it has a
target.  A chain without one leaves the packet to its policy.
-/

namespace Noc
namespace Foundation
namespace PacketFilter

/-- How the rules of a chain are read. -/
structure Reading (ρ π τ : Type) where
  holds : ρ -> π -> Bool
  target : ρ -> Option τ

section

variable {ρ π τ : Type}

def hit (reading : Reading ρ π τ) (packet : π) (rule : ρ) : Option τ :=
  if reading.holds rule packet then reading.target rule else none

/-- The target of the first rule that decides. -/
def verdict (reading : Reading ρ π τ) (rules : List ρ) (packet : π) : Option τ :=
  rules.findSome? (hit reading packet)

/-- What a chain does with a packet under a policy. -/
def outcome (reading : Reading ρ π τ) (rules : List ρ) (policy : τ) (packet : π) : τ :=
  (verdict reading rules packet).getD policy

variable {reading : Reading ρ π τ} {rules : List ρ} {packet : π}
variable {policy target : τ}

@[simp] theorem outcome_nil : outcome reading [] policy packet = policy := rfl

theorem hit_eq_some_iff {rule : ρ} (h : reading.target rule = some target) :
    hit reading packet rule = some target <-> reading.holds rule packet = true := by
  unfold hit
  rw [h]
  cases reading.holds rule packet <;> simp

theorem hit_eq_none_iff {rule : ρ} (h : reading.target rule = some target) :
    hit reading packet rule = none <-> reading.holds rule packet = false := by
  unfold hit
  rw [h]
  cases reading.holds rule packet <;> simp

/-!
## Rules of one target

The order of such rules does not matter.
-/

theorem verdict_of_target
    (h : forall rule, rule ∈ rules -> reading.target rule = some target) :
    verdict reading rules packet =
      if rules.any fun rule => reading.holds rule packet then some target
      else none := by
  induction rules with
  | nil => rfl
  | cons rule rest ih =>
      have hrest := ih fun other hother => h other (List.mem_cons_of_mem _ hother)
      have htarget := h rule List.mem_cons_self
      cases hholds : reading.holds rule packet with
      | true =>
          have hhit := (hit_eq_some_iff htarget).mpr hholds
          simp [verdict, hhit, hholds]
      | false =>
          have hmiss := (hit_eq_none_iff htarget).mpr hholds
          have hskip : verdict reading (rule :: rest) packet =
              verdict reading rest packet := by
            simp [verdict, hmiss]
          rw [hskip, hrest, List.any_cons, hholds, Bool.false_or]

theorem outcome_of_target_eq_policy
    (h : forall rule, rule ∈ rules -> reading.target rule = some policy) :
    outcome reading rules policy packet = policy := by
  unfold outcome
  rw [verdict_of_target h]
  split <;> rfl

theorem outcome_eq_target_iff
    (h : forall rule, rule ∈ rules -> reading.target rule = some target)
    (hpolicy : policy ≠ target) :
    outcome reading rules policy packet = target <->
      exists rule, rule ∈ rules ∧ reading.holds rule packet = true := by
  unfold outcome
  rw [verdict_of_target h, ← List.any_eq_true]
  cases rules.any fun rule => reading.holds rule packet with
  | true => simp
  | false => simp [hpolicy]

end

end PacketFilter
end Foundation
end Noc
