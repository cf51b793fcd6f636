import Mathlib.Tactic.Common

/-!
# Programs that write

A program writes entries one after the other and returns a value, or stops
before it does.  `always` says that every entry it writes meets a condition, and
what holds of the value if there is one.  It is computed from the program text by
one rule for each way programs are put together.
-/

namespace Noc
namespace Foundation

structure Output (ε α : Type) where
  emitted : List ε
  result : Option α

namespace Output

variable {ε α β : Type}

instance : Monad (Output ε) where
  pure value := { emitted := [], result := some value }
  bind program next :=
    match program.result with
    | some value =>
        { emitted := program.emitted ++ (next value).emitted
          result := (next value).result }
    | none => { emitted := program.emitted, result := none }

def emit (entry : ε) : Output ε Unit :=
  { emitted := [entry], result := some () }

/-- Go on with a value that is there, or stop. -/
def require (value : Option α) : Output ε α :=
  { emitted := [], result := value }

/-- Run a program for every element in order. -/
def each (program : α -> Output ε Unit) : List α -> Output ε Unit
  | [] => pure ()
  | value :: rest => do
      program value
      each program rest

def always (p : ε -> Prop) (program : Output ε α) (post : α -> Prop) : Prop :=
  (forall entry, entry ∈ program.emitted -> p entry) ∧
    forall value, program.result = some value -> post value

/-!
## What is written
-/

theorem bind_of_result {program : Output ε α} {value : α}
    (h : program.result = some value) (next : α -> Output ε β) :
    program >>= next =
      { emitted := program.emitted ++ (next value).emitted
        result := (next value).result } := by
  simp only [bind, h]

theorem mk_bind (emitted : List ε) (value : α) (next : α -> Output ε β) :
    ({ emitted, result := some value } : Output ε α) >>= next =
      { emitted := emitted ++ (next value).emitted
        result := (next value).result } := rfl

theorem bind_of_stop {program : Output ε α} (h : program.result = none)
    (next : α -> Output ε β) :
    program >>= next = { emitted := program.emitted, result := none } := by
  simp only [bind, h]

/-- What the first part of a sequence writes is written first. -/
theorem emitted_prefix_bind (program : Output ε α) (next : α -> Output ε β) :
    program.emitted <+: (program >>= next).emitted := by
  cases h : program.result with
  | none => exact ⟨[], by rw [List.append_nil, bind_of_stop h]⟩
  | some value =>
      rw [bind_of_result h]
      exact List.prefix_append _ _

/-- A loop whose body returns writes what its bodies do. -/
theorem each_of_result {program : α -> Output ε Unit} {values : List α}
    (h : forall value, value ∈ values -> (program value).result = some ()) :
    each program values =
      { emitted := values.flatMap fun value => (program value).emitted
        result := some () } := by
  induction values with
  | nil => rfl
  | cons value rest ih =>
      rw [List.forall_mem_cons] at h
      unfold each
      rw [bind_of_result h.1, ih h.2, List.flatMap_cons]

theorem each_emit (entry : α -> ε) (values : List α) :
    each (fun value => emit (entry value)) values =
      { emitted := values.map entry, result := some () } := by
  rw [each_of_result fun _ _ => rfl, List.map_eq_flatMap]
  rfl

/-!
## Rules
-/

section

variable {p : ε -> Prop}

@[simp] theorem always_pure (value : α) (post : α -> Prop) :
    always p (pure value : Output ε α) post <-> post value := by
  constructor
  · intro h
    exact h.2 value rfl
  · intro h
    refine ⟨fun entry hmem => absurd hmem List.not_mem_nil, ?_⟩
    intro result hresult
    cases hresult
    exact h

@[simp] theorem always_emit (entry : ε) (post : Unit -> Prop) :
    always p (emit entry) post <-> p entry ∧ post () := by
  constructor
  · intro h
    exact ⟨h.1 entry List.mem_cons_self, h.2 () rfl⟩
  · intro h
    exact ⟨List.forall_mem_singleton.mpr h.1, fun _ _ => h.2⟩

@[simp] theorem always_require (value : Option α) (post : α -> Prop) :
    always p (require value : Output ε α) post <->
      forall found, value = some found -> post found :=
  and_iff_right fun _ hmem => absurd hmem List.not_mem_nil

@[simp] theorem always_bind (program : Output ε α) (next : α -> Output ε β)
    (post : β -> Prop) :
    always p (program >>= next) post <->
      always p program fun value => always p (next value) post := by
  unfold always
  cases h : program.result with
  | none =>
      rw [bind_of_stop h]
      simp only [reduceCtorEq, false_implies, implies_true]
  | some value =>
      rw [bind_of_result h]
      simp only [List.forall_mem_append, Option.some_inj, forall_eq', and_assoc]

@[simp] theorem always_ite (c : Prop) [Decidable c] (program other : Output ε α)
    (post : α -> Prop) :
    always p (if c then program else other) post <->
      if c then always p program post else always p other post := by
  split <;> rfl

/-- A loop whose body returns writes as it should when its bodies do. -/
theorem always_each {program : α -> Output ε Unit} {fits : α -> Prop}
    (hbody : forall value post,
      always p (program value) post <-> fits value ∧ post ())
    (values : List α) (post : Unit -> Prop) :
    always p (each program values) post <->
      (forall value, value ∈ values -> fits value) ∧ post () := by
  induction values with
  | nil => simp [each]
  | cons value rest ih =>
      unfold each
      rw [always_bind, hbody, ih, List.forall_mem_cons, and_assoc]

theorem always_each_emit (entry : α -> ε) (values : List α) (post : Unit -> Prop) :
    always p (each (fun value => emit (entry value)) values) post <->
      (forall value, value ∈ values -> p (entry value)) ∧ post () :=
  always_each (fun value => always_emit (entry value)) values post

/-- All that is written meets the condition, whatever is returned. -/
theorem always_true (program : Output ε α) :
    always p program (fun _ => True) <->
      forall entry, entry ∈ program.emitted -> p entry :=
  and_iff_left fun _ _ => trivial

end

end Output
end Foundation
end Noc
