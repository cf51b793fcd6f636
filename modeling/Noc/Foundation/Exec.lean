import Mathlib.Order.Defs.Unbundled
import Mathlib.Tactic.Common

/-!
# Programs with state and faults

A program reads and changes a state and either returns a value or stops with a
fault, in the state the fault happens in.  `wp` says that a program returns and
what holds then; `wlp` says what holds if it returns.  Both are computed from
the program text by one rule for each way programs are put together.
-/

namespace Noc
namespace Foundation

def Exec (σ φ α : Type) : Type :=
  σ -> Except (φ × σ) (α × σ)

namespace Exec

variable {σ τ φ α β : Type}

instance : Monad (Exec σ φ) where
  pure value := fun s => .ok (value, s)
  bind program next := fun s =>
    match program s with
    | .ok (value, s') => next value s'
    | .error stopped => .error stopped

def fail (fault : φ) : Exec σ φ α :=
  fun s => .error (fault, s)

def read : Exec σ φ σ :=
  fun s => .ok (s, s)

def modify (change : σ -> σ) : Exec σ φ Unit :=
  fun s => .ok ((), change s)

/-- Follow a pointer; NULL is the given fault. -/
def deref (fault : φ) : Option α -> Exec σ φ α
  | some value => pure value
  | none => fail fault

/-- Run a program on one component of a larger state. -/
def zoom (get : σ -> τ) (put : τ -> σ -> σ) (program : Exec τ φ α) :
    Exec σ φ α :=
  fun s =>
    match program (get s) with
    | .ok (value, t) => .ok (value, put t s)
    | .error (fault, t) => .error (fault, put t s)

/-- Run a program for every element in order. -/
def each (program : α -> Exec σ φ Unit) : List α -> Exec σ φ Unit
  | [] => pure ()
  | value :: rest => do
      program value
      each program rest

/-!
## Returning
-/

def wp (program : Exec σ φ α) (post : α -> σ -> Prop) (s : σ) : Prop :=
  match program s with
  | .ok (value, s') => post value s'
  | .error _ => False

def wlp (program : Exec σ φ α) (post : α -> σ -> Prop) (s : σ) : Prop :=
  match program s with
  | .ok (value, s') => post value s'
  | .error _ => True

theorem wp_iff {program : Exec σ φ α} {post : α -> σ -> Prop} {s : σ} :
    wp program post s <->
      exists value s', program s = .ok (value, s') ∧ post value s' := by
  unfold wp
  constructor
  · intro h
    cases hrun : program s with
    | ok out =>
        rw [hrun] at h
        exact ⟨out.1, out.2, rfl, h⟩
    | error fault =>
        rw [hrun] at h
        exact h.elim
  · intro h
    rcases h with ⟨value, s', hrun, hpost⟩
    rw [hrun]
    exact hpost

theorem wlp_iff {program : Exec σ φ α} {post : α -> σ -> Prop} {s : σ} :
    wlp program post s <->
      forall value s', program s = .ok (value, s') -> post value s' := by
  unfold wlp
  constructor
  · intro h value s' hrun
    rw [hrun] at h
    exact h
  · intro h
    cases hrun : program s with
    | ok out => exact h out.1 out.2 hrun
    | error fault => trivial

theorem wlp_of_wp {program : Exec σ φ α} {post : α -> σ -> Prop} {s : σ}
    (h : wp program post s) : wlp program post s := by
  rcases wp_iff.mp h with ⟨value, s', hrun, hpost⟩
  unfold wlp
  rw [hrun]
  exact hpost

theorem wp_mono {program : Exec σ φ α} {post post' : α -> σ -> Prop} {s : σ}
    (himp : forall value s', post value s' -> post' value s')
    (h : wp program post s) : wp program post' s := by
  rcases wp_iff.mp h with ⟨value, s', hrun, hpost⟩
  exact wp_iff.mpr ⟨value, s', hrun, himp value s' hpost⟩

theorem wlp_mono {program : Exec σ φ α} {post post' : α -> σ -> Prop} {s : σ}
    (himp : forall value s', post value s' -> post' value s')
    (h : wlp program post s) : wlp program post' s :=
  wlp_iff.mpr fun value s' hrun => himp value s' (wlp_iff.mp h value s' hrun)

/-- What holds if a program returns holds of the run that does return. -/
theorem wp_and_wlp {program : Exec σ φ α} {post post' : α -> σ -> Prop} {s : σ}
    (h : wp program post s) (h' : wlp program post' s) :
    wp program (fun value s' => post value s' ∧ post' value s') s := by
  rcases wp_iff.mp h with ⟨value, s', hrun, hpost⟩
  exact wp_iff.mpr ⟨value, s', hrun, hpost, wlp_iff.mp h' value s' hrun⟩

theorem wlp_and {program : Exec σ φ α} {post post' : α -> σ -> Prop} {s : σ}
    (h : wlp program post s) (h' : wlp program post' s) :
    wlp program (fun value s' => post value s' ∧ post' value s') s :=
  wlp_iff.mpr fun value s' hrun =>
    ⟨wlp_iff.mp h value s' hrun, wlp_iff.mp h' value s' hrun⟩

/-!
A program whose result is known is replaced by it.
-/

theorem run_of_wp {program : Exec σ φ α} {s after : σ} {value : α}
    (h : wp program (fun result s' => result = value ∧ s' = after) s) :
    program s = .ok (value, after) := by
  rcases wp_iff.mp h with ⟨result, s', hrun, rfl, rfl⟩
  exact hrun

theorem wp_of_run {program : Exec σ φ α} {s after : σ} {value : α}
    (h : program s = .ok (value, after)) (post : α -> σ -> Prop) :
    wp program post s <-> post value after := by
  unfold wp
  rw [h]

theorem wlp_of_run {program : Exec σ φ α} {s after : σ} {value : α}
    (h : program s = .ok (value, after)) (post : α -> σ -> Prop) :
    wlp program post s <-> post value after := by
  unfold wlp
  rw [h]

theorem bind_of_run {program : Exec σ φ α} {s after : σ} {value : α}
    (h : program s = .ok (value, after)) (next : α -> Exec σ φ β) :
    (program >>= next) s = next value after := by
  simp only [bind, h]

theorem bind_of_error {program : Exec σ φ α} {s after : σ} {fault : φ}
    (h : program s = .error (fault, after)) (next : α -> Exec σ φ β) :
    (program >>= next) s = .error (fault, after) := by
  simp only [bind, h]

theorem pure_bind (value : α) (next : α -> Exec σ φ β) :
    (pure value : Exec σ φ α) >>= next = next value := rfl

theorem bind_bind {γ : Type} (program : Exec σ φ α) (next : α -> Exec σ φ β)
    (later : β -> Exec σ φ γ) :
    (program >>= next) >>= later = program >>= fun value => next value >>= later := by
  funext s
  simp only [bind]
  cases program s <;> rfl

/-!
## Rules
-/

@[simp] theorem wp_pure (value : α) (post : α -> σ -> Prop) (s : σ) :
    wp (pure value : Exec σ φ α) post s <-> post value s :=
  Iff.rfl

@[simp] theorem wlp_pure (value : α) (post : α -> σ -> Prop) (s : σ) :
    wlp (pure value : Exec σ φ α) post s <-> post value s :=
  Iff.rfl

@[simp] theorem wp_bind (program : Exec σ φ α) (next : α -> Exec σ φ β)
    (post : β -> σ -> Prop) (s : σ) :
    wp (program >>= next) post s <->
      wp program (fun value s' => wp (next value) post s') s := by
  unfold wp
  show (match (match program s with
      | .ok (value, s') => next value s'
      | .error stopped => .error stopped) with
    | .ok (value, s') => post value s'
    | .error _ => False) <-> _
  cases program s <;> rfl

@[simp] theorem wlp_bind (program : Exec σ φ α) (next : α -> Exec σ φ β)
    (post : β -> σ -> Prop) (s : σ) :
    wlp (program >>= next) post s <->
      wlp program (fun value s' => wlp (next value) post s') s := by
  unfold wlp
  show (match (match program s with
      | .ok (value, s') => next value s'
      | .error stopped => .error stopped) with
    | .ok (value, s') => post value s'
    | .error _ => True) <-> _
  cases program s <;> rfl

@[simp] theorem wp_fail (fault : φ) (post : α -> σ -> Prop) (s : σ) :
    wp (fail fault) post s <-> False :=
  Iff.rfl

@[simp] theorem wlp_fail (fault : φ) (post : α -> σ -> Prop) (s : σ) :
    wlp (fail fault) post s <-> True :=
  Iff.rfl

@[simp] theorem wp_read (post : σ -> σ -> Prop) (s : σ) :
    wp (read : Exec σ φ σ) post s <-> post s s :=
  Iff.rfl

@[simp] theorem wlp_read (post : σ -> σ -> Prop) (s : σ) :
    wlp (read : Exec σ φ σ) post s <-> post s s :=
  Iff.rfl

@[simp] theorem wp_modify (change : σ -> σ) (post : Unit -> σ -> Prop) (s : σ) :
    wp (modify change : Exec σ φ Unit) post s <-> post () (change s) :=
  Iff.rfl

@[simp] theorem wlp_modify (change : σ -> σ) (post : Unit -> σ -> Prop) (s : σ) :
    wlp (modify change : Exec σ φ Unit) post s <-> post () (change s) :=
  Iff.rfl

@[simp] theorem wp_deref (fault : φ) (pointer : Option α)
    (post : α -> σ -> Prop) (s : σ) :
    wp (deref fault pointer) post s <->
      exists value, pointer = some value ∧ post value s := by
  cases pointer with
  | none => simp [deref]
  | some value => simp [deref]

@[simp] theorem wlp_deref (fault : φ) (pointer : Option α)
    (post : α -> σ -> Prop) (s : σ) :
    wlp (deref fault pointer) post s <->
      forall value, pointer = some value -> post value s := by
  cases pointer with
  | none => simp [deref]
  | some value => simp [deref]

@[simp] theorem wp_zoom (get : σ -> τ) (put : τ -> σ -> σ)
    (program : Exec τ φ α) (post : α -> σ -> Prop) (s : σ) :
    wp (zoom get put program) post s <->
      wp program (fun value t => post value (put t s)) (get s) := by
  unfold wp zoom
  cases program (get s) <;> rfl

@[simp] theorem wlp_zoom (get : σ -> τ) (put : τ -> σ -> σ)
    (program : Exec τ φ α) (post : α -> σ -> Prop) (s : σ) :
    wlp (zoom get put program) post s <->
      wlp program (fun value t => post value (put t s)) (get s) := by
  unfold wlp zoom
  cases program (get s) <;> rfl

@[simp] theorem wp_ite (c : Prop) [Decidable c] (program other : Exec σ φ α)
    (post : α -> σ -> Prop) (s : σ) :
    wp (if c then program else other) post s <->
      if c then wp program post s else wp other post s := by
  split <;> rfl

@[simp] theorem wlp_ite (c : Prop) [Decidable c] (program other : Exec σ φ α)
    (post : α -> σ -> Prop) (s : σ) :
    wlp (if c then program else other) post s <->
      if c then wlp program post s else wlp other post s := by
  split <;> rfl

/-- A program with one outcome, under a condition, leaves what that outcome
has. -/
theorem wlp_of_outcome {program : Exec σ φ α} {s after : σ} {value : α}
    {returns : Prop} (h : forall post : α -> σ -> Prop,
      wp program post s <-> returns ∧ post value after)
    {post : α -> σ -> Prop} (hpost : post value after) : wlp program post s := by
  rw [wlp_iff]
  intro result s' hrun
  have hsame : wp program (fun v t => v = result ∧ t = s') s :=
    wp_iff.mpr ⟨result, s', hrun, rfl, rfl⟩
  rcases ((h _).mp hsame).2 with ⟨rfl, rfl⟩
  exact hpost

/-!
Two rules for a sequence of which the first part is only partly known.
-/

theorem wlp_bind_of_next {program : Exec σ φ α} {next : α -> Exec σ φ β}
    {post : β -> σ -> Prop} {s : σ}
    (h : forall value s', wlp (next value) post s') :
    wlp (program >>= next) post s := by
  rw [wlp_bind, wlp_iff]
  intro value s' _
  exact h value s'

theorem wp_bind_iff_of_wlp {program : Exec σ φ α} {next : α -> Exec σ φ β}
    {spec : α -> σ -> Prop} {post : β -> σ -> Prop} {s : σ}
    {returns later : Prop} (hspec : wlp program spec s)
    (hreturns : wp program (fun _ _ => True) s <-> returns)
    (hlater : forall value s', spec value s' ->
      (wp (next value) post s' <-> later)) :
    wp (program >>= next) post s <-> returns ∧ later := by
  rw [wp_bind]
  constructor
  · intro h
    rcases wp_iff.mp h with ⟨value, s', hrun, hpost⟩
    exact ⟨hreturns.mp (wp_mono (fun _ _ _ => trivial) h),
      (hlater value s' (wlp_iff.mp hspec value s' hrun)).mp hpost⟩
  · intro h
    refine wp_mono ?_ (wp_and_wlp (hreturns.mpr h.1) hspec)
    intro value s' hboth
    exact (hlater value s' hboth.2).mpr h.2

/-!
## Loops

An invariant indexed by the elements still to come carries a loop.
-/

theorem wp_each {program : α -> Exec σ φ Unit} {values : List α}
    (inv : List α -> σ -> Prop)
    (hstep : forall value rest s, inv (value :: rest) s ->
      wp (program value) (fun _ s' => inv rest s') s)
    {s : σ} (hinit : inv values s) :
    wp (each program values) (fun _ s' => inv [] s') s := by
  induction values generalizing s with
  | nil => exact hinit
  | cons value rest ih =>
      unfold each
      rw [wp_bind]
      exact wp_mono (fun _ s' h => ih h) (hstep value rest s hinit)

/-- A loop whose body returns under a condition on the element is a fold of
its effect under that condition on all of them. -/
theorem wp_each_of_effect {program : α -> Exec σ φ Unit} {returns : α -> Prop}
    {effect : σ -> α -> σ}
    (hbody : forall value s post,
      wp (program value) post s <-> returns value ∧ post () (effect s value))
    (values : List α) (post : Unit -> σ -> Prop) (s : σ) :
    wp (each program values) post s <->
      (forall value, value ∈ values -> returns value) ∧
        post () (values.foldl effect s) := by
  induction values generalizing s with
  | nil => simp [each]
  | cons value rest ih =>
      unfold each
      rw [wp_bind, hbody, ih, List.foldl_cons, List.forall_mem_cons, and_assoc]

/-!
## Frames

The state a program ends in, returning or not, and a preorder that no step
leaves between the state before and that one: what a program keeps, whatever
else it does and however it ends.
-/

def final (program : Exec σ φ α) (s : σ) : σ :=
  match program s with
  | .ok (_, s') => s'
  | .error (_, s') => s'

theorem final_of_run {program : Exec σ φ α} {s after : σ} {value : α}
    (h : program s = .ok (value, after)) : final program s = after := by
  unfold final
  rw [h]

theorem final_of_error {program : Exec σ φ α} {s after : σ} {fault : φ}
    (h : program s = .error (fault, after)) : final program s = after := by
  unfold final
  rw [h]

/-- A command that returns returns in the state it ends in. -/
theorem run_of_isOk {program : Exec σ φ Unit} {s : σ}
    (h : (program s).isOk = true) : program s = .ok ((), final program s) := by
  unfold final
  cases hrun : program s with
  | ok out => rfl
  | error stopped =>
      rw [hrun] at h
      cases h

theorem wlp_final (program : Exec σ φ α) (s : σ) :
    wlp program (fun _ s' => s' = final program s) s := by
  rw [wlp_iff]
  intro value s' hrun
  exact (final_of_run hrun).symm

/-- A sequence ends where its first part does or where the rest does. -/
theorem final_bind_cases (program : Exec σ φ α) (next : α -> Exec σ φ β)
    (s : σ) :
    (final (program >>= next) s = final program s) ∨
      exists value, program s = .ok (value, final program s) ∧
        final (program >>= next) s = final (next value) (final program s) := by
  unfold final
  cases hrun : program s with
  | ok out =>
      right
      refine ⟨out.1, rfl, ?_⟩
      rw [bind_of_run hrun]
  | error stopped =>
      left
      simp only [bind, hrun]

/-- What holds where the first part ends, and where the rest ends from what the
first part returns, holds where a sequence ends. -/
theorem final_bind {program : Exec σ φ α} {next : α -> Exec σ φ β} {s : σ}
    {spec : α -> σ -> Prop} {p : σ -> Prop} (hspec : wlp program spec s)
    (hstop : p (final program s))
    (hnext : forall value s', spec value s' -> p (final (next value) s')) :
    p (final (program >>= next) s) := by
  rcases final_bind_cases program next s with hsame | ⟨value, hrun, hend⟩
  · rw [hsame]
    exact hstop
  · rw [hend]
    exact hnext value _ (wlp_iff.mp hspec value _ hrun)

theorem final_bind_of_run {program : Exec σ φ α} {s after : σ} {value : α}
    (h : program s = .ok (value, after)) (next : α -> Exec σ φ β) :
    final (program >>= next) s = final (next value) after := by
  unfold final
  rw [bind_of_run h]

@[simp] theorem final_zoom (get : σ -> τ) (put : τ -> σ -> σ)
    (program : Exec τ φ α) (s : σ) :
    final (zoom get put program) s = put (final program (get s)) s := by
  unfold final zoom
  cases program (get s) <;> rfl

def Respects (rel : σ -> σ -> Prop) (program : Exec σ φ α) : Prop :=
  forall s, rel s (final program s)

section

variable {rel : σ -> σ -> Prop}

theorem Respects.wlp {program : Exec σ φ α} (h : Respects rel program) (s : σ) :
    wlp program (fun _ s' => rel s s') s := by
  refine wlp_mono ?_ (wlp_final program s)
  rintro _ s' rfl
  exact h s

theorem Respects.mono {rel' : σ -> σ -> Prop} {program : Exec σ φ α}
    (himp : forall s s', rel s s' -> rel' s s') (h : Respects rel program) :
    Respects rel' program :=
  fun s => himp s (final program s) (h s)

theorem respects_pure [IsPreorder σ rel] (value : α) :
    Respects rel (pure value : Exec σ φ α) :=
  fun s => refl_of rel s

theorem respects_read [IsPreorder σ rel] :
    Respects rel (read : Exec σ φ σ) :=
  fun s => refl_of rel s

theorem respects_fail [IsPreorder σ rel] (fault : φ) :
    Respects rel (fail fault : Exec σ φ α) :=
  fun s => refl_of rel s

theorem respects_deref [IsPreorder σ rel] (fault : φ) (pointer : Option α) :
    Respects rel (deref fault pointer : Exec σ φ α) := by
  cases pointer with
  | none => exact respects_fail fault
  | some value => exact respects_pure value

theorem respects_modify {change : σ -> σ} (h : forall s, rel s (change s)) :
    Respects rel (modify change : Exec σ φ Unit) :=
  h

theorem respects_bind [IsPreorder σ rel] {program : Exec σ φ α}
    {next : α -> Exec σ φ β} (hprogram : Respects rel program)
    (hnext : forall value, Respects rel (next value)) :
    Respects rel (program >>= next) := by
  intro s
  rcases final_bind_cases program next s with hsame | ⟨value, _, hnextEnd⟩
  · rw [hsame]
    exact hprogram s
  · rw [hnextEnd]
    exact trans_of rel (hprogram s) (hnext value _)

/-- Only what the first part can return is handed to the rest. -/
theorem respects_bind_of_wlp [IsPreorder σ rel] {program : Exec σ φ α}
    {next : α -> Exec σ φ β} {spec : α -> Prop} (hprogram : Respects rel program)
    (hspec : forall s, Exec.wlp program (fun value _ => spec value) s)
    (hnext : forall value, spec value -> Respects rel (next value)) :
    Respects rel (program >>= next) := by
  intro s
  rcases final_bind_cases program next s with hsame | ⟨value, hrun, hnextEnd⟩
  · rw [hsame]
    exact hprogram s
  · rw [hnextEnd]
    have hvalue := wlp_iff.mp (hspec s) value _ hrun
    exact trans_of rel (hprogram s) (hnext value hvalue _)

/-- What holds where the first part ends and the rest keeps holds where a
sequence ends. -/
theorem final_bind_of_respects {program : Exec σ φ α}
    {next : α -> Exec σ φ β} {s : σ} {p : σ -> Prop}
    (hkept : forall s s', rel s s' -> p s -> p s')
    (hnext : forall value, Respects rel (next value))
    (h : p (final program s)) : p (final (program >>= next) s) := by
  apply final_bind (wlp_final program s) h
  rintro value s' rfl
  exact hkept _ _ (hnext value _) h

theorem respects_ite {c : Prop} [Decidable c] {program other : Exec σ φ α}
    (hprogram : Respects rel program) (hother : Respects rel other) :
    Respects rel (if c then program else other) := by
  split
  · exact hprogram
  · exact hother

theorem respects_each [IsPreorder σ rel] {program : α -> Exec σ φ Unit}
    (h : forall value, Respects rel (program value)) (values : List α) :
    Respects rel (each program values) := by
  induction values with
  | nil => exact respects_pure ()
  | cons value rest ih => exact respects_bind (h value) fun _ => ih

theorem respects_each_of_mem [IsPreorder σ rel] {program : α -> Exec σ φ Unit}
    {values : List α}
    (h : forall value, value ∈ values -> Respects rel (program value)) :
    Respects rel (each program values) := by
  induction values with
  | nil => exact respects_pure ()
  | cons value rest ih =>
      exact respects_bind (h value List.mem_cons_self) fun _ =>
        ih fun other hmem => h other (List.mem_cons_of_mem _ hmem)

/-- A program whose continuation only depends on what it keeps returns under
its own condition and the continuation's. -/
theorem wp_bind_iff_of_respects {program : Exec σ φ α}
    {next : α -> Exec σ φ β} {post : β -> σ -> Prop} {s : σ}
    {returns later : Prop} (hrespects : Respects rel program)
    (hreturns : wp program (fun _ _ => True) s <-> returns)
    (hlater : forall value s', rel s s' ->
      (wp (next value) post s' <-> later)) :
    wp (program >>= next) post s <-> returns ∧ later :=
  wp_bind_iff_of_wlp (hrespects.wlp s) hreturns hlater

/-- The first part of a sequence that always returns adds no condition. -/
theorem wp_bind_iff_of_returns {program : Exec σ φ α}
    {next : α -> Exec σ φ β} {post : β -> σ -> Prop} {s : σ} {later : Prop}
    (hrespects : Respects rel program)
    (hreturns : wp program (fun _ _ => True) s)
    (hlater : forall value s', rel s s' ->
      (wp (next value) post s' <-> later)) :
    wp (program >>= next) post s <-> later :=
  (wp_bind_iff_of_respects hrespects (iff_true_intro hreturns) hlater).trans
    (Iff.of_eq (true_and later))

end

end Exec
end Foundation
end Noc
