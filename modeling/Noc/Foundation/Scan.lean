import Mathlib.Data.List.Nodup

/-!
# Scanning arrays

The loops a record store is edited with: replace the first entry that matches,
and close the gap an entry leaves by moving the entries after it.
-/

namespace Noc
namespace Foundation

variable {α β : Type}

/-!
## Replacing the first match
-/

def updateFirst (p : α -> Bool) (f : α -> α) : List α -> List α
  | [] => []
  | value :: rest =>
      if p value then f value :: rest else value :: updateFirst p f rest

theorem updateFirst_of_forall_not {p : α -> Bool} {values : List α}
    (h : forall value, value ∈ values -> p value = false) (f : α -> α) :
    updateFirst p f values = values := by
  induction values with
  | nil => rfl
  | cons value rest ih =>
      have hrest := ih fun other hmem => h other (List.mem_cons_of_mem value hmem)
      simp [updateFirst, h value List.mem_cons_self, hrest]

theorem updateFirst_append_cons {p : α -> Bool} {front : List α} {value : α}
    (hfront : forall other, other ∈ front -> p other = false)
    (hvalue : p value = true) (f : α -> α) (back : List α) :
    updateFirst p f (front ++ value :: back) = front ++ f value :: back := by
  induction front with
  | nil => simp [updateFirst, hvalue]
  | cons first rest ih =>
      have hrest := ih fun other hmem => hfront other (List.mem_cons_of_mem first hmem)
      simp [updateFirst, hfront first List.mem_cons_self, hrest]

theorem find?_append_cons {p : α -> Bool} {front : List α} {value : α}
    (hfront : forall other, other ∈ front -> p other = false)
    (hvalue : p value = true) (back : List α) :
    (front ++ value :: back).find? p = some value := by
  have hnone : front.find? p = none := by
    rw [List.find?_eq_none]
    intro other hmem
    simp [hfront other hmem]
  simp [hnone, hvalue]

/-- Either no entry matches or the array splits at the first that does. -/
theorem scan_cases (p : α -> Bool) (values : List α) :
    (forall value, value ∈ values -> p value = false) ∨
      exists front value back, values = front ++ value :: back ∧
        (forall other, other ∈ front -> p other = false) ∧ p value = true := by
  induction values with
  | nil =>
      left
      intro value hmem
      cases hmem
  | cons first rest ih =>
      cases hfirst : p first with
      | true =>
          right
          refine ⟨[], first, rest, rfl, ?_, hfirst⟩
          intro other hmem
          cases hmem
      | false =>
          rcases ih with hnone | ⟨front, value, back, hrest, hfront, hvalue⟩
          · left
            intro value hmem
            rcases List.mem_cons.mp hmem with heq | hmem
            · rw [heq]
              exact hfirst
            · exact hnone value hmem
          · right
            refine ⟨first :: front, value, back, by rw [hrest]; rfl, ?_, hvalue⟩
            intro other hmem
            rcases List.mem_cons.mp hmem with heq | hmem
            · rw [heq]
              exact hfirst
            · exact hfront other hmem

/-- A key the replacement keeps is kept in every entry. -/
theorem map_updateFirst {p : α -> Bool} {f : α -> α} {key : α -> β}
    (values : List α)
    (h : forall value, value ∈ values -> p value = true ->
      key (f value) = key value) :
    (updateFirst p f values).map key = values.map key := by
  induction values with
  | nil => rfl
  | cons value rest ih =>
      have hrest := ih fun other hmem => h other (List.mem_cons_of_mem value hmem)
      cases hvalue : p value with
      | true => simp [updateFirst, hvalue, h value List.mem_cons_self hvalue]
      | false => simp [updateFirst, hvalue, hrest]

/-- What every entry has and a replacement keeps, every entry has. -/
theorem forall_updateFirst {p : α -> Bool} {f : α -> α} {q : α -> Prop}
    {values : List α} (h : forall value, value ∈ values -> q value)
    (hf : forall value, value ∈ values -> p value = true -> q (f value)) :
    forall value, value ∈ updateFirst p f values -> q value := by
  induction values with
  | nil =>
      intro value hmem
      cases hmem
  | cons first rest ih =>
      have hrest := ih (fun other hmem => h other (List.mem_cons_of_mem first hmem))
        fun other hmem => hf other (List.mem_cons_of_mem first hmem)
      intro value hmem
      cases hfirst : p first with
      | true =>
          rw [updateFirst, hfirst, if_pos rfl] at hmem
          rcases List.mem_cons.mp hmem with heq | hmem
          · rw [heq]
            exact hf first List.mem_cons_self hfirst
          · exact h value (List.mem_cons_of_mem first hmem)
      | false =>
          rw [updateFirst, hfirst, if_neg Bool.false_ne_true] at hmem
          rcases List.mem_cons.mp hmem with heq | hmem
          · rw [heq]
            exact h first List.mem_cons_self
          · exact hrest value hmem

/-- Updating once for each request. -/
theorem map_foldl_updateFirst {γ : Type} {p : γ -> α -> Bool} (f : γ -> α -> α)
    {key : α -> β} (h : forall request value, key (f request value) = key value)
    (requests : List γ) (values : List α) :
    (requests.foldl (fun current request =>
      updateFirst (p request) (f request) current) values).map key =
      values.map key := by
  induction requests generalizing values with
  | nil => rfl
  | cons request rest ih =>
      rw [List.foldl_cons, ih]
      exact map_updateFirst values fun value _ _ => h request value

/-- What one request preserves, a list of requests preserves. -/
theorem foldl_invariant {γ σ : Type} {f : σ -> γ -> σ} (inv : σ -> Prop)
    {requests : List γ}
    (hstep : forall s request, request ∈ requests -> inv s -> inv (f s request))
    {s : σ} (hinit : inv s) : inv (requests.foldl f s) := by
  induction requests generalizing s with
  | nil => exact hinit
  | cons request rest ih =>
      apply ih
      · intro s' other hmem
        exact hstep s' other (List.mem_cons_of_mem request hmem)
      · exact hstep s request List.mem_cons_self hinit

/-!
## Closing a gap

`memmove` moves the entries after the gap down by one and leaves the last slot
as it was, so an array keeps its length and its last entry stands twice.
-/

def shiftOutFirst (p : α -> Bool) (values : List α) : List α :=
  if values.any p then values.eraseP p ++ values.getLast?.toList else values

theorem shiftOutFirst_of_forall_not {p : α -> Bool} {values : List α}
    (h : forall value, value ∈ values -> p value = false) :
    shiftOutFirst p values = values := by
  have hany : values.any p = false := by
    rw [List.any_eq_false]
    intro value hmem
    simp [h value hmem]
  simp [shiftOutFirst, hany]

theorem shiftOutFirst_append_cons {p : α -> Bool} {front : List α} {value : α}
    (hfront : forall other, other ∈ front -> p other = false)
    (hvalue : p value = true) (back : List α) :
    shiftOutFirst p (front ++ value :: back) =
      front ++ back ++ ((value :: back).getLast?).toList := by
  have hany : (front ++ value :: back).any p = true := by
    simp [hvalue]
  have hnone : forall other, other ∈ front -> ¬ p other = true := by
    intro other hmem
    simp [hfront other hmem]
  have hlast : (front ++ value :: back).getLast? = (value :: back).getLast? := by
    simp [List.getLast?_append, List.getLast?_cons]
  rw [shiftOutFirst, hany, if_pos rfl, List.eraseP_append_right _ hnone,
    List.eraseP_cons_of_pos hvalue, hlast]

/-- Once the gap is closed, only the copy in the last slot can still match, and
moving nothing over it changes nothing. -/
theorem shiftOutFirst_of_shifted {p : α -> Bool} {front back : List α} {value : α}
    (hothers : forall other, other ∈ front ++ back -> p other = false) :
    shiftOutFirst p (front ++ back ++ ((value :: back).getLast?).toList) =
      front ++ back ++ ((value :: back).getLast?).toList := by
  have hfront : forall other, other ∈ front -> p other = false :=
    fun other hmem => hothers other (List.mem_append_left back hmem)
  cases back with
  | nil =>
      cases hvalue : p value with
      | true =>
          have hshift := shiftOutFirst_append_cons hfront hvalue []
          simpa using hshift
      | false =>
          apply shiftOutFirst_of_forall_not
          intro other hmem
          have hcases : other ∈ front ∨ other = value := by simpa using hmem
          cases hcases with
          | inl hold => exact hfront other hold
          | inr heq =>
              rw [heq]
              exact hvalue
  | cons next rest =>
      apply shiftOutFirst_of_forall_not
      intro other hmem
      cases List.mem_append.mp hmem with
      | inl hold => exact hothers other hold
      | inr hlast =>
          have hback : other ∈ next :: rest := by
            rw [List.getLast?_cons_cons] at hlast
            exact List.mem_of_getLast? (Option.mem_toList.mp hlast)
          exact hothers other (List.mem_append_right front hback)

/-- Of many requests that match the same entry, the first closes the gap. -/
theorem foldl_shiftOutFirst_of_one {γ : Type} {p : γ -> α -> Bool}
    {front back : List α} {value : α} {requests : List γ}
    (hothers : forall request, request ∈ requests ->
      forall other, other ∈ front ++ back -> p request other = false) :
    requests.foldl (fun values request => shiftOutFirst (p request) values)
        (front ++ value :: back) =
      if requests.any (fun request => p request value) then
        front ++ back ++ ((value :: back).getLast?).toList
      else front ++ value :: back := by
  induction requests with
  | nil => rfl
  | cons request rest ih =>
      have hrequest := hothers request List.mem_cons_self
      have hrest : forall other, other ∈ rest ->
          forall entry, entry ∈ front ++ back -> p other entry = false :=
        fun other hmem => hothers other (List.mem_cons_of_mem request hmem)
      rw [List.foldl_cons, List.any_cons]
      cases hvalue : p request value with
      | true =>
          have hfront : forall other, other ∈ front -> p request other = false :=
            fun other hmem => hrequest other (List.mem_append_left back hmem)
          rw [shiftOutFirst_append_cons hfront hvalue, Bool.true_or, if_pos rfl]
          apply foldl_invariant fun values =>
            values = front ++ back ++ ((value :: back).getLast?).toList
          · intro values other hmem heq
            rw [heq]
            exact shiftOutFirst_of_shifted (hrest other hmem)
          · rfl
      | false =>
          have hnone : forall other, other ∈ front ++ value :: back ->
              p request other = false := by
            intro other hmem
            cases List.mem_append.mp hmem with
            | inl hfront => exact hrequest other (List.mem_append_left back hfront)
            | inr hlater =>
                cases List.mem_cons.mp hlater with
                | inl heq =>
                    rw [heq]
                    exact hvalue
                | inr hback =>
                    exact hrequest other (List.mem_append_right front hback)
          rw [shiftOutFirst_of_forall_not hnone, Bool.false_or]
          exact ih hrest

theorem length_shiftOutFirst (p : α -> Bool) (values : List α) :
    (shiftOutFirst p values).length = values.length := by
  cases scan_cases p values with
  | inl hnone => rw [shiftOutFirst_of_forall_not hnone]
  | inr hsome =>
      rcases hsome with ⟨front, value, back, rfl, hfront, hvalue⟩
      rw [shiftOutFirst_append_cons hfront hvalue]
      simp [List.getLast?_cons]

theorem shiftOutFirst_subset (p : α -> Bool) (values : List α) :
    shiftOutFirst p values ⊆ values := by
  intro entry hmem
  unfold shiftOutFirst at hmem
  split at hmem
  · cases List.mem_append.mp hmem with
    | inl herased => exact List.mem_of_mem_eraseP herased
    | inr hlast => exact List.mem_of_getLast? (Option.mem_toList.mp hlast)
  · exact hmem

/-- An array that ends in copies of one entry: a gap before them adds a copy. -/
theorem shiftOutFirst_replicate (p : α -> Bool) (front : List α) (last : α) (n : Nat) :
    shiftOutFirst p (front ++ List.replicate (n + 1) last) =
      front.eraseP p ++
        List.replicate (front.length - (front.eraseP p).length + (n + 1)) last := by
  have hcopies : List.replicate n last ++ [last] = List.replicate (n + 1) last :=
    List.replicate_succ'.symm
  cases scan_cases p front with
  | inl hnone =>
      have herase : front.eraseP p = front :=
        List.eraseP_of_forall_not fun other hmem => by simp [hnone other hmem]
      rw [herase, Nat.sub_self, Nat.zero_add]
      cases hlast : p last with
      | true =>
          have hback : ((last :: List.replicate n last).getLast?).toList = [last] := by
            rw [← List.replicate_succ, List.getLast?_replicate]
            rfl
          rw [List.replicate_succ, shiftOutFirst_append_cons hnone hlast, hback,
            List.append_assoc, hcopies, ← List.replicate_succ]
      | false =>
          apply shiftOutFirst_of_forall_not
          intro other hmem
          rcases List.mem_append.mp hmem with hfront | hcopy
          · exact hnone other hfront
          · rw [List.eq_of_mem_replicate hcopy]
            exact hlast
  | inr hsome =>
      rcases hsome with ⟨before, value, after, rfl, hbefore, hvalue⟩
      have herase : (before ++ value :: after).eraseP p = before ++ after := by
        rw [List.eraseP_append_right _ fun other hmem => by simp [hbefore other hmem],
          List.eraseP_cons_of_pos hvalue]
      have hlast : ((value :: (after ++ List.replicate (n + 1) last)).getLast?).toList =
          [last] := by
        simp [List.getLast?_cons, List.getLast?_append, List.getLast?_replicate]
      have hlength : (before ++ value :: after).length - (before ++ after).length = 1 := by
        simp only [List.length_append, List.length_cons]
        omega
      have hmore : List.replicate (n + 1) last ++ [last] =
          List.replicate (n + 1 + 1) last :=
        List.replicate_succ'.symm
      rw [herase, hlength, List.append_assoc, List.cons_append,
        shiftOutFirst_append_cons hbefore hvalue, hlast, Nat.add_comm 1, ← hmore]
      simp only [List.append_assoc]

/-- After many gaps the copies are as many as the entries that are gone. -/
theorem foldl_shiftOutFirst_replicate {γ : Type} (p : γ -> α -> Bool)
    (requests : List γ) (front : List α) (last : α) (n : Nat) :
    requests.foldl (fun values request => shiftOutFirst (p request) values)
        (front ++ List.replicate (n + 1) last) =
      requests.foldl (fun values request => values.eraseP (p request)) front ++
        List.replicate (front.length -
          (requests.foldl (fun values request => values.eraseP (p request)) front).length +
            (n + 1)) last := by
  induction requests generalizing front n with
  | nil => rw [List.foldl_nil, List.foldl_nil, Nat.sub_self, Nat.zero_add]
  | cons request rest ih =>
      have hshorter : (rest.foldl (fun values request => values.eraseP (p request))
          (front.eraseP (p request))).length <= (front.eraseP (p request)).length := by
        apply foldl_invariant fun values : List α =>
          values.length <= (front.eraseP (p request)).length
        · intro values other _ hvalues
          exact Nat.le_trans (List.length_eraseP_le) hvalues
        · exact Nat.le_refl _
      have herase : (front.eraseP (p request)).length <= front.length :=
        List.length_eraseP_le
      rw [List.foldl_cons, List.foldl_cons, shiftOutFirst_replicate, ← Nat.add_assoc, ih]
      congr 2
      omega

end Foundation
end Noc
