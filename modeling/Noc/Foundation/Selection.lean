import Mathlib.Data.List.Forall2
import Noc.Foundation.Scan

/-!
# Selection by key

What the requests of an edit may do to a store: an entry is replaced, changed or
dropped only where some request's key selects the entry's.  The selection is a
parameter, so that a looser one can be compared with a stricter one.
-/

namespace Noc
namespace Foundation

section

variable {α κ : Type} (key : α -> κ) (selects : κ -> κ -> Prop)

def Selected (requests : List α) (entry : α) : Prop :=
  exists request, request ∈ requests ∧ selects (key request) (key entry)

/-- An entry stays as it is or makes way for a request that selects it. -/
def Replaced (requests before after : List α) : Prop :=
  List.Forall₂ (fun old new =>
    new = old ∨ new ∈ requests ∧ selects (key new) (key old)) before after

/-- An entry keeps its key, and all of it unless it is selected. -/
def Edited (requests before after : List α) : Prop :=
  List.Forall₂ (fun old new =>
    key new = key old ∧ (new = old ∨ Selected key selects requests old))
    before after

/-- The entries that remain were there, and fewer copies of an entry remain only
if it is selected. -/
structure Dropped [DecidableEq α] (requests before after : List α) : Prop where
  kept : after ⊆ before
  dropped : forall entry, after.count entry < before.count entry ->
    Selected key selects requests entry

end

section

variable {α κ : Type} {key : α -> κ} {selects selects' : κ -> κ -> Prop}
  {requests before after current : List α} {p : α -> Bool}

/-!
## Changing the selection
-/

theorem Selected.mono {entry : α}
    (himp : forall request, request ∈ requests ->
      selects (key request) (key entry) -> selects' (key request) (key entry))
    (h : Selected key selects requests entry) :
    Selected key selects' requests entry := by
  rcases h with ⟨request, hmem, hselects⟩
  exact ⟨request, hmem, himp request hmem hselects⟩

theorem Replaced.mono
    (himp : forall request, request ∈ requests -> forall entry, entry ∈ before ->
      selects (key request) (key entry) -> selects' (key request) (key entry))
    (h : Replaced key selects requests before after) :
    Replaced key selects' requests before after := by
  have hmem := (List.forall₂_and_left before after).mpr
    ⟨fun _ hmem => hmem, h⟩
  refine hmem.imp ?_
  intro old new hboth
  cases hboth.2 with
  | inl hsame => exact Or.inl hsame
  | inr hnew =>
      exact Or.inr ⟨hnew.1, himp new hnew.1 old hboth.1 hnew.2⟩

theorem Edited.mono
    (himp : forall request, request ∈ requests -> forall entry, entry ∈ before ->
      selects (key request) (key entry) -> selects' (key request) (key entry))
    (h : Edited key selects requests before after) :
    Edited key selects' requests before after := by
  have hmem := (List.forall₂_and_left before after).mpr
    ⟨fun _ hmem => hmem, h⟩
  refine hmem.imp ?_
  intro old new hboth
  refine ⟨hboth.2.1, hboth.2.2.imp_right ?_⟩
  exact Selected.mono fun request hrequest =>
    himp request hrequest old hboth.1

theorem Dropped.mono [DecidableEq α]
    (himp : forall request, request ∈ requests -> forall entry, entry ∈ before ->
      selects (key request) (key entry) -> selects' (key request) (key entry))
    (h : Dropped key selects requests before after) :
    Dropped key selects' requests before after where
  kept := h.kept
  dropped := by
    intro entry hcount
    have hmem : entry ∈ before :=
      List.count_pos_iff.mp (Nat.zero_lt_of_lt hcount)
    exact (h.dropped entry hcount).mono fun request hrequest =>
      himp request hrequest entry hmem

/-!
## No edit
-/

theorem Replaced.refl (requests before : List α) :
    Replaced key selects requests before before :=
  List.forall₂_same.mpr fun _ _ => Or.inl rfl

theorem Edited.refl (requests before : List α) :
    Edited key selects requests before before :=
  List.forall₂_same.mpr fun _ _ => ⟨rfl, Or.inl rfl⟩

theorem Dropped.refl [DecidableEq α] (requests before : List α) :
    Dropped key selects requests before before where
  kept := fun _ hmem => hmem
  dropped := fun _ hcount => absurd hcount (Nat.lt_irrefl _)

/-!
## One more request

Entry by entry, the loops that replace the first match and all matches.
-/

theorem forall₂_updateFirst {rel : α -> α -> Prop} {f : α -> α}
    (hstep : forall old new, rel old new -> p new = true -> rel old (f new))
    (h : List.Forall₂ rel before current) :
    List.Forall₂ rel before (updateFirst p f current) := by
  induction h with
  | nil => exact List.Forall₂.nil
  | @cons old new olds news hfirst hrest ih =>
      unfold updateFirst
      cases hp : p new with
      | true => exact List.Forall₂.cons (hstep old new hfirst hp) hrest
      | false => exact List.Forall₂.cons hfirst ih

theorem forall₂_replaceAll {rel : α -> α -> Prop} {f : α -> α}
    (hstep : forall old new, rel old new -> p new = true -> rel old (f new))
    (h : List.Forall₂ rel before current) :
    List.Forall₂ rel before
      (current.map fun entry => if p entry then f entry else entry) := by
  rw [List.forall₂_map_right_iff]
  refine h.imp ?_
  intro old new hrel
  cases hp : p new with
  | true => exact hstep old new hrel hp
  | false => exact hrel

/-- A request takes the place of an earlier one that it selects. -/
theorem replaced_of_selects {request old new : α}
    (htrans : forall a b c, selects a b -> selects b c -> selects a c)
    (hmem : request ∈ requests) (hselects : selects (key request) (key new))
    (h : new = old ∨ new ∈ requests ∧ selects (key new) (key old)) :
    request = old ∨ request ∈ requests ∧ selects (key request) (key old) := by
  right
  refine ⟨hmem, ?_⟩
  cases h with
  | inl hsame =>
      rw [← hsame]
      exact hselects
  | inr hnew => exact htrans _ _ _ hselects hnew.2

/-- An edit that keeps the key marks an entry as selected. -/
theorem edited_of_selects {request old new edited : α}
    (hmem : request ∈ requests) (hkey : key edited = key new)
    (hselects : selects (key request) (key new))
    (h : key new = key old ∧ (new = old ∨ Selected key selects requests old)) :
    key edited = key old ∧
      (edited = old ∨ Selected key selects requests old) := by
  refine ⟨hkey.trans h.1, Or.inr ⟨request, hmem, ?_⟩⟩
  rw [← h.1]
  exact hselects

theorem Edited.updateFirst {f : α -> α} {request : α}
    (hmem : request ∈ requests) (hkey : forall entry, key (f entry) = key entry)
    (hselects : forall entry, p entry = true ->
      selects (key request) (key entry))
    (h : Edited key selects requests before current) :
    Edited key selects requests before (updateFirst p f current) := by
  apply forall₂_updateFirst _ h
  intro old new hrel hp
  exact edited_of_selects hmem (hkey new) (hselects new hp) hrel

/-!
## One more removal
-/

variable [DecidableEq α]

theorem of_count_eraseP_lt {entry : α}
    (h : (current.eraseP p).count entry < current.count entry) :
    p entry = true := by
  cases List.exists_or_eq_self_of_eraseP p current with
  | inl hsame =>
      rw [hsame] at h
      exact absurd h (Nat.lt_irrefl _)
  | inr hsplit =>
      rcases hsplit with ⟨value, front, back, _, hvalue, hcurrent, herased⟩
      rw [herased, hcurrent, List.count_append, List.count_append,
        List.count_cons] at h
      cases hentry : value == entry with
      | true =>
          rw [← LawfulBEq.eq_of_beq hentry]
          exact hvalue
      | false =>
          rw [hentry] at h
          exact absurd h (Nat.lt_irrefl _)

theorem Dropped.eraseP {request : α} (hmem : request ∈ requests)
    (hselects : forall entry, p entry = true ->
      selects (key request) (key entry))
    (h : Dropped key selects requests before current) :
    Dropped key selects requests before (current.eraseP p) where
  kept := fun _ hentry => h.kept (List.mem_of_mem_eraseP hentry)
  dropped := by
    intro entry hcount
    by_cases hlost : (current.eraseP p).count entry < current.count entry
    · exact ⟨request, hmem, hselects entry (of_count_eraseP_lt hlost)⟩
    · exact h.dropped entry (Nat.lt_of_le_of_lt (Nat.le_of_not_lt hlost) hcount)

/-!
An array that entries are moved out of keeps its length.  The entries that
count are the front of it, and after the first move something stands behind
them.
-/

structure Shifted (key : α -> κ) (selects : κ -> κ -> Prop)
    (requests before array : List α) (moved : Bool) : Prop where
  length : array.length = before.length
  subset : array ⊆ before
  front : exists kept rest, array = kept ++ rest ∧
    (moved = true -> rest ≠ []) ∧
    forall entry, kept.count entry < before.count entry ->
      Selected key selects requests entry

theorem Shifted.refl (requests before : List α) :
    Shifted key selects requests before before false where
  length := rfl
  subset := fun _ hmem => hmem
  front := ⟨before, [], (List.append_nil before).symm,
    fun hmoved => absurd hmoved Bool.false_ne_true,
    fun _ hcount => absurd hcount (Nat.lt_irrefl _)⟩

theorem Shifted.shiftOutFirst {request : α} {moved : Bool} {array : List α}
    (hmem : request ∈ requests)
    (hselects : forall entry, p entry = true ->
      selects (key request) (key entry))
    (h : Shifted key selects requests before array moved) :
    Shifted key selects requests before (shiftOutFirst p array)
      (moved || array.any p) where
  length := (length_shiftOutFirst p array).trans h.length
  subset := fun _ hentry => h.subset (shiftOutFirst_subset p array hentry)
  front := by
    rcases h.front with ⟨kept, rest, harray, hrest, hkept⟩
    cases hany : array.any p with
    | false =>
        rw [Foundation.shiftOutFirst, hany, if_neg Bool.false_ne_true]
        rw [Bool.or_false]
        exact ⟨kept, rest, harray, hrest, hkept⟩
    | true =>
        -- The last slot keeps its content, so the rest is not empty.
        have hlast : array.getLast?.toList ≠ [] := by
          cases hgetLast : array.getLast? with
          | none =>
              rw [List.getLast?_eq_none_iff.mp hgetLast] at hany
              cases hany
          | some last => simp
        rw [Foundation.shiftOutFirst, hany, if_pos rfl]
        cases hfront : kept.any p with
        | true =>
            rcases List.any_eq_true.mp hfront with ⟨value, hvalue, hp⟩
            refine ⟨kept.eraseP p, rest ++ array.getLast?.toList, ?_, ?_, ?_⟩
            · rw [harray, List.eraseP_append_left hp _ hvalue,
                List.append_assoc]
            · intro _ hnil
              exact hlast (List.append_eq_nil_iff.mp hnil).2
            · intro entry hcount
              by_cases hlost : (kept.eraseP p).count entry < kept.count entry
              · exact ⟨request, hmem,
                  hselects entry (of_count_eraseP_lt hlost)⟩
              · exact hkept entry
                  (Nat.lt_of_le_of_lt (Nat.le_of_not_lt hlost) hcount)
        | false =>
            refine ⟨kept, rest.eraseP p ++ array.getLast?.toList, ?_, ?_, hkept⟩
            · have hnone : forall value, value ∈ kept -> ¬ p value = true := by
                intro value hvalue hp
                rw [List.any_eq_true.mpr ⟨value, hvalue, hp⟩] at hfront
                cases hfront
              rw [← List.append_assoc, ← List.eraseP_append_right _ hnone,
                ← harray]
            · intro _ hnil
              exact hlast (List.append_eq_nil_iff.mp hnil).2

/-- The count drops by one if anything was moved, which leaves the front. -/
theorem Shifted.dropped {moved : Bool} {array : List α}
    (h : Shifted key selects requests before array moved) :
    Dropped key selects requests before
      (if moved then array.take (before.length - 1) else array) := by
  rcases h.front with ⟨kept, rest, harray, hrest, hkept⟩
  cases moved with
  | false =>
      refine ⟨h.subset, fun entry hcount => hkept entry ?_⟩
      refine Nat.lt_of_le_of_lt ?_ hcount
      rw [if_neg Bool.false_ne_true, harray]
      exact (List.sublist_append_left kept rest).count_le entry
  | true =>
      have hlength : kept.length + rest.length = before.length := by
        rw [← h.length, harray, List.length_append]
      have hpos : 0 < rest.length := List.length_pos_of_ne_nil (hrest rfl)
      rw [if_pos rfl]
      refine ⟨fun entry hentry => h.subset (List.mem_of_mem_take hentry), ?_⟩
      intro entry hcount
      apply hkept
      refine Nat.lt_of_le_of_lt ?_ hcount
      have hstarts : kept <+: array.take (before.length - 1) := by
        rw [List.prefix_take_iff]
        exact ⟨⟨rest, harray.symm⟩, by omega⟩
      exact hstarts.sublist.count_le entry

end

end Foundation
end Noc
