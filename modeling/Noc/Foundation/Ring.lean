import Mathlib.Data.List.Rotate
import Mathlib.Data.Nat.ModEq
import Mathlib.Tactic.Common

/-!
# Slots in a circle

Slots follow one another in a circle, and what is held lies in some of them, one
behind the other from a first one on.
-/

namespace Noc
namespace Foundation
namespace Ring

variable {α : Type} {slots : List α} {first count : Nat} {record : α}

/-- So many slots from the first one on. -/
def window (slots : List α) (first count : Nat) : List α :=
  (slots.rotate first).take count

@[simp] theorem window_zero (slots : List α) (first : Nat) :
    window slots first 0 = [] :=
  List.take_zero

theorem length_window (h : count <= slots.length) :
    (window slots first count).length = count := by
  rw [window, List.length_take, List.length_rotate, Nat.min_eq_left h]

theorem window_mod (slots : List α) (first count : Nat) :
    window slots (first % slots.length) count = window slots first count := by
  rw [window, List.rotate_mod, window]

theorem getElem?_window {index : Nat} (hindex : index < count)
    (hcount : count <= slots.length) :
    (window slots first count)[index]? = slots[(first + index) % slots.length]? := by
  rw [window, List.getElem?_take_of_lt hindex,
    List.getElem?_rotate (Nat.lt_of_lt_of_le hindex hcount), Nat.add_comm]

/-- To write into a slot of the circle is to write into the row it is unrolled
to. -/
theorem rotate_set {index : Nat} (hindex : index < slots.length) :
    (slots.set ((first + index) % slots.length) record).rotate first =
      (slots.rotate first).set index record := by
  apply List.ext_getElem?
  intro place
  by_cases hplace : place < slots.length
  · rw [List.getElem?_rotate (by rwa [List.length_set]), List.length_set,
      List.getElem?_set, List.getElem?_set, List.length_rotate,
      List.getElem?_rotate hplace]
    by_cases hsame : index = place
    · rw [if_pos (by rw [hsame, Nat.add_comm]), if_pos hsame,
        if_pos (Nat.mod_lt _ (Nat.zero_lt_of_lt hindex)), if_pos hindex]
    · rw [if_neg, if_neg hsame]
      intro hmod
      apply hsame
      rw [Nat.add_comm place first] at hmod
      have hcancel : Nat.ModEq slots.length index place :=
        Nat.ModEq.add_left_cancel' first hmod
      rwa [Nat.ModEq, Nat.mod_eq_of_lt hindex, Nat.mod_eq_of_lt hplace] at hcancel
  · rw [List.getElem?_eq_none, List.getElem?_eq_none]
    · rw [List.length_set, List.length_rotate]
      exact Nat.le_of_not_lt hplace
    · rw [List.length_rotate, List.length_set]
      exact Nat.le_of_not_lt hplace

/-- A record in the slot behind what is held is held too. -/
theorem window_set (h : count < slots.length) :
    window (slots.set ((first + count) % slots.length) record) first (count + 1) =
      window slots first count ++ [record] := by
  have hlength : (slots.rotate first).length = slots.length :=
    List.length_rotate _ _
  rw [window, rotate_set h, List.take_succ_eq_append_getElem (by simpa using h),
    List.getElem_set_self, List.take_set_of_le (Nat.le_refl _), window]

/-- Without the oldest record. -/
theorem window_succ (hpos : 0 < count) (h : count <= slots.length) :
    window slots (first + 1) (count - 1) = (window slots first count).tail := by
  have hrotate : slots.rotate (first + 1) = (slots.rotate first).rotate 1 := by
    rw [List.rotate_rotate]
  have hlength : (slots.rotate first).length = slots.length :=
    List.length_rotate _ _
  unfold window
  rw [hrotate]
  cases hrow : slots.rotate first with
  | nil =>
      rw [hrow] at hlength
      simp only [List.length_nil] at hlength
      omega
  | cons oldest rest =>
      rw [hrow, List.length_cons] at hlength
      obtain ⟨fewer, rfl⟩ := Nat.exists_eq_succ_of_ne_zero (Nat.ne_of_gt hpos)
      rw [List.rotate_cons_succ, List.rotate_zero, Nat.succ_sub_one,
        List.take_succ_cons, List.tail_cons,
        List.take_append_of_le_length (by omega)]

/-- When all slots are in use, a record in the first of them drives the oldest
record out. -/
theorem window_set_full (h : first < slots.length) :
    window (slots.set first record) (first + 1) slots.length =
      (window slots first slots.length).tail ++ [record] := by
  have hpos : 0 < slots.length := Nat.zero_lt_of_lt h
  have hset : (slots.set ((first + 0) % slots.length) record).rotate first =
      (slots.rotate first).set 0 record := rotate_set hpos
  rw [Nat.add_zero, Nat.mod_eq_of_lt h] at hset
  have hlength : (slots.rotate first).length = slots.length :=
    List.length_rotate _ _
  unfold window
  rw [← List.rotate_rotate, hset]
  cases hrow : slots.rotate first with
  | nil =>
      rw [hrow] at hlength
      simp only [List.length_nil] at hlength
      omega
  | cons oldest rest =>
      rw [hrow, List.length_cons] at hlength
      rw [List.set_cons_zero, List.rotate_cons_succ, List.rotate_zero,
        List.take_of_length_le (by rw [List.length_append, List.length_singleton]; omega),
        List.take_of_length_le (by rw [List.length_cons]; omega), List.tail_cons]

/-- Without the newest record. -/
theorem window_dropLast (h : count <= slots.length) :
    window slots first (count - 1) = (window slots first count).dropLast := by
  rw [List.dropLast_eq_take, length_window h, window, window, List.take_take,
    Nat.min_eq_left (Nat.sub_le _ _)]

end Ring
end Foundation
end Noc
