import Mathlib.Data.List.Basic
import Mathlib.Logic.Function.Basic

/-!
# Two threads that read, edit and write

Each of two threads copies a shared content and later replaces the content by
its edit of the copy.  Copying and replacing are atomic, and nothing keeps the
steps of the other thread out from between them.
-/

namespace Noc
namespace Foundation

/-- The third list runs through the first two, each in its order. -/
inductive Interleaves {α : Type} : List α -> List α -> List α -> Prop where
  | nil : Interleaves [] [] []
  | left {value : α} {xs ys zs : List α} (h : Interleaves xs ys zs) :
      Interleaves (value :: xs) ys (value :: zs)
  | right {value : α} {xs ys zs : List α} (h : Interleaves xs ys zs) :
      Interleaves xs (value :: ys) (value :: zs)

namespace Interleaves

variable {α : Type} {xs ys zs : List α}

theorem eq_of_nil_left (h : Interleaves [] ys zs) : zs = ys := by
  generalize hxs : ([] : List α) = xs at h
  induction h with
  | nil => rfl
  | left h ih => cases hxs
  | right h ih => rw [ih hxs]

theorem eq_of_nil_right (h : Interleaves xs [] zs) : zs = xs := by
  generalize hys : ([] : List α) = ys at h
  induction h with
  | nil => rfl
  | left h ih => rw [ih hys]
  | right h ih => cases hys

end Interleaves

inductive Access where
  | read (thread : Bool)
  | write (thread : Bool)
  deriving DecidableEq, Repr

/-- The shared content and what each thread has copied of it. -/
structure Shared (β : Type) where
  content : β
  copy : Bool -> Option β

namespace Shared

variable {β : Type}

def step (edit : Bool -> β -> β) (shared : Shared β) : Access -> Shared β
  | .read thread =>
      { shared with
        copy := Function.update shared.copy thread (some shared.content) }
  | .write thread =>
      match shared.copy thread with
      | some copied => { shared with content := edit thread copied }
      | none => shared

def run (edit : Bool -> β -> β) (content : β) (schedule : List Access) : β :=
  (schedule.foldl (step edit)
    { content := content, copy := fun _ => none }).content

end Shared

/-- A schedule in which both threads read once and then write once. -/
def Schedule (schedule : List Access) : Prop :=
  Interleaves [.read false, .write false] [.read true, .write true] schedule

/-- The threads run one after the other, or both read before both write. -/
theorem Schedule.cases {schedule : List Access} (h : Schedule schedule) :
    schedule = [.read false, .write false, .read true, .write true] ∨
      schedule = [.read true, .write true, .read false, .write false] ∨
      exists first second last, second = !first ∧
        schedule = [.read first, .read second, .write !last, .write last] := by
  unfold Schedule at h
  cases h with
  | left h =>
      cases h with
      | left h =>
          left
          rw [h.eq_of_nil_left]
      | right h =>
          right
          right
          cases h with
          | left h => exact ⟨false, true, true, rfl, by rw [h.eq_of_nil_left]; rfl⟩
          | right h =>
              exact ⟨false, true, false, rfl, by rw [h.eq_of_nil_right]; rfl⟩
  | right h =>
      cases h with
      | right h =>
          right
          left
          rw [h.eq_of_nil_right]
      | left h =>
          right
          right
          cases h with
          | left h => exact ⟨true, false, true, rfl, by rw [h.eq_of_nil_left]; rfl⟩
          | right h =>
              exact ⟨true, false, false, rfl, by rw [h.eq_of_nil_right]; rfl⟩

/-- What the threads leave: the second edit of the first when one writes before
the other reads, and otherwise the edit of the thread that writes last alone. -/
theorem run_of_schedule {β : Type} (edit : Bool -> β -> β) (content : β)
    {schedule : List Access} (h : Schedule schedule) :
    Shared.run edit content schedule =
      if [.write false, .read true].Sublist schedule then
        edit true (edit false content)
      else if [.write true, .read false].Sublist schedule then
        edit false (edit true content)
      else if schedule.getLast? = some (.write false) then edit false content
      else edit true content := by
  rcases h.cases with rfl | rfl | ⟨first, second, last, rfl, rfl⟩
  · rfl
  · rfl
  · cases first <;> cases last <;> rfl

end Foundation
end Noc
