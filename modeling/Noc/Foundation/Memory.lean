import Mathlib.Data.List.Nodup

/-!
# Uses of memory

What a C program does with texts and blocks and its language leaves undefined: a
text that is longer than its array, a format that takes an argument where none is
passed, a block that is read or released after its release, and a release of what
was never allocated.
-/

namespace Noc
namespace Foundation

/-!
## Formats

A format is followed with the flag whether a `%` has just been read.  Without an
argument `%%` prints the sign and `%m` the last error.
-/

def formatFrom : Bool -> List Char -> Bool
  | sign, [] => !sign
  | true, c :: rest => (c == '%' || c == 'm') && formatFrom false rest
  | false, c :: rest => formatFrom (c == '%') rest

def takesNoArgument (format : String) : Bool :=
  formatFrom false format.toList

section

variable {front back : List Char}

theorem formatFrom_append_of_notMem (h : '%' ∉ front) :
    formatFrom false (front ++ back) = formatFrom false back := by
  induction front with
  | nil => rfl
  | cons c rest ih =>
      simp only [List.mem_cons, not_or] at h
      have hsign : (c == '%') = false := beq_false_of_ne (Ne.symm h.1)
      show formatFrom (c == '%') (rest ++ back) = _
      rw [hsign, ih h.2]

/-- What follows does not complete a sign at the end of what stands before. -/
def Separate (back : List Char) : Prop :=
  back.head? ≠ some '%' ∧ back.head? ≠ some 'm'

theorem formatFrom_append (h : Separate back) (sign : Bool) (front : List Char) :
    formatFrom sign (front ++ back) =
      (formatFrom sign front && formatFrom false back) := by
  induction front generalizing sign with
  | nil =>
      cases sign with
      | false => rfl
      | true =>
          cases back with
          | nil => rfl
          | cons c rest =>
              have hsign : (c == '%') = false := by
                apply beq_false_of_ne
                rintro rfl
                exact h.1 rfl
              have hm : (c == 'm') = false := by
                apply beq_false_of_ne
                rintro rfl
                exact h.2 rfl
              rw [List.nil_append]
              unfold formatFrom
              rw [hsign, hm]
              rfl
  | cons c rest ih =>
      cases sign with
      | true =>
          show ((c == '%' || c == 'm') && formatFrom false (rest ++ back)) = _
          rw [ih false, ← Bool.and_assoc]
          rfl
      | false => exact ih (c == '%')

theorem takesNoArgument_of_notMem {text : String} (h : '%' ∉ text.toList) :
    takesNoArgument text = true := by
  have hnil : formatFrom false (text.toList ++ []) = true :=
    formatFrom_append_of_notMem h
  rwa [List.append_nil] at hnil

theorem takesNoArgument_int (value : Int) :
    takesNoArgument (toString value) = true := by
  have hrepr : toString value = if 0 <= value then value.toNat.repr
      else "-" ++ (-value).toNat.repr := Int.repr_eq_if
  have hdigits : forall n : Nat, '%' ∉ n.repr.toList := by
    intro n hmem
    rw [Nat.toList_repr] at hmem
    exact absurd (Nat.isDigit_of_mem_toDigits (by decide) (by decide) hmem) (by decide)
  apply takesNoArgument_of_notMem
  rw [hrepr]
  split
  · exact hdigits _
  · rw [String.toList_append, List.mem_append, not_or]
    exact ⟨by decide, hdigits _⟩

end

/-!
## Uses

`κ` names the blocks.
-/

inductive MemoryUse (κ : Type) where
  /-- A text is written into an array of so many bytes. -/
  | write (size : Nat) (text : String)
  /-- A text is printed as a format, without arguments. -/
  | print (format : String)
  | read (block : κ)
  | release (block : κ)
  /-- What is released was never allocated. -/
  | releaseUnallocated

namespace MemoryUse

variable {κ : Type}

/-- What a use asks of the blocks that have been released before it. -/
def Sound (released : List κ) : MemoryUse κ -> Prop
  | write size text => text.utf8ByteSize < size
  | print format => takesNoArgument format = true
  | read block => block ∉ released
  | release block => block ∉ released
  | releaseUnallocated => False

def reads : MemoryUse κ -> List κ
  | read block => [block]
  | _ => []

def releases : MemoryUse κ -> List κ
  | release block => [block]
  | _ => []

end MemoryUse

/-- None of the uses is undefined, where some blocks have been released before. -/
def Clean {κ : Type} : List κ -> List (MemoryUse κ) -> Prop
  | _, [] => True
  | released, use :: rest =>
      use.Sound released ∧ Clean (released ++ use.releases) rest

section

variable {κ : Type} {released : List κ} {uses front back : List (MemoryUse κ)}

theorem clean_append :
    Clean released (front ++ back) <->
      Clean released front ∧
        Clean (released ++ front.flatMap MemoryUse.releases) back := by
  induction front generalizing released with
  | nil => simp [Clean]
  | cons use rest ih =>
      simp only [List.cons_append, Clean, List.flatMap_cons]
      rw [ih, and_assoc, List.append_assoc]

/-- A use that reads nothing fails by itself or by a block it releases again. -/
theorem sound_iff {use : MemoryUse κ} (hreads : use.reads = []) :
    use.Sound released <->
      use.Sound [] ∧ forall block, block ∈ use.releases -> block ∉ released := by
  cases use with
  | read block => cases hreads
  | release block =>
      simp [MemoryUse.Sound, MemoryUse.releases]
  | _ => simp [MemoryUse.Sound, MemoryUse.releases]

/-- Where nothing is read, each use has to be sound by itself and no block may be
released twice. -/
theorem clean_iff (hreads : forall use, use ∈ uses -> use.reads = []) :
    Clean released uses <->
      (forall use, use ∈ uses -> use.Sound []) ∧
        (uses.flatMap MemoryUse.releases).Nodup ∧
          forall block, block ∈ uses.flatMap MemoryUse.releases ->
            block ∉ released := by
  induction uses generalizing released with
  | nil => simp [Clean]
  | cons use rest ih =>
      rw [List.forall_mem_cons] at hreads
      unfold Clean
      rw [sound_iff hreads.1, ih hreads.2, List.flatMap_cons, List.nodup_append,
        List.forall_mem_cons, List.forall_mem_append]
      have hfresh : (forall block, block ∈ rest.flatMap MemoryUse.releases ->
            block ∉ released ++ use.releases) <->
          (forall block, block ∈ use.releases -> forall other,
            other ∈ rest.flatMap MemoryUse.releases -> block ≠ other) ∧
          forall block, block ∈ rest.flatMap MemoryUse.releases -> block ∉ released := by
        constructor
        · intro h
          constructor
          · rintro block hblock _ hother rfl
            exact h block hother (List.mem_append_right _ hblock)
          · intro block hblock hreleased
            exact h block hblock (List.mem_append_left _ hreleased)
        · rintro ⟨hdistinct, h⟩ block hblock hmem
          rcases List.mem_append.mp hmem with hreleased | huse
          · exact h block hblock hreleased
          · exact hdistinct block huse block hblock rfl
      have hone : use.releases.Nodup := by
        cases use <;> simp [MemoryUse.releases]
      rw [hfresh]
      constructor
      · rintro ⟨⟨hsound, huse⟩, hrest, hnodup, hdistinct, hothers⟩
        exact ⟨⟨hsound, hrest⟩, ⟨hone, hnodup, hdistinct⟩, huse, hothers⟩
      · rintro ⟨⟨hsound, hrest⟩, ⟨_, hnodup, hdistinct⟩, huse, hothers⟩
        exact ⟨⟨hsound, huse⟩, hrest, hnodup, hdistinct, hothers⟩

end

/-!
## What a list of uses needs

A list that reads nothing is clean when its texts meet a condition and the blocks
it releases are distinct.
-/

structure Needs {κ : Type} (uses : List (MemoryUse κ)) (blocks : List κ)
    (condition : Prop) : Prop where
  reads : forall use, use ∈ uses -> use.reads = []
  releases : uses.flatMap MemoryUse.releases = blocks
  sound : (forall use, use ∈ uses -> use.Sound []) <-> condition

section

variable {κ : Type} {uses front back : List (MemoryUse κ)}
  {blocks blocks' : List κ} {condition condition' : Prop}

theorem Needs.clean_iff (h : Needs uses blocks condition) :
    Clean [] uses <-> condition ∧ blocks.Nodup := by
  rw [Foundation.clean_iff h.reads, h.sound, h.releases]
  exact and_congr_right fun _ =>
    and_iff_left fun block _ => List.not_mem_nil

theorem Needs.congr (h : Needs uses blocks condition)
    (hcondition : condition <-> condition') : Needs uses blocks condition' :=
  ⟨h.reads, h.releases, h.sound.trans hcondition⟩

theorem Needs.append (hfront : Needs front blocks condition)
    (hback : Needs back blocks' condition') :
    Needs (front ++ back) (blocks ++ blocks') (condition ∧ condition') := by
  constructor
  · intro use hmem
    rcases List.mem_append.mp hmem with hmem | hmem
    · exact hfront.reads use hmem
    · exact hback.reads use hmem
  · rw [List.flatMap_append, hfront.releases, hback.releases]
  · rw [List.forall_mem_append, hfront.sound, hback.sound]

theorem needs_nil : Needs ([] : List (MemoryUse κ)) [] True :=
  ⟨List.forall_mem_nil _, rfl, iff_of_true (List.forall_mem_nil _) trivial⟩

theorem needs_write (size : Nat) (text : String) :
    Needs ([.write size text] : List (MemoryUse κ)) []
      (text.utf8ByteSize < size) :=
  ⟨List.forall_mem_singleton.mpr rfl, rfl, List.forall_mem_singleton⟩

theorem needs_print (format : String) :
    Needs ([.print format] : List (MemoryUse κ)) []
      (takesNoArgument format = true) :=
  ⟨List.forall_mem_singleton.mpr rfl, rfl, List.forall_mem_singleton⟩

theorem needs_release (block : κ) :
    Needs [.release block] [block] True :=
  ⟨List.forall_mem_singleton.mpr rfl, rfl,
    iff_of_true (List.forall_mem_singleton.mpr List.not_mem_nil) trivial⟩

/-- One use after the other, each for an item. -/
theorem needs_map {α : Type} {use : α -> MemoryUse κ} {block : α -> List κ}
    {condition : α -> Prop} (h : forall a, Needs [use a] (block a) (condition a))
    (items : List α) :
    Needs (items.map use) (items.flatMap block)
      (forall a, a ∈ items -> condition a) := by
  induction items with
  | nil => exact needs_nil.congr (iff_of_true trivial (List.forall_mem_nil _))
  | cons item rest ih =>
      exact ((h item).append ih).congr List.forall_mem_cons.symm

theorem needs_writes (size : Nat) (texts : List String) :
    Needs (texts.map (.write size) : List (MemoryUse κ)) []
      (forall text, text ∈ texts -> text.utf8ByteSize < size) := by
  have h : Needs (texts.map (.write size) : List (MemoryUse κ))
      (texts.flatMap fun _ => []) _ := needs_map (needs_write size) texts
  rwa [List.flatMap_eq_nil_iff.mpr fun _ _ => rfl] at h

theorem needs_prints (formats : List String) :
    Needs (formats.map .print : List (MemoryUse κ)) []
      (forall format, format ∈ formats -> takesNoArgument format = true) := by
  have h : Needs (formats.map .print : List (MemoryUse κ))
      (formats.flatMap fun _ => []) _ := needs_map needs_print formats
  rwa [List.flatMap_eq_nil_iff.mpr fun _ _ => rfl] at h

theorem needs_releases (blocks : List κ) :
    Needs (blocks.map .release) blocks True := by
  have h := needs_map needs_release blocks
  rw [List.flatMap_singleton'] at h
  exact h.congr (iff_of_true (fun _ _ => trivial) trivial)

end

end Foundation
end Noc
