import Mathlib.Data.List.Basic
import Mathlib.Tactic.Common

/-!
# Messages on the wire

Numbers stand in a message with their high byte first.  A name is a row of
labels, each behind a byte with its length.  It ends with an empty label, or
goes on at another place of the message: a byte whose two top bits are set
refers there, together with the byte behind it.
-/

namespace Noc
namespace Foundation
namespace Wire

abbrev Bytes := List UInt8

/-!
## Fields
-/

def u16At (message : Bytes) (offset : Nat) : Option Nat := do
  let high <- message[offset]?
  let low <- message[offset + 1]?
  return high.toNat * 256 + low.toNat

def u32At (message : Bytes) (offset : Nat) : Option Nat := do
  let high <- u16At message offset
  let low <- u16At message (offset + 2)
  return high * 65536 + low

def u16 (value : Nat) : Bytes :=
  [UInt8.ofNat (value / 256), UInt8.ofNat value]

def u32 (value : Nat) : Bytes :=
  u16 (value / 65536) ++ u16 value

@[simp] theorem length_u16 (value : Nat) : (u16 value).length = 2 := rfl

@[simp] theorem length_u32 (value : Nat) : (u32 value).length = 4 := rfl

section

variable {message front back : Bytes} {offset value : Nat}

theorem exists_u16At (message : Bytes) (offset : Nat)
    (h : offset + 2 <= message.length) :
    exists value, u16At message offset = some value := by
  refine ⟨message[offset].toNat * 256 + message[offset + 1].toNat, ?_⟩
  unfold u16At
  rw [List.getElem?_eq_getElem (by omega), List.getElem?_eq_getElem (by omega)]
  rfl

theorem exists_u32At (message : Bytes) (offset : Nat)
    (h : offset + 4 <= message.length) :
    exists value, u32At message offset = some value := by
  rcases exists_u16At message offset (by omega) with
    ⟨high, hhigh⟩
  rcases exists_u16At message (offset + 2) (by omega) with
    ⟨low, hlow⟩
  exact ⟨high * 65536 + low, by simp [u32At, hhigh, hlow]⟩

/-- A number written where the front ends is read there. -/
theorem u16At_u16 (front : Bytes) (h : value < 65536) (back : Bytes) :
    u16At (front ++ (u16 value ++ back)) front.length = some value := by
  have hhigh : (UInt8.ofNat (value / 256)).toNat = value / 256 := by
    rw [UInt8.toNat_ofNat', Nat.mod_eq_of_lt (by omega)]
  have hlow : (UInt8.ofNat value).toNat = value % 256 := UInt8.toNat_ofNat'
  unfold u16At u16
  rw [List.getElem?_append_right (Nat.le_refl _),
    List.getElem?_append_right (Nat.le_add_right _ 1), Nat.sub_self,
    Nat.add_sub_cancel_left]
  simp only [List.cons_append, List.getElem?_cons_zero, List.getElem?_cons_succ,
    Option.bind_eq_bind, Option.bind_some, hhigh, hlow]
  congr 1
  omega

theorem length_of_getElem? {byte : UInt8} (h : message[offset]? = some byte) :
    offset < message.length :=
  (List.getElem?_eq_some_iff.mp h).1

theorem length_of_u16At (h : u16At message offset = some value) :
    offset + 2 <= message.length := by
  cases hlow : message[offset + 1]? with
  | none => simp [u16At, hlow] at h
  | some low => exact length_of_getElem? hlow

end

/-!
## References
-/

def IsRef (byte : UInt8) : Prop :=
  192 <= byte.toNat

instance (byte : UInt8) : Decidable (IsRef byte) :=
  inferInstanceAs (Decidable (_ <= _))

/-- So many references, one after the other, lead from an offset to another one,
which is none itself. -/
inductive Leads (message : Bytes) : Nat -> Nat -> Nat -> Prop where
  | here {offset : Nat} {byte : UInt8} (hbyte : message[offset]? = some byte)
      (hplain : ¬ IsRef byte) : Leads message 0 offset offset
  | jump {count offset target place : Nat} {byte : UInt8}
      (hbyte : message[offset]? = some byte) (href : IsRef byte)
      (htarget : u16At message offset = some target)
      (hrest : Leads message count (target % 0x4000) place) :
      Leads message (count + 1) offset place

namespace Leads

variable {message : Bytes} {count offset place : Nat}

theorem plain (h : Leads message count offset place) :
    exists byte, message[place]? = some byte ∧ ¬ IsRef byte := by
  induction h with
  | here hbyte hplain => exact ⟨_, hbyte, hplain⟩
  | jump _ _ _ _ ih => exact ih

theorem unique {count' place' : Nat} (h : Leads message count offset place)
    (h' : Leads message count' offset place') :
    count = count' ∧ place = place' := by
  induction h generalizing count' with
  | here hbyte hplain =>
      cases h' with
      | here => exact ⟨rfl, rfl⟩
      | jump hbyte' href =>
          rw [hbyte] at hbyte'
          cases hbyte'
          exact absurd href hplain
  | jump hbyte href htarget _ ih =>
      cases h' with
      | here hbyte' hplain =>
          rw [hbyte] at hbyte'
          cases hbyte'
          exact absurd href hplain
      | jump _ _ htarget' hrest' =>
          rw [htarget] at htarget'
          cases htarget'
          rcases ih hrest' with ⟨hcount, hplace⟩
          exact ⟨by rw [hcount], hplace⟩

theorem of_not_isRef {byte : UInt8} (hbyte : message[offset]? = some byte)
    (hplain : ¬ IsRef byte) (h : Leads message count offset place) :
    count = 0 ∧ place = offset :=
  h.unique (here hbyte hplain)

theorem offset_lt (h : Leads message count offset place) :
    offset < message.length := by
  cases h with
  | here hbyte => exact length_of_getElem? hbyte
  | jump hbyte => exact length_of_getElem? hbyte

end Leads

/-!
## Names
-/

/-- The piece of a message behind a byte with its length. -/
def pieceAt (message : Bytes) (offset length : Nat) : Bytes :=
  (message.drop offset).take length

/-- The labels of the name at an offset.  No more than `hops` references follow
one another. -/
inductive NameAt (message : Bytes) (hops : Nat) : Nat -> List Bytes -> Prop where
  | root {count offset place : Nat} (hleads : Leads message count offset place)
      (hcount : count <= hops) (hbyte : message[place]? = some 0) :
      NameAt message hops offset []
  | label {count offset place : Nat} {length : UInt8} {labels : List Bytes}
      (hleads : Leads message count offset place) (hcount : count <= hops)
      (hbyte : message[place]? = some length) (hlength : length ≠ 0)
      (hfits : place + 1 + length.toNat <= message.length)
      (hrest : NameAt message hops (place + 1 + length.toNat) labels) :
      NameAt message hops offset
        (pieceAt message (place + 1) length.toNat :: labels)

/-- Where the bytes that stand at the offset of a name end. -/
inductive EndsAt (message : Bytes) : Nat -> Nat -> Prop where
  | root {offset : Nat} (hbyte : message[offset]? = some 0) :
      EndsAt message offset (offset + 1)
  | ref {offset : Nat} {byte : UInt8} (hbyte : message[offset]? = some byte)
      (href : IsRef byte) : EndsAt message offset (offset + 2)
  | label {offset finish : Nat} {length : UInt8}
      (hbyte : message[offset]? = some length) (hlength : length ≠ 0)
      (hplain : ¬ IsRef length)
      (hrest : EndsAt message (offset + 1 + length.toNat) finish) :
      EndsAt message offset finish

section

variable {message : Bytes} {hops offset : Nat} {labels labels' : List Bytes}

theorem NameAt.unique (h : NameAt message hops offset labels)
    (h' : NameAt message hops offset labels') : labels = labels' := by
  induction h generalizing labels' with
  | root hleads hcount hbyte =>
      cases h' with
      | root => rfl
      | label hleads' _ hbyte' hlength' =>
          rcases hleads.unique hleads' with ⟨rfl, rfl⟩
          rw [hbyte] at hbyte'
          cases hbyte'
          exact absurd rfl hlength'
  | label hleads hcount hbyte hlength hfits hrest ih =>
      cases h' with
      | root hleads' _ hbyte' =>
          rcases hleads.unique hleads' with ⟨rfl, rfl⟩
          rw [hbyte] at hbyte'
          cases hbyte'
          exact absurd rfl hlength
      | label hleads' _ hbyte' _ _ hrest' =>
          rcases hleads.unique hleads' with ⟨rfl, rfl⟩
          rw [hbyte] at hbyte'
          cases hbyte'
          rw [ih hrest']

theorem EndsAt.unique {finish finish' : Nat} (h : EndsAt message offset finish)
    (h' : EndsAt message offset finish') : finish = finish' := by
  induction h with
  | root hbyte =>
      cases h' with
      | root => rfl
      | ref hbyte' href =>
          rw [hbyte] at hbyte'
          cases hbyte'
          exact absurd href (by decide)
      | label hbyte' hlength =>
          rw [hbyte] at hbyte'
          cases hbyte'
          exact absurd rfl hlength
  | ref hbyte href =>
      cases h' with
      | root hbyte' =>
          rw [hbyte] at hbyte'
          cases hbyte'
          exact absurd href (by decide)
      | ref => rfl
      | label hbyte' _ hplain =>
          rw [hbyte] at hbyte'
          cases hbyte'
          exact absurd href hplain
  | label hbyte hlength hplain _ ih =>
      cases h' with
      | root hbyte' =>
          rw [hbyte] at hbyte'
          cases hbyte'
          exact absurd rfl hlength
      | ref hbyte' href =>
          rw [hbyte] at hbyte'
          cases hbyte'
          exact absurd href hplain
      | label hbyte' _ _ hrest' =>
          rw [hbyte] at hbyte'
          cases hbyte'
          exact ih hrest'

theorem EndsAt.lt {finish : Nat} (h : EndsAt message offset finish) :
    offset < finish := by
  induction h with
  | root => omega
  | ref => omega
  | label _ _ _ _ ih => omega

/-- A name stands somewhere and ends there. -/
theorem NameAt.exists_endsAt (h : NameAt message hops offset labels) :
    exists finish, EndsAt message offset finish := by
  induction h with
  | root hleads _ hbyte =>
      cases hleads with
      | here => exact ⟨_, EndsAt.root hbyte⟩
      | jump hbyte' href => exact ⟨_, EndsAt.ref hbyte' href⟩
  | label hleads _ hbyte hlength _ _ ih =>
      cases hleads with
      | here hbyte' hplain =>
          rw [hbyte] at hbyte'
          cases hbyte'
          rcases ih with ⟨finish, hfinish⟩
          exact ⟨finish, EndsAt.label hbyte hlength hplain hfinish⟩
      | jump hbyte' href => exact ⟨_, EndsAt.ref hbyte' href⟩

end

/-!
## Writing a name
-/

def encodeLabels (labels : List Bytes) : Bytes :=
  labels.flatMap fun label => UInt8.ofNat label.length :: label

def encodeName (labels : List Bytes) : Bytes :=
  encodeLabels labels ++ [0]

/-- A label that a length byte can stand before. -/
def IsLabel (label : Bytes) : Prop :=
  label ≠ [] ∧ label.length < 192

section

variable {label : Bytes} {labels : List Bytes}

theorem encodeName_cons (label : Bytes) (rest : List Bytes) :
    encodeName (label :: rest) =
      (UInt8.ofNat label.length :: label) ++ encodeName rest := by
  simp [encodeName, encodeLabels]

theorem IsLabel.toNat (h : IsLabel label) :
    (UInt8.ofNat label.length).toNat = label.length := by
  have hlt := h.2
  rw [UInt8.toNat_ofNat', Nat.mod_eq_of_lt (by omega)]

theorem IsLabel.length_byte (h : IsLabel label) :
    UInt8.ofNat label.length ≠ 0 ∧ ¬ IsRef (UInt8.ofNat label.length) := by
  have hlength := h.toNat
  constructor
  · intro hzero
    rw [hzero] at hlength
    exact h.1 (List.length_eq_zero_iff.mp hlength.symm)
  · unfold IsRef
    rw [hlength]
    exact Nat.not_le.mpr h.2

theorem getElem?_at_front (front : Bytes) (byte : UInt8) (back : Bytes) :
    (front ++ byte :: back)[front.length]? = some byte := by
  simp

/-- The bytes of a name stand for it, wherever they stand. -/
theorem nameAt_encodeName (h : forall label, label ∈ labels -> IsLabel label)
    (front back : Bytes) (hops : Nat) :
    NameAt (front ++ (encodeName labels ++ back)) hops front.length labels ∧
      EndsAt (front ++ (encodeName labels ++ back)) front.length
        (front.length + (encodeName labels).length) := by
  induction labels generalizing front with
  | nil =>
      have hbyte : (front ++ (encodeName [] ++ back))[front.length]? = some 0 :=
        getElem?_at_front front 0 back
      exact ⟨NameAt.root (Leads.here hbyte (by decide)) (Nat.zero_le _) hbyte,
        EndsAt.root hbyte⟩
  | cons label rest ih =>
      have hlabel := h label List.mem_cons_self
      have hbyte : (front ++ (encodeName (label :: rest) ++ back))[front.length]? =
          some (UInt8.ofNat label.length) := by
        rw [encodeName_cons]
        exact getElem?_at_front front _ _
      have hmessage : front ++ (encodeName (label :: rest) ++ back) =
          (front ++ (UInt8.ofNat label.length :: label)) ++
            (encodeName rest ++ back) := by
        rw [encodeName_cons]
        simp
      have hplace : (front ++ (UInt8.ofNat label.length :: label)).length =
          front.length + 1 + (UInt8.ofNat label.length).toNat := by
        rw [hlabel.toNat, List.length_append, List.length_cons]
        omega
      have hlater := ih (fun other hmem => h other (List.mem_cons_of_mem _ hmem))
        (front ++ (UInt8.ofNat label.length :: label))
      rw [← hmessage, hplace] at hlater
      have hpiece : pieceAt (front ++ (encodeName (label :: rest) ++ back))
          (front.length + 1) (UInt8.ofNat label.length).toNat = label := by
        have hdrop : (front ++ (encodeName (label :: rest) ++ back)).drop
            (front.length + 1) = label ++ (encodeName rest ++ back) := by
          rw [encodeName_cons, ← List.drop_drop, List.drop_left']
          · simp
          · rfl
        rw [pieceAt, hdrop, hlabel.toNat, List.take_left']
        rfl
      constructor
      · have hname := NameAt.label (Leads.here hbyte hlabel.length_byte.2)
          (Nat.zero_le hops) hbyte hlabel.length_byte.1 (by
            rw [hmessage, List.length_append, hplace]
            omega) hlater.1
        rw [hpiece] at hname
        exact hname
      · have hends := EndsAt.label hbyte hlabel.length_byte.1
          hlabel.length_byte.2 hlater.2
        have hlength : (encodeName (label :: rest)).length =
            label.length + 1 + (encodeName rest).length := by
          rw [encodeName_cons, List.length_append, List.length_cons]
        have hsum : front.length + 1 + label.length + (encodeName rest).length =
            front.length + (label.length + 1 + (encodeName rest).length) := by
          omega
        rw [hlabel.toNat, hsum] at hends
        rw [hlength]
        exact hends

end

end Wire
end Foundation
end Noc
