import Mathlib.Data.List.Basic
import Mathlib.Data.List.TakeWhile
import Mathlib.Tactic.Common

/-!
# Token by token

One call of a tokenizer takes the next token off a text: characters that end
tokens are skipped first, and the one behind the token is taken off with it.
-/

namespace Noc
namespace Foundation
namespace Tokens

/-- The next token, if there is one, and the text behind it. -/
def strtokR (ends : Char -> Bool) (text : List Char) :
    Option (List Char) × List Char :=
  match text.dropWhile ends with
  | [] => (none, [])
  | c :: rest =>
      (some ((c :: rest).takeWhile fun c => !ends c),
        ((c :: rest).dropWhile fun c => !ends c).drop 1)

/-- The lines of a text, each with the character that ends it. -/
def linesOf : List Char -> List (List Char)
  | [] => []
  | c :: rest =>
      if c = '\n' then [c] :: linesOf rest
      else
        match linesOf rest with
        | [] => [[c]]
        | line :: lines => (c :: line) :: lines

section

variable {ends : Char -> Bool} {token text rest : List Char} {c : Char}

/-- No character of the token ends it. -/
def Unended (ends : Char -> Bool) (token : List Char) : Prop :=
  forall c, c ∈ token -> ends c = false

instance : Decidable (Unended ends token) :=
  List.decidableBAll (fun c => ends c = false) token

theorem Unended.append {front back : List Char} (h : Unended ends front)
    (h' : Unended ends back) : Unended ends (front ++ back) := by
  intro c hmem
  rcases List.mem_append.mp hmem with hmem | hmem
  · exact h c hmem
  · exact h' c hmem

theorem dropWhile_unended (hne : token ≠ []) (h : Unended ends token)
    (rest : List Char) : (token ++ rest).dropWhile ends = token ++ rest := by
  cases token with
  | nil => exact absurd rfl hne
  | cons c token =>
      rw [List.cons_append, List.dropWhile_cons_of_neg]
      rw [h c List.mem_cons_self]
      exact Bool.false_ne_true

theorem strtokR_nil : strtokR ends [] = (none, []) := rfl

@[simp] theorem strtokR_cons_of_ends (h : ends c = true) (text : List Char) :
    strtokR ends (c :: text) = strtokR ends text := by
  unfold strtokR
  rw [List.dropWhile_cons_of_pos h]

theorem strtokR_of_unended (hne : token ≠ []) (h : Unended ends token) :
    strtokR ends token = (some token, []) := by
  have hdrop := dropWhile_unended hne h []
  rw [List.append_nil] at hdrop
  have hall : forall c, c ∈ token -> (!ends c) = true := by
    intro c hmem
    rw [h c hmem]
    rfl
  unfold strtokR
  rw [hdrop]
  cases token with
  | nil => exact absurd rfl hne
  | cons c token =>
      show (some ((c :: token).takeWhile _), ((c :: token).dropWhile _).drop 1) = _
      rw [List.takeWhile_eq_self_iff.mpr hall, List.dropWhile_eq_nil_iff.mpr hall]
      rfl

theorem strtokR_append (hne : token ≠ []) (h : Unended ends token)
    (hends : ends c = true) (rest : List Char) :
    strtokR ends (token ++ c :: rest) = (some token, rest) := by
  have hdrop := dropWhile_unended hne h (c :: rest)
  have hall : forall c, c ∈ token -> (!ends c) = true := by
    intro c hmem
    rw [h c hmem]
    rfl
  have htake : (c :: rest).takeWhile (fun c => !ends c) = [] := by
    simp [hends]
  have hrest : (c :: rest).dropWhile (fun c => !ends c) = c :: rest := by
    simp [hends]
  unfold strtokR
  rw [hdrop]
  cases token with
  | nil => exact absurd rfl hne
  | cons first token =>
      show (some ((first :: token ++ c :: rest).takeWhile _),
        ((first :: token ++ c :: rest).dropWhile _).drop 1) = _
      rw [List.takeWhile_append_of_pos hall, htake, List.append_nil,
        List.dropWhile_append_of_pos hall, hrest]
      rfl

/-- A token is not empty, and nothing in it ends it. -/
theorem unended_of_strtokR (h : strtokR ends text = (some token, rest)) :
    token ≠ [] ∧ Unended ends token := by
  unfold strtokR at h
  cases hstart : text.dropWhile ends with
  | nil =>
      rw [hstart] at h
      cases h
  | cons c more =>
      rw [hstart] at h
      have hfirst : ends c = false := by
        have hhead := List.head?_dropWhile_not ends text
        rw [hstart] at hhead
        simpa using hhead
      have htoken : (c :: more).takeWhile (fun c => !ends c) = token :=
        Option.some_inj.mp (Prod.mk.inj h).1
      constructor
      · rw [← htoken]
        simp [hfirst]
      · intro other hmem
        rw [← htoken] at hmem
        have hother := List.mem_takeWhile_imp hmem
        simpa using hother

theorem linesOf_append {line : List Char} (h : '\n' ∉ line) (text : List Char) :
    linesOf (line ++ '\n' :: text) = (line ++ ['\n']) :: linesOf text := by
  induction line with
  | nil => simp [linesOf]
  | cons c line ih =>
      have hc : c ≠ '\n' := fun heq => h (heq ▸ List.mem_cons_self)
      have hline := ih fun hmem => h (List.mem_cons_of_mem _ hmem)
      rw [List.cons_append, linesOf, if_neg hc, hline]
      rfl

end

end Tokens
end Foundation
end Noc
