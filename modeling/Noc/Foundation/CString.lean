import Mathlib.Data.List.Infix

/-!
# C strings

A `char *` that may be NULL is an `Option String`.  Where a text is cut or
indexed one character stands for one byte; the size of a text that JSON brought
is that of its UTF-8 form.  This module collects the three library operations
the daemon builds on: substring search, tokenizing at a separator, and
formatting a pointer with `%s`.
-/

namespace Noc
namespace Foundation

/-!
## Substring search

Every caller only tests the pointer `strstr` returns, so the search is a
decision: the needle occurs somewhere in the text.
-/

def strstr (text needle : String) : Bool :=
  decide (needle.toList <:+: text.toList)

theorem strstr_iff {text needle : String} :
    strstr text needle = true <-> needle.toList <:+: text.toList := by
  simp [strstr]

@[simp] theorem strstr_self (text : String) : strstr text text = true :=
  strstr_iff.mpr (List.infix_refl _)

theorem strstr_length_le {text needle : String}
    (h : strstr text needle = true) : needle.length <= text.length := by
  rw [← String.length_toList, ← String.length_toList]
  exact (strstr_iff.mp h).length_le

/-- Between strings of one length, containing is being equal. -/
theorem strstr_eq_of_length {text needle : String}
    (hlen : text.length = needle.length) :
    strstr text needle = true <-> needle = text := by
  constructor
  · intro h
    have hlistLen : needle.toList.length = text.toList.length := by
      rw [String.length_toList, String.length_toList]
      exact hlen.symm
    exact String.toList_inj.mp ((strstr_iff.mp h).eq_of_length hlistLen)
  · intro h
    rw [h]
    exact strstr_self text

/-- What occurs in a text with a cut in it lies on one side or runs over it. -/
theorem infix_append_cons_cases {α : Type} {piece front back : List α} {c : α}
    (h : piece <:+: front ++ c :: back) :
    piece <:+: front ∨ piece <:+: back ∨
      exists left right, piece = left ++ c :: right ∧ left <:+ front ∧
        right <+: back := by
  rcases h with ⟨before, after, htext⟩
  rw [List.append_assoc] at htext
  rcases List.append_eq_append_iff.mp htext with
    ⟨left, hfront, hpiece⟩ | ⟨skipped, _, hback⟩
  · rcases List.append_eq_append_iff.mp hpiece with
      ⟨gap, hleft, _⟩ | ⟨right, hsplit, hright⟩
    · left
      exact ⟨before, gap, by rw [hfront, hleft, List.append_assoc]⟩
    · cases right with
      | nil =>
          left
          exact ⟨before, [], by rw [hfront, hsplit]; simp⟩
      | cons d right =>
          rw [List.cons_append, List.cons.injEq] at hright
          rcases hright with ⟨rfl, hback⟩
          right; right
          exact ⟨left, right, hsplit, ⟨before, hfront.symm⟩, ⟨after, hback.symm⟩⟩
  · cases skipped with
    | nil =>
        cases piece with
        | nil =>
            left
            exact List.nil_infix
        | cons d piece =>
            rw [List.nil_append, List.cons_append, List.cons.injEq] at hback
            rcases hback with ⟨rfl, hback⟩
            right; right
            exact ⟨[], piece, rfl, List.nil_suffix, ⟨after, hback.symm⟩⟩
    | cons d skipped =>
        rw [List.cons_append, List.cons.injEq] at hback
        right; left
        exact ⟨skipped, after, by rw [hback.2, List.append_assoc]⟩

/-- `app_strstr`: a NULL text or needle is not found. -/
def appStrstr : Option String -> Option String -> Bool
  | some text, some needle => strstr text needle
  | _, _ => false

theorem appStrstr_eq_true {text needle : Option String} :
    appStrstr text needle = true <->
      exists t n, text = some t ∧ needle = some n ∧ strstr t n = true := by
  cases text <;> cases needle <;> simp [appStrstr]

@[simp] theorem appStrstr_none_left (needle : Option String) :
    appStrstr none needle = false := rfl

@[simp] theorem appStrstr_none_right (text : Option String) :
    appStrstr text none = false := by
  cases text <;> rfl

@[simp] theorem appStrstr_self {text : Option String} (h : text ≠ none) :
    appStrstr text text = true := by
  cases text with
  | none => exact absurd rfl h
  | some t => exact strstr_self t

theorem appStrstr_trans {text middle needle : Option String}
    (h : appStrstr text middle = true) (h' : appStrstr middle needle = true) :
    appStrstr text needle = true := by
  rcases appStrstr_eq_true.mp h with ⟨t, m, rfl, rfl, hfound⟩
  rcases appStrstr_eq_true.mp h' with ⟨_, n, hm, rfl, hfound'⟩
  cases hm
  exact strstr_iff.mpr ((strstr_iff.mp hfound').trans (strstr_iff.mp hfound))

theorem eq_of_appStrstr {length : Nat} {text needle : Option String}
    (htext : forall t, text = some t -> t.length = length)
    (hneedle : forall n, needle = some n -> n.length = length)
    (h : appStrstr text needle = true) : needle = text := by
  rcases appStrstr_eq_true.mp h with ⟨t, n, rfl, rfl, hfound⟩
  have hlen : t.length = n.length := by
    rw [htext t rfl, hneedle n rfl]
  rw [(strstr_eq_of_length hlen).mp hfound]

/-!
## Tokenizing

`strtok` cuts a text into the maximal pieces that hold no separator, so no
token is empty.  The accumulator `piece` is the token being read.
-/

def tokensFrom (separator : Char) (piece : List Char) :
    List Char -> List (List Char)
  | [] => if piece = [] then [] else [piece]
  | c :: rest =>
      if c = separator then
        if piece = [] then tokensFrom separator [] rest
        else piece :: tokensFrom separator [] rest
      else tokensFrom separator (piece ++ [c]) rest

def strtok (separator : Char) (text : String) : List String :=
  (tokensFrom separator [] text.toList).map String.ofList

/-- What stands where `strtok` has been: the text ends behind its first token.  One
without a token stays as it is. -/
def splitText (separator : Char) (text : String) : String :=
  String.ofList (text.toList.takeWhile (· == separator) ++
    (text.toList.dropWhile (· == separator)).takeWhile (· != separator))

example : splitText '.' "..192.168.1.100" = "..192" := by decide

/-- A text whose pending piece is not empty yields at least one token. -/
theorem tokensFrom_ne_nil_of_piece (separator : Char) {piece : List Char}
    (hpiece : piece ≠ []) (text : List Char) :
    tokensFrom separator piece text ≠ [] := by
  induction text generalizing piece with
  | nil =>
      simp [tokensFrom, hpiece]
  | cons c rest ih =>
      by_cases hc : c = separator
      · simp [tokensFrom, hc, hpiece]
      · simpa [tokensFrom, hc] using ih (by simp)

theorem tokensFrom_ne_nil_of_mem (separator : Char) {text : List Char}
    {c : Char} (hmem : c ∈ text) (hc : c ≠ separator) (piece : List Char) :
    tokensFrom separator piece text ≠ [] := by
  induction text generalizing piece with
  | nil =>
      cases hmem
  | cons d rest ih =>
      by_cases hd : d = separator
      · have hrest : c ∈ rest := by
          rcases List.mem_cons.mp hmem with heq | hrest
          · exact absurd (heq.trans hd) hc
          · exact hrest
        by_cases hpiece : piece = []
        · simpa [tokensFrom, hd, hpiece] using ih hrest []
        · simp [tokensFrom, hd, hpiece]
      · simpa [tokensFrom, hd] using
          tokensFrom_ne_nil_of_piece separator (by simp) rest

/-!
A separator with something before it and something after it makes two tokens.
This is what keeps the first two segments of a routed name in range.
-/

theorem two_le_tokensFrom (separator : Char) {before after : List Char}
    {a b : Char} (ha : a ∈ before) (hane : a ≠ separator)
    (hb : b ∈ after) (hbne : b ≠ separator) (piece : List Char) :
    2 <= (tokensFrom separator piece (before ++ separator :: after)).length := by
  have hafter : tokensFrom separator [] after ≠ [] :=
    tokensFrom_ne_nil_of_mem separator hb hbne []
  have hpos : 1 <= (tokensFrom separator [] after).length :=
    List.length_pos_of_ne_nil hafter
  -- Once the pending piece is not empty, the separator closes it.
  have hclosed : forall (text piece : List Char), piece ≠ [] ->
      2 <= (tokensFrom separator piece (text ++ separator :: after)).length := by
    intro text
    induction text with
    | nil =>
        intro piece hpiece
        simpa [tokensFrom, hpiece] using hpos
    | cons c rest ih =>
        intro piece hpiece
        by_cases hc : c = separator
        · have hrest :
              tokensFrom separator [] (rest ++ separator :: after) ≠ [] :=
            tokensFrom_ne_nil_of_mem separator (by simp [hb]) hbne []
          have hrestPos := List.length_pos_of_ne_nil hrest
          simp [tokensFrom, hc, hpiece]
          omega
        · simpa [tokensFrom, hc] using ih (piece ++ [c]) (by simp)
  induction before generalizing piece with
  | nil =>
      cases ha
  | cons c rest ih =>
      by_cases hc : c = separator
      · have hrest : a ∈ rest := by
          rcases List.mem_cons.mp ha with heq | hrest
          · exact absurd (heq.trans hc) hane
          · exact hrest
        by_cases hpiece : piece = []
        · simpa [tokensFrom, hc, hpiece] using ih hrest []
        · have := ih hrest []
          simp [tokensFrom, hc, hpiece]
          omega
      · simpa [tokensFrom, hc] using hclosed rest (piece ++ [c]) (by simp)

theorem two_le_length_strtok {separator : Char} {text : String}
    {front before after back : List Char} {a b : Char}
    (htext : text.toList =
      front ++ (before ++ separator :: after) ++ back)
    (ha : a ∈ before) (hane : a ≠ separator)
    (hb : b ∈ after) (hbne : b ≠ separator) :
    2 <= (strtok separator text).length := by
  have hsplit : text.toList =
      (front ++ before) ++ separator :: (after ++ back) := by
    simp [htext]
  have hbefore : a ∈ front ++ before := List.mem_append_right front ha
  have hafter : b ∈ after ++ back := List.mem_append_left back hb
  simpa [strtok, hsplit] using
    two_le_tokensFrom separator hbefore hane hafter hbne []

/-!
A token is not empty and holds no separator.  Joining such pieces, each closed
by the separator, is undone by tokenizing.
-/

theorem mem_tokensFrom {separator : Char} {piece text token : List Char}
    (hpiece : separator ∉ piece)
    (hmem : token ∈ tokensFrom separator piece text) :
    token ≠ [] ∧ separator ∉ token := by
  induction text generalizing piece with
  | nil =>
      by_cases hempty : piece = []
      · simp [tokensFrom, hempty] at hmem
      · have htoken : token = piece := by
          simpa [tokensFrom, hempty] using hmem
        rw [htoken]
        exact ⟨hempty, hpiece⟩
  | cons c rest ih =>
      by_cases hc : c = separator
      · by_cases hempty : piece = []
        · have hmem' : token ∈ tokensFrom separator [] rest := by
            simpa [tokensFrom, hc, hempty] using hmem
          exact ih List.not_mem_nil hmem'
        · have hmem' : token = piece ∨ token ∈ tokensFrom separator [] rest := by
            simpa [tokensFrom, hc, hempty] using hmem
          rcases hmem' with htoken | htoken
          · rw [htoken]
            exact ⟨hempty, hpiece⟩
          · exact ih List.not_mem_nil htoken
      · have hpiece' : separator ∉ piece ++ [c] := by
          simp only [List.mem_append, List.mem_singleton, not_or]
          exact ⟨hpiece, fun h => hc h.symm⟩
        exact ih hpiece' (by simpa [tokensFrom, hc] using hmem)

theorem mem_strtok {separator : Char} {text token : String}
    (hmem : token ∈ strtok separator text) :
    token.toList ≠ [] ∧ separator ∉ token.toList := by
  rcases List.mem_map.mp hmem with ⟨letters, hletters, rfl⟩
  rw [String.toList_ofList]
  exact mem_tokensFrom (by simp) hletters

theorem tokensFrom_append_separator {separator : Char} {token : List Char}
    (hseparator : separator ∉ token) (piece rest : List Char)
    (hne : piece ++ token ≠ []) :
    tokensFrom separator piece (token ++ separator :: rest) =
      (piece ++ token) :: tokensFrom separator [] rest := by
  induction token generalizing piece with
  | nil =>
      have hpiece : piece ≠ [] := by simpa using hne
      simp [tokensFrom, hpiece]
  | cons c token ih =>
      rw [List.mem_cons, not_or] at hseparator
      have hc : c ≠ separator := fun h => hseparator.1 h.symm
      rw [List.cons_append, tokensFrom, if_neg hc,
        ih hseparator.2 (piece ++ [c]) (by simp)]
      simp

/-- A separator ends the token that stands before it, if there is one. -/
theorem tokensFrom_append (separator : Char) (piece front back : List Char) :
    tokensFrom separator piece (front ++ separator :: back) =
      tokensFrom separator piece front ++ tokensFrom separator [] back := by
  induction front generalizing piece with
  | nil =>
      by_cases hpiece : piece = []
      · simp [tokensFrom, hpiece]
      · simp [tokensFrom, hpiece]
  | cons c rest ih =>
      rw [List.cons_append, tokensFrom, tokensFrom]
      by_cases hc : c = separator
      · by_cases hpiece : piece = []
        · simp only [if_pos hc, if_pos hpiece, ih]
        · simp only [if_pos hc, if_neg hpiece, ih, List.cons_append]
      · simp only [if_neg hc, ih]

/-- Text that starts with the separator adds its own tokens. -/
theorem strtok_append {separator : Char} {back : String} {rest : List Char}
    (hback : back.toList = separator :: rest) (front : String) :
    strtok separator (front ++ back) =
      strtok separator front ++ strtok separator back := by
  unfold strtok
  rw [String.toList_append, hback, tokensFrom_append, List.map_append]
  simp [tokensFrom]

/-- The texts, each followed by the separator. -/
def joined (separator : Char) (texts : List String) : String :=
  String.ofList (texts.flatMap fun text => text.toList ++ [separator])

theorem strtok_joined {separator : Char} {texts : List String}
    (h : forall text, text ∈ texts ->
      text.toList ≠ [] ∧ separator ∉ text.toList) :
    strtok separator (joined separator texts) = texts := by
  unfold strtok joined
  rw [String.toList_ofList]
  induction texts with
  | nil => rfl
  | cons text rest ih =>
      rcases h text List.mem_cons_self with ⟨hne, hseparator⟩
      have hrest := ih fun other hmem => h other (List.mem_cons_of_mem text hmem)
      rw [List.flatMap_cons, List.append_assoc, List.singleton_append,
        tokensFrom_append_separator hseparator [] _ hne, List.map_cons, hrest,
        List.nil_append, String.ofList_toList]

/-!
The texts with the separator between them are their own tokens, so texts of
that kind are equal when they are equal joined.
-/

/-- What a token is: not empty and without the separator. -/
def IsToken (separator : Char) (text : String) : Prop :=
  text.toList ≠ [] ∧ separator ∉ text.toList

theorem tokensFrom_of_notMem {separator : Char} {token : List Char}
    (hseparator : separator ∉ token) (piece : List Char)
    (hne : piece ++ token ≠ []) :
    tokensFrom separator piece token = [piece ++ token] := by
  induction token generalizing piece with
  | nil =>
      have hpiece : piece ≠ [] := by simpa using hne
      simp [tokensFrom, hpiece]
  | cons c token ih =>
      rw [List.mem_cons, not_or] at hseparator
      have hc : c ≠ separator := fun h => hseparator.1 h.symm
      rw [tokensFrom, if_neg hc, ih hseparator.2 (piece ++ [c]) (by simp)]
      simp

theorem strtok_intercalate {separator : Char} {texts : List String}
    (h : forall text, text ∈ texts -> IsToken separator text) :
    strtok separator ((String.singleton separator).intercalate texts) =
      texts := by
  induction texts with
  | nil => rfl
  | cons text rest ih =>
      rcases h text List.mem_cons_self with ⟨hne, hseparator⟩
      cases rest with
      | nil =>
          rw [String.intercalate_singleton, strtok,
            tokensFrom_of_notMem hseparator [] hne]
          simp
      | cons next rest =>
          have hrest := ih fun other hmem => h other (List.mem_cons_of_mem text hmem)
          have htext : forall tail : String,
              (text ++ String.singleton separator ++ tail).toList =
                text.toList ++ separator :: tail.toList := by
            simp
          unfold strtok at hrest ⊢
          rw [String.intercalate_cons_cons, htext,
            tokensFrom_append_separator hseparator [] _ hne, List.map_cons, hrest,
            List.nil_append, String.ofList_toList]

theorem intercalate_inj {separator : Char} {texts others : List String}
    (h : forall text, text ∈ texts -> IsToken separator text)
    (h' : forall text, text ∈ others -> IsToken separator text) :
    (String.singleton separator).intercalate texts =
        (String.singleton separator).intercalate others <->
      texts = others := by
  constructor
  · intro heq
    rw [← strtok_intercalate h, heq, strtok_intercalate h']
  · intro heq
    rw [heq]

/-!
## Numbers

glibc's `atoi` reads blanks, a sign and digits, saturates at the ends of a
`long` and keeps the low half.
-/

def isSpace (c : Char) : Bool :=
  c = ' ' || ('\t' <= c && c <= '\r')

def digitsValue (digits : List Char) : Nat :=
  digits.foldl (fun value c => 10 * value + (c.toNat - '0'.toNat)) 0

def signedValue : List Char -> Int
  | '-' :: rest => - (digitsValue (rest.takeWhile Char.isDigit) : Int)
  | '+' :: rest => digitsValue (rest.takeWhile Char.isDigit)
  | text => digitsValue (text.takeWhile Char.isDigit)

def atoi (text : String) : Int32 :=
  let value := signedValue (text.toList.dropWhile isSpace)
  Int32.ofInt (max (-9223372036854775808) (min 9223372036854775807 value))

example : atoi " -42 days" = -42 := by decide

/-!
## Formatting

glibc prints a NULL argument of `%s` as `(null)`.
-/

def formatted (text : Option String) : String :=
  text.getD "(null)"

@[simp] theorem formatted_some (text : String) : formatted (some text) = text :=
  rfl

end Foundation
end Noc
