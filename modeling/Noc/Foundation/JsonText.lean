import Noc.Foundation.Json
import Noc.Foundation.Memory

/-!
# Printed trees

What `cJSON_Print` makes of a tree and `cJSON_Minify` leaves of that: no blanks
between the tokens.  The numbers of the encoders are those of a C `int`.
-/

namespace Noc
namespace Foundation
namespace Json

def hexDigit (n : Nat) : Char :=
  "0123456789abcdef".toList.getD n '0'

def escapeChar (c : Char) : List Char :=
  if c = '"' then ['\\', '"']
  else if c = '\\' then ['\\', '\\']
  else if c = '\x08' then ['\\', 'b']
  else if c = '\x0c' then ['\\', 'f']
  else if c = '\n' then ['\\', 'n']
  else if c = '\r' then ['\\', 'r']
  else if c = '\t' then ['\\', 't']
  else if c.toNat < 32 then
    ['\\', 'u', '0', '0', hexDigit (c.toNat / 16), hexDigit (c.toNat % 16)]
  else [c]

def quotedText (text : String) : List Char :=
  '"' :: (text.toList.flatMap escapeChar ++ ['"'])

def numberText (value : Int) : List Char :=
  (toString value).toList

mutual

def printed : Json -> List Char
  | null => "null".toList
  | bool true => "true".toList
  | bool false => "false".toList
  | num value => numberText value
  | str value => quotedText value
  | arr [] => "[]".toList
  | arr (item :: rest) => '[' :: (printed item ++ printedItems rest)
  | obj [] => "\x7b\x7d".toList
  | obj (member :: rest) => '\x7b' :: (printedMember member ++ printedMembers rest)

/-- The items behind the first. -/
def printedItems : List Json -> List Char
  | [] => [']']
  | item :: rest => ',' :: (printed item ++ printedItems rest)

def printedMember : String × Json -> List Char
  | (key, value) => quotedText key ++ ':' :: printed value

def printedMembers : List (String × Json) -> List Char
  | [] => ['\x7d']
  | member :: rest => ',' :: (printedMember member ++ printedMembers rest)

end

def text (json : Json) : String :=
  String.ofList (printed json)

/-!
## Strings in a tree
-/

mutual

/-- The keys and the strings. -/
def strings : Json -> List String
  | str value => [value]
  | arr items => itemStrings items
  | obj members => memberStrings members
  | _ => []

def itemStrings : List Json -> List String
  | [] => []
  | item :: rest => strings item ++ itemStrings rest

def pairStrings : String × Json -> List String
  | (key, value) => key :: strings value

def memberStrings : List (String × Json) -> List String
  | [] => []
  | member :: rest => pairStrings member ++ memberStrings rest

end

/-!
## Printed trees as formats

A tree is a format without arguments when its strings are.
-/

theorem hexDigit_ne_sign (n : Nat) : hexDigit n ≠ '%' := by
  have hdigits : '%' ∉ "0123456789abcdef".toList := by decide +kernel
  unfold hexDigit
  rw [List.getD_eq_getElem?_getD]
  cases h : "0123456789abcdef".toList[n]? with
  | none => decide
  | some c =>
      intro hsign
      subst hsign
      exact hdigits (List.mem_of_getElem? h)

theorem escaped_letter {c d letter : Char} (hc : c = d)
    (hletters : d ≠ '%' ∧ d ≠ 'm' ∧ letter ≠ '%') :
    c ≠ '%' ∧ c ≠ 'm' ∧ exists rest, ['\\', letter] = '\\' :: rest ∧ '%' ∉ rest := by
  rw [hc]
  refine ⟨hletters.1, hletters.2.1, [letter], rfl, ?_⟩
  rw [List.mem_singleton]
  exact hletters.2.2.symm

/-- What is escaped is neither letter of a format, and the escape holds no sign. -/
theorem escapeChar_cases (c : Char) :
    escapeChar c = [c] ∨
      c ≠ '%' ∧ c ≠ 'm' ∧ exists rest, escapeChar c = '\\' :: rest ∧ '%' ∉ rest := by
  unfold escapeChar
  split_ifs with hquote hback hbell hfeed hnewline hreturn htab hsmall
  · exact Or.inr (escaped_letter hquote (by decide))
  · exact Or.inr (escaped_letter hback (by decide))
  · exact Or.inr (escaped_letter hbell (by decide))
  · exact Or.inr (escaped_letter hfeed (by decide))
  · exact Or.inr (escaped_letter hnewline (by decide))
  · exact Or.inr (escaped_letter hreturn (by decide))
  · exact Or.inr (escaped_letter htab (by decide))
  · have hne : forall d : Char, 32 <= d.toNat -> c ≠ d := by
      rintro d hd rfl
      omega
    refine Or.inr ⟨hne '%' (by decide), hne 'm' (by decide), _, rfl, ?_⟩
    simp [(hexDigit_ne_sign _).symm]
  · exact Or.inl rfl

theorem formatFrom_escaped (sign : Bool) (cs : List Char) :
    formatFrom sign (cs.flatMap escapeChar) = formatFrom sign cs := by
  induction cs generalizing sign with
  | nil => rfl
  | cons c rest ih =>
      rw [List.flatMap_cons]
      rcases escapeChar_cases c with hsame | ⟨hsign, hm, tail, htail, hplain⟩
      · rw [hsame, List.singleton_append]
        cases sign with
        | false => exact ih _
        | true =>
            show (_ && formatFrom false (rest.flatMap escapeChar)) = _
            rw [ih]
            rfl
      · rw [htail, List.cons_append]
        have hc : (c == '%') = false := beq_false_of_ne hsign
        have hc' : (c == 'm') = false := beq_false_of_ne hm
        cases sign with
        | true =>
            show _ = ((c == '%' || c == 'm') && _)
            rw [hc, hc']
            rfl
        | false =>
            show formatFrom false (tail ++ rest.flatMap escapeChar) =
              formatFrom (c == '%') rest
            rw [formatFrom_append_of_notMem hplain, ih, hc]

theorem formatFrom_quotedText (value : String) :
    formatFrom false (quotedText value) = takesNoArgument value := by
  have hquote : Separate ['"'] := by
    unfold Separate
    decide
  show formatFrom false (value.toList.flatMap escapeChar ++ ['"']) = _
  rw [formatFrom_append hquote, formatFrom_escaped]
  exact Bool.and_true _

theorem separate_printedItems (items : List Json) : Separate (printedItems items) := by
  unfold Separate
  cases items <;> simp [printedItems]

theorem separate_printedMembers (members : List (String × Json)) :
    Separate (printedMembers members) := by
  unfold Separate
  cases members <;> simp [printedMembers]

mutual

theorem formatFrom_printed : forall json : Json,
    formatFrom false (printed json) = (strings json).all takesNoArgument
  | null => by decide
  | bool true => by decide
  | bool false => by decide
  | num value => takesNoArgument_int value
  | str value => by
      show formatFrom false (quotedText value) = (takesNoArgument value && true)
      rw [formatFrom_quotedText, Bool.and_true]
  | arr [] => by decide
  | arr (item :: rest) => by
      show formatFrom false (printed item ++ printedItems rest) =
        (strings item ++ itemStrings rest).all takesNoArgument
      rw [formatFrom_append (separate_printedItems rest), formatFrom_printed item,
        formatFrom_printedItems rest, List.all_append]
  | obj [] => by decide
  | obj (member :: rest) => by
      show formatFrom false (printedMember member ++ printedMembers rest) =
        (pairStrings member ++ memberStrings rest).all takesNoArgument
      rw [formatFrom_append (separate_printedMembers rest),
        formatFrom_printedMember member, formatFrom_printedMembers rest,
        List.all_append]

theorem formatFrom_printedItems : forall items : List Json,
    formatFrom false (printedItems items) = (itemStrings items).all takesNoArgument
  | [] => by decide
  | item :: rest => by
      show formatFrom false (printed item ++ printedItems rest) =
        (strings item ++ itemStrings rest).all takesNoArgument
      rw [formatFrom_append (separate_printedItems rest), formatFrom_printed item,
        formatFrom_printedItems rest, List.all_append]

theorem formatFrom_printedMember : forall member : String × Json,
    formatFrom false (printedMember member) = (pairStrings member).all takesNoArgument
  | (key, value) => by
      have hcolon : Separate (':' :: printed value) := by
        unfold Separate
        exact ⟨by simp, by simp⟩
      show formatFrom false (quotedText key ++ ':' :: printed value) =
        (takesNoArgument key && (strings value).all takesNoArgument)
      rw [formatFrom_append hcolon, formatFrom_quotedText]
      exact congrArg _ (formatFrom_printed value)

theorem formatFrom_printedMembers : forall members : List (String × Json),
    formatFrom false (printedMembers members) =
      (memberStrings members).all takesNoArgument
  | [] => by decide
  | member :: rest => by
      show formatFrom false (printedMember member ++ printedMembers rest) =
        (pairStrings member ++ memberStrings rest).all takesNoArgument
      rw [formatFrom_append (separate_printedMembers rest),
        formatFrom_printedMember member, formatFrom_printedMembers rest,
        List.all_append]

end

theorem takesNoArgument_text (json : Json) :
    takesNoArgument json.text = (strings json).all takesNoArgument := by
  unfold takesNoArgument text
  rw [String.toList_ofList]
  exact formatFrom_printed json

/-!
## Encoded records
-/

theorem itemStrings_map {α : Type} (encode : α -> Json) (values : List α) :
    itemStrings (values.map encode) = values.flatMap fun value => strings (encode value) := by
  induction values with
  | nil => rfl
  | cons value rest ih =>
      rw [List.map_cons, List.flatMap_cons, ← ih]
      rfl

/-- A field that is left out has neither key nor text. -/
theorem all_strings_mkObject (p : String -> Bool)
    (fields : List (String × Option Json)) :
    (strings (mkObject fields)).all p =
      fields.all fun field =>
        (field.2.map fun value => p field.1 && (strings value).all p).getD true := by
  induction fields with
  | nil => rfl
  | cons field rest ih =>
      rcases field with ⟨key, value⟩
      cases value with
      | none =>
          rw [List.all_cons, ← ih]
          rfl
      | some value =>
          show ((key :: strings value) ++ strings (mkObject rest)).all p = _
          rw [List.all_append, ih]
          rfl

end Json
end Foundation
end Noc
