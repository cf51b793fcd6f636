import Mathlib.Algebra.Order.Ring.Nat
import Mathlib.Data.List.Basic
import Mathlib.Tactic.Common

/-!
# Shell commands

How a POSIX shell cuts a command line into tokens, and when the tokens are one
simple command.  A word keeps its text after quote removal.  There is no result
for a line whose words are not spelled by its own text: an expansion, a quotation
left open, a line that is continued.
-/

namespace Noc
namespace Foundation
namespace Shell

/-!
## Tokens
-/

inductive Token where
  | word (text : List Char)
  /-- The digits in front of a redirection. -/
  | io (number : List Char)
  | operator (text : List Char)
  | newline
  deriving DecidableEq, Repr

def isBlank (c : Char) : Bool :=
  c = ' ' || c = '\t'

def isExpansion (c : Char) : Bool :=
  c = '$' || c = '\x60'

def operators : List (List Char) :=
  [['|'], ['&'], [';'], ['<'], ['>'], ['('], [')'],
   ['|', '|'], ['&', '&'], [';', ';'], ['<', '<'], ['>', '>'], ['<', '&'],
   ['>', '&'], ['<', '>'], ['>', '|'], ['<', '<', '-']]

def startsOperator (c : Char) : Bool :=
  operators.contains [c]

/-- The operators that take a file. -/
def redirectionOperators : List (List Char) :=
  [['<'], ['>'], ['<', '<'], ['>', '>'], ['<', '&'], ['>', '&'], ['<', '>'],
   ['>', '|'], ['<', '<', '-']]

/-!
## Cutting a line into tokens

The state between two characters: no token begun, or inside one.
-/

inductive LexState where
  | between
  | word (text : List Char) (quoted : Bool)
  | escaped (text : List Char)
  | single (text : List Char)
  | double (text : List Char)
  | doubleEscaped (text : List Char)
  | operator (text : List Char)
  | comment
  deriving DecidableEq, Repr

/-- Unquoted digits right in front of `<` or `>` name a file descriptor. -/
def closeBefore (c : Char) (text : List Char) (quoted : Bool) : Token :=
  if (c = '<' || c = '>') && !quoted && text.all Char.isDigit then .io text
  else .word text

/-- A character with no token begun. -/
def startStep (c : Char) : Option (List Token × LexState) :=
  if c = '\\' then some ([], .escaped [])
  else if c = '\'' then some ([], .single [])
  else if c = '"' then some ([], .double [])
  else if isExpansion c then none
  else if isBlank c then some ([], .between)
  else if c = '\n' then some ([.newline], .between)
  else if startsOperator c then some ([], .operator [c])
  else if c = '#' then some ([], .comment)
  else some ([], .word [c] false)

/-- A character inside an unquoted part of a word. -/
def wordStep (text : List Char) (quoted : Bool) (c : Char) :
    Option (List Token × LexState) :=
  if c = '\\' then some ([], .escaped text)
  else if c = '\'' then some ([], .single text)
  else if c = '"' then some ([], .double text)
  else if isExpansion c then none
  else if isBlank c then some ([.word text], .between)
  else if c = '\n' then some ([.word text, .newline], .between)
  else if startsOperator c then
    some ([closeBefore c text quoted], .operator [c])
  else some ([], .word (text ++ [c]) quoted)

def step : LexState -> Char -> Option (List Token × LexState)
  | .between, c => startStep c
  | .word text quoted, c => wordStep text quoted c
  | .escaped text, c =>
      if c = '\n' then none else some ([], .word (text ++ [c]) true)
  | .single text, c =>
      if c = '\'' then some ([], .word text true)
      else some ([], .single (text ++ [c]))
  | .double text, c =>
      if c = '"' then some ([], .word text true)
      else if isExpansion c then none
      else if c = '\\' then some ([], .doubleEscaped text)
      else some ([], .double (text ++ [c]))
  | .doubleEscaped text, c =>
      if c = '\n' then none
      else if isExpansion c || c = '"' || c = '\\' then
        some ([], .double (text ++ [c]))
      else some ([], .double (text ++ ['\\', c]))
  | .operator text, c =>
      if operators.contains (text ++ [c]) then
        some ([], .operator (text ++ [c]))
      else
        (startStep c).map fun out => (.operator text :: out.1, out.2)
  | .comment, c =>
      if c = '\n' then some ([.newline], .between) else some ([], .comment)

def finish : LexState -> Option (List Token)
  | .between => some []
  | .word text _ => some [.word text]
  | .operator text => some [.operator text]
  | .comment => some []
  | _ => none

def lexFrom (state : LexState) : List Char -> Option (List Token)
  | [] => finish state
  | c :: rest =>
      (step state c).bind fun out =>
        (lexFrom out.2 rest).map fun tokens => out.1 ++ tokens

def lex (line : List Char) : Option (List Token) :=
  lexFrom .between line

/-!
## Simple commands
-/

structure Redirection where
  number : Option (List Char)
  operator : List Char
  file : List Char
  deriving DecidableEq, Repr

structure SimpleCommand where
  words : List (List Char)
  redirections : List Redirection
  deriving DecidableEq, Repr

namespace SimpleCommand

def empty : SimpleCommand :=
  { words := [], redirections := [] }

def addWord (word : List Char) (command : SimpleCommand) : SimpleCommand :=
  { command with words := word :: command.words }

def addWords (front : List (List Char)) (command : SimpleCommand) :
    SimpleCommand :=
  { command with words := front ++ command.words }

def addRedirection (redirection : Redirection) (command : SimpleCommand) :
    SimpleCommand :=
  { command with redirections := redirection :: command.redirections }

end SimpleCommand

/-- Words and redirections only; an operator that joins or ends commands gives
nothing. -/
def parseTokens : List Token -> Option SimpleCommand
  | [] => some .empty
  | .word text :: rest => (parseTokens rest).map (.addWord text)
  | .io number :: .operator operator :: .word file :: rest =>
      if redirectionOperators.contains operator then
        (parseTokens rest).map
          (.addRedirection { number := some number, operator, file })
      else none
  | .operator operator :: .word file :: rest =>
      if redirectionOperators.contains operator then
        (parseTokens rest).map
          (.addRedirection { number := none, operator, file })
      else none
  | _ => none

def parse (line : List Char) : Option SimpleCommand :=
  (lex line).bind parseTokens

/-- Whether the first operator is a parenthesis. -/
def parenthesisNext : List Token -> Bool
  | .word _ :: rest => parenthesisNext rest
  | .operator text :: _ => text = ['('] || text = [')']
  | _ => false

/-- A parenthesis behind the words of a command is an error of syntax, and nothing
of the line is run. -/
def refuses (line : List Char) : Bool :=
  (lex line).any parenthesisNext

/-!
## Weights

Every token is paid for by the characters it was made of: a word by its own
characters and the one that ends it.  Quoting, comments and further blanks are
paid for and buy nothing, so a line that spends nothing on them is plain.
-/

def Token.weight : Token -> Nat
  | .word text => text.length + 1
  | .io number => number.length + 1
  | .operator text => text.length - 1
  | .newline => 0

def weight (tokens : List Token) : Nat :=
  (tokens.map Token.weight).sum

/-- What the characters read so far can still buy. -/
def LexState.worth : LexState -> Nat
  | .between => 0
  | .word text _ => text.length
  | .escaped text => text.length
  | .single text => text.length
  | .double text => text.length
  | .doubleEscaped text => text.length + 1
  | .operator text => text.length - 1
  | .comment => 0

section

variable {text : List Char} {quoted : Bool} {c : Char} {tokens : List Token}
  {state state' : LexState}

@[simp] theorem weight_nil : weight [] = 0 := rfl

@[simp] theorem weight_cons (token : Token) (tokens : List Token) :
    weight (token :: tokens) = token.weight + weight tokens := by
  simp [weight]

@[simp] theorem weight_append (tokens later : List Token) :
    weight (tokens ++ later) = weight tokens + weight later := by
  simp [weight]

@[simp] theorem weight_word : (Token.word text).weight = text.length + 1 := rfl

@[simp] theorem weight_operator :
    (Token.operator text).weight = text.length - 1 := rfl

@[simp] theorem weight_newline : Token.newline.weight = 0 := rfl

@[simp] theorem weight_closeBefore :
    (closeBefore c text quoted).weight = text.length + 1 := by
  unfold closeBefore
  split <;> rfl

@[simp] theorem worth_between : LexState.between.worth = 0 := rfl

@[simp] theorem worth_word :
    (LexState.word text quoted).worth = text.length := rfl

@[simp] theorem worth_operator :
    (LexState.operator text).worth = text.length - 1 := rfl

theorem startStep_weight_le (h : startStep c = some (tokens, state)) :
    weight tokens + state.worth <= 1 := by
  unfold startStep at h
  repeat' split at h
  all_goals cases h
  all_goals simp [LexState.worth]

theorem wordStep_weight_le
    (h : wordStep text quoted c = some (tokens, state)) :
    weight tokens + state.worth <= text.length + 1 := by
  unfold wordStep at h
  repeat' split at h
  all_goals cases h
  all_goals simp [LexState.worth]

theorem step_weight_le (h : step state c = some (tokens, state')) :
    weight tokens + state'.worth <= state.worth + 1 := by
  cases state with
  | between => exact startStep_weight_le h
  | word text quoted => exact wordStep_weight_le h
  | escaped text =>
      simp only [step] at h
      split at h <;> cases h
      simp [LexState.worth]
  | single text =>
      simp only [step] at h
      split at h <;> cases h <;> simp [LexState.worth]
  | double text =>
      simp only [step] at h
      repeat' split at h
      all_goals cases h
      all_goals simp [LexState.worth]
  | doubleEscaped text =>
      simp only [step] at h
      repeat' split at h
      all_goals cases h
      all_goals simp [LexState.worth]
  | operator text =>
      simp only [step] at h
      split at h
      · cases h
        simp
        omega
      · rcases Option.map_eq_some_iff.mp h with ⟨⟨started, state''⟩, hstart, hout⟩
        cases hout
        have hle := startStep_weight_le hstart
        simp
        omega
  | comment =>
      simp only [step] at h
      split at h <;> cases h <;> simp [LexState.worth]

theorem finish_weight_le (h : finish state = some tokens) :
    weight tokens <= state.worth + 1 := by
  cases state <;> simp only [finish, Option.some_inj, reduceCtorEq] at h
  all_goals
    rw [← h]
    simp

theorem lexFrom_weight_le {line : List Char}
    (h : lexFrom state line = some tokens) :
    weight tokens <= state.worth + line.length + 1 := by
  induction line generalizing state tokens with
  | nil => exact finish_weight_le h
  | cons c rest ih =>
      rcases Option.bind_eq_some_iff.mp h with ⟨⟨started, next⟩, hstep, hrest⟩
      rcases Option.map_eq_some_iff.mp hrest with ⟨later, hlater, rfl⟩
      have hfirst := step_weight_le hstep
      have hothers : weight later <= next.worth + rest.length + 1 := ih hlater
      show weight (started ++ later) <= state.worth + (rest.length + 1) + 1
      rw [weight_append]
      omega

end

/-!
## Plain words
-/

/-- Neither quoting nor an expansion, a blank, a line end or an operator. -/
def isPlain (c : Char) : Bool :=
  c ≠ '\\' && c ≠ '\'' && c ≠ '"' && !isExpansion c && !isBlank c &&
    c ≠ '\n' && !startsOperator c

structure PlainWord (text : List Char) : Prop where
  nonempty : text ≠ []
  start : text.head? ≠ some '#'
  plain : forall c, c ∈ text -> isPlain c = true

instance (text : List Char) : Decidable (PlainWord text) :=
  decidable_of_iff
    (text ≠ [] ∧ text.head? ≠ some '#' ∧ text.all isPlain = true)
    ⟨fun h => ⟨h.1, h.2.1, List.all_eq_true.mp h.2.2⟩,
      fun h => ⟨h.nonempty, h.start, List.all_eq_true.mpr h.plain⟩⟩

def LexState.Plain : LexState -> Prop
  | .between => True
  | .word text _ => PlainWord text
  | .operator _ => True
  | _ => False

/-- All words among the tokens are plain. -/
def PlainTokens (tokens : List Token) : Prop :=
  forall text, Token.word text ∈ tokens -> PlainWord text

section

variable {text : List Char} {quoted : Bool} {c : Char} {tokens : List Token}
  {state state' : LexState}

theorem plainWord_singleton (hplain : isPlain c = true) (hstart : c ≠ '#') :
    PlainWord [c] where
  nonempty := List.cons_ne_nil _ _
  start := by simpa using hstart
  plain := by simpa using hplain

theorem PlainWord.append {more : List Char} (h : PlainWord text)
    (hmore : forall c, c ∈ more -> isPlain c = true) :
    PlainWord (text ++ more) where
  nonempty := List.append_ne_nil_of_left_ne_nil h.nonempty _
  start := by
    rw [List.head?_append_of_ne_nil _ h.nonempty]
    exact h.start
  plain := List.forall_mem_append.mpr ⟨h.plain, hmore⟩

/-- With no token begun, only a plain character is worth what it costs. -/
theorem startStep_of_tight (h : startStep c = some (tokens, state))
    (htight : weight tokens + state.worth = 1) :
    tokens = [] ∧ state = .word [c] false ∧ isPlain c = true ∧ c ≠ '#' := by
  unfold startStep at h
  repeat' split at h
  all_goals cases h
  all_goals simp_all [LexState.worth, isPlain]

theorem plainTokens_word (hword : PlainWord text) :
    PlainTokens [.word text] := by
  intro other hmem
  cases List.mem_singleton.mp hmem
  exact hword

theorem plainTokens_closeBefore (hword : PlainWord text) :
    PlainTokens [closeBefore c text quoted] := by
  unfold closeBefore
  split
  case isTrue =>
    intro other hmem
    cases List.mem_singleton.mp hmem
  case isFalse => exact plainTokens_word hword

theorem PlainTokens.append {later : List Token} (h : PlainTokens tokens)
    (hlater : PlainTokens later) : PlainTokens (tokens ++ later) := by
  intro text hmem
  rcases List.mem_append.mp hmem with hmem | hmem
  · exact h text hmem
  · exact hlater text hmem

theorem plainTokens_nil : PlainTokens [] := by
  intro text hmem
  cases hmem

theorem plainTokens_newline : PlainTokens [.newline] := by
  intro other hmem
  cases List.mem_singleton.mp hmem

/-- What a plain word is followed by is a plain character, or it ends the
word. -/
theorem wordStep_of_tight (hword : PlainWord text)
    (h : wordStep text quoted c = some (tokens, state))
    (htight : weight tokens + state.worth = text.length + 1) :
    state.Plain ∧ PlainTokens tokens := by
  unfold wordStep at h
  split at h
  · cases h
    simp [LexState.worth] at htight
  split at h
  · cases h
    simp [LexState.worth] at htight
  split at h
  · cases h
    simp [LexState.worth] at htight
  split at h
  · cases h
  split at h
  · cases h
    exact ⟨trivial, plainTokens_word hword⟩
  split at h
  · cases h
    exact ⟨trivial, (plainTokens_word hword).append plainTokens_newline⟩
  split at h
  · cases h
    exact ⟨trivial, plainTokens_closeBefore hword⟩
  · cases h
    have hc : isPlain c = true := by simp_all [isPlain]
    exact ⟨hword.append (by simpa using hc), plainTokens_nil⟩

theorem step_of_tight (hstate : state.Plain)
    (h : step state c = some (tokens, state'))
    (htight : weight tokens + state'.worth = state.worth + 1) :
    state'.Plain ∧ PlainTokens tokens := by
  cases state with
  | between =>
      rcases startStep_of_tight h htight with ⟨rfl, rfl, hplain, hstart⟩
      exact ⟨plainWord_singleton hplain hstart, plainTokens_nil⟩
  | word text quoted => exact wordStep_of_tight hstate h htight
  | operator text =>
      simp only [step] at h
      split at h
      · cases h
        exact ⟨trivial, plainTokens_nil⟩
      · rcases Option.map_eq_some_iff.mp h with ⟨⟨started, next⟩, hstart, hout⟩
        cases hout
        have hle := startStep_weight_le hstart
        have hfirst : weight started + next.worth = 1 := by
          simp at htight
          omega
        rcases startStep_of_tight hstart hfirst with ⟨rfl, rfl, hplain, hnumber⟩
        refine ⟨plainWord_singleton hplain hnumber, ?_⟩
        intro other hmem
        cases List.mem_singleton.mp hmem
  | _ => exact hstate.elim

/-- A line that is worth its whole length has plain words only. -/
theorem lexFrom_of_tight {line : List Char} (hstate : state.Plain)
    (h : lexFrom state line = some tokens)
    (htight : weight tokens = state.worth + line.length + 1) :
    PlainTokens tokens := by
  induction line generalizing state tokens with
  | nil =>
      cases state with
      | between =>
          cases h
          simp at htight
      | word text quoted =>
          cases h
          exact plainTokens_word hstate
      | operator text =>
          cases h
          simp at htight
      | _ => exact hstate.elim
  | cons c rest ih =>
      rcases Option.bind_eq_some_iff.mp h with ⟨⟨started, next⟩, hstep, hrest⟩
      rcases Option.map_eq_some_iff.mp hrest with ⟨later, hlater, rfl⟩
      have hfirst := step_weight_le hstep
      have hothers : weight later <= next.worth + rest.length + 1 :=
        lexFrom_weight_le hlater
      have hsum : weight started + weight later =
          state.worth + (rest.length + 1) + 1 := by
        rw [← weight_append]
        exact htight
      rcases step_of_tight hstate hstep (by omega) with ⟨hnext, hstarted⟩
      exact hstarted.append (ih hnext hlater (by omega))

end

/-!
## Simple commands of plain words
-/

def Redirection.weight (redirection : Redirection) : Nat :=
  (redirection.number.map fun number => number.length + 1).getD 0 +
    (redirection.operator.length - 1) + (redirection.file.length + 1)

def SimpleCommand.weight (command : SimpleCommand) : Nat :=
  (command.words.map fun word => word.length + 1).sum +
    (command.redirections.map Redirection.weight).sum

section

variable {tokens : List Token} {command : SimpleCommand}

theorem parseTokens_weight (h : parseTokens tokens = some command) :
    Shell.weight tokens = command.weight := by
  induction tokens using parseTokens.induct generalizing command with
  | case1 =>
      cases h
      rfl
  | case2 text rest ih =>
      rcases Option.map_eq_some_iff.mp h with ⟨later, hlater, rfl⟩
      rw [weight_cons, ih hlater]
      simp [SimpleCommand.weight, SimpleCommand.addWord]
      omega
  | case3 number operator file rest hoperator ih =>
      rw [parseTokens, if_pos hoperator] at h
      rcases Option.map_eq_some_iff.mp h with ⟨later, hlater, rfl⟩
      rw [weight_cons, weight_cons, weight_cons, ih hlater]
      simp [SimpleCommand.weight, SimpleCommand.addRedirection,
        Redirection.weight, Token.weight]
      omega
  | case4 number operator file rest hoperator =>
      rw [parseTokens, if_neg hoperator] at h
      cases h
  | case5 operator file rest hoperator ih =>
      rw [parseTokens, if_pos hoperator] at h
      rcases Option.map_eq_some_iff.mp h with ⟨later, hlater, rfl⟩
      rw [weight_cons, weight_cons, ih hlater]
      simp [SimpleCommand.weight, SimpleCommand.addRedirection,
        Redirection.weight, Token.weight]
      omega
  | case6 operator file rest hoperator =>
      rw [parseTokens, if_neg hoperator] at h
      cases h
  | case7 tokens h1 h2 h3 h4 =>
      rw [parseTokens] at h <;> simp_all

theorem mem_tokens_of_parse (h : parseTokens tokens = some command)
    {text : List Char} (hmem : text ∈ command.words) :
    Token.word text ∈ tokens := by
  induction tokens using parseTokens.induct generalizing command with
  | case1 =>
      cases h
      cases hmem
  | case2 first rest ih =>
      rcases Option.map_eq_some_iff.mp h with ⟨later, hlater, rfl⟩
      rcases List.mem_cons.mp hmem with heq | hmem
      · rw [heq]
        exact List.mem_cons_self
      · exact List.mem_cons_of_mem _ (ih hlater hmem)
  | case3 number operator file rest hoperator ih =>
      rw [parseTokens, if_pos hoperator] at h
      rcases Option.map_eq_some_iff.mp h with ⟨later, hlater, rfl⟩
      simp [ih hlater hmem]
  | case4 number operator file rest hoperator =>
      rw [parseTokens, if_neg hoperator] at h
      cases h
  | case5 operator file rest hoperator ih =>
      rw [parseTokens, if_pos hoperator] at h
      rcases Option.map_eq_some_iff.mp h with ⟨later, hlater, rfl⟩
      simp [ih hlater hmem]
  | case6 operator file rest hoperator =>
      rw [parseTokens, if_neg hoperator] at h
      cases h
  | case7 tokens h1 h2 h3 h4 =>
      rw [parseTokens] at h <;> simp_all

/-- A line as heavy as the command it is has plain words only. -/
theorem plain_of_parse {line : List Char} (h : parse line = some command)
    (hweight : command.weight = line.length + 1) :
    forall text, text ∈ command.words -> PlainWord text := by
  rcases Option.bind_eq_some_iff.mp h with ⟨tokens, hlex, hparse⟩
  have htight : Shell.weight tokens =
      LexState.between.worth + line.length + 1 := by
    rw [parseTokens_weight hparse, hweight, worth_between, Nat.zero_add]
  have hstart : LexState.between.Plain := trivial
  intro text hmem
  exact lexFrom_of_tight hstart hlex htight text (mem_tokens_of_parse hparse hmem)

end

/-!
The other way round: plain words with blanks between them are the words of the
line.
-/

section

variable {text rest : List Char}

theorem lexFrom_plain {quoted : Bool}
    (hplain : forall c, c ∈ text -> isPlain c = true) (front : List Char) :
    lexFrom (.word front quoted) (text ++ rest) =
      lexFrom (.word (front ++ text) quoted) rest := by
  induction text generalizing front with
  | nil => simp
  | cons c more ih =>
      have hc := hplain c List.mem_cons_self
      have hstep : wordStep front quoted c =
          some ([], .word (front ++ [c]) quoted) := by
        unfold wordStep
        simp_all [isPlain]
      have hmore := ih (fun d hd => hplain d (List.mem_cons_of_mem c hd))
        (front ++ [c])
      simp only [List.cons_append, lexFrom, step, hstep, Option.bind_some,
        List.nil_append, Option.map_id', hmore, List.append_assoc]

theorem lex_word (h : PlainWord text) :
    lex (text ++ rest) = lexFrom (.word text false) rest := by
  cases text with
  | nil => exact absurd rfl h.nonempty
  | cons c more =>
      have hc := h.plain c List.mem_cons_self
      have hnumber : c ≠ '#' := by simpa using h.start
      have hstep : startStep c = some ([], .word [c] false) := by
        unfold startStep
        simp_all [isPlain]
      have hmore : lexFrom (.word [c] false) (more ++ rest) =
          lexFrom (.word ([c] ++ more) false) rest :=
        lexFrom_plain (fun d hd => h.plain d (List.mem_cons_of_mem c hd)) [c]
      simp only [lex, List.cons_append, lexFrom, step, hstep, Option.bind_some,
        List.nil_append, Option.map_id', hmore]

/-- A blank in front of a line changes nothing. -/
theorem parse_blank (line : List Char) : parse (' ' :: line) = parse line := by
  have hstep : step .between ' ' = some ([], .between) := rfl
  simp only [parse, lex, lexFrom, hstep, Option.bind_some, List.nil_append,
    Option.map_id']

theorem lex_word_blank (h : PlainWord text) :
    lex (text ++ ' ' :: rest) = (lex rest).map fun tokens => .word text :: tokens := by
  have hstep : step (.word text false) ' ' = some ([.word text], .between) := rfl
  rw [lex_word h, lexFrom, hstep]
  rfl

theorem parse_word_blank (h : PlainWord text) :
    parse (text ++ ' ' :: rest) = (parse rest).map (.addWord text) := by
  rw [parse, lex_word_blank h, parse]
  cases lex rest with
  | none => rfl
  | some tokens => rfl

/-- A plain word in front does not decide it. -/
theorem refuses_word_blank (h : PlainWord text) :
    refuses (text ++ ' ' :: rest) = refuses rest := by
  unfold refuses
  rw [lex_word_blank h]
  cases lex rest with
  | none => rfl
  | some tokens => rfl

end

def unwords (words : List (List Char)) : List Char :=
  [' '].intercalate words

/-- The text after the last word: nothing that goes on with the word, and
redirections whose words take up its length. -/
structure Trailing (tail : List Char) (redirections : List Redirection) :
    Prop where
  lexed : forall text quoted, exists tokens,
    lexFrom (.word text quoted) tail = some (.word text :: tokens) ∧
      parseTokens tokens = some { words := [], redirections := redirections }
  weight : (redirections.map Redirection.weight).sum = tail.length

section

variable {word : List Char} {front words : List (List Char)}
  {tail line : List Char} {redirections : List Redirection}

@[simp] theorem unwords_singleton : unwords [word] = word :=
  List.intercalate_singleton

@[simp] theorem unwords_cons_cons {next : List Char} :
    unwords (word :: next :: words) = word ++ ' ' :: unwords (next :: words) := by
  simp [unwords, List.intercalate_cons_cons]

/-- Every word after the first has its blank in front. -/
theorem unwords_cons :
    unwords (word :: words) = word ++ words.flatMap fun next => ' ' :: next := by
  induction words generalizing word with
  | nil => simp
  | cons next later ih => simp [ih]

theorem length_unwords (hne : words ≠ []) :
    (unwords words).length + 1 =
      (words.map fun word => word.length + 1).sum := by
  induction words with
  | nil => exact absurd rfl hne
  | cons word more ih =>
      cases more with
      | nil => simp
      | cons next later =>
          rw [List.map_cons, List.sum_cons, ← ih (List.cons_ne_nil _ _)]
          simp
          omega

theorem parse_unwords (htail : Trailing tail redirections) (hne : words ≠ [])
    (hplain : forall word, word ∈ words -> PlainWord word) :
    parse (unwords words ++ tail) =
      some { words := words, redirections := redirections } := by
  induction words with
  | nil => exact absurd rfl hne
  | cons word more ih =>
      have hword := hplain word List.mem_cons_self
      cases more with
      | nil =>
          rcases htail.lexed word false with ⟨tokens, hlex, hparse⟩
          rw [unwords_singleton, parse, lex_word hword, hlex]
          show (parseTokens tokens).map (SimpleCommand.addWord word) = _
          rw [hparse]
          rfl
      | cons next later =>
          have hlater := ih (List.cons_ne_nil _ _) fun other hmem =>
            hplain other (List.mem_cons_of_mem word hmem)
          rw [unwords_cons_cons, List.append_assoc, List.cons_append,
            parse_word_blank hword, hlater]
          rfl

/-- Words with blanks between them are the words of the line exactly when they
are plain. -/
theorem parse_unwords_iff (htail : Trailing tail redirections)
    (hne : words ≠ []) :
    parse (unwords words ++ tail) =
        some { words := words, redirections := redirections } <->
      forall word, word ∈ words -> PlainWord word := by
  constructor
  · intro h
    apply plain_of_parse h
    have hwords := length_unwords hne
    have hredirections := htail.weight
    simp only [SimpleCommand.weight, List.length_append]
    omega
  · exact parse_unwords htail hne

/-- Fixed words in front, and any blanks after them. -/
theorem parse_front_blank (hfront : forall word, word ∈ front -> PlainWord word)
    (hne : front ≠ []) :
    parse (unwords front ++ ' ' :: line) =
      (parse line).map (.addWords front) := by
  induction front with
  | nil => exact absurd rfl hne
  | cons word more ih =>
      have hword := hfront word List.mem_cons_self
      cases more with
      | nil =>
          rw [unwords_singleton, parse_word_blank hword]
          rfl
      | cons next later =>
          have hlater := ih (fun other hmem =>
            hfront other (List.mem_cons_of_mem word hmem)) (List.cons_ne_nil _ _)
          rw [unwords_cons_cons, List.append_assoc, List.cons_append,
            parse_word_blank hword, hlater, Option.map_map]
          rfl

theorem addWords_eq_iff {command : SimpleCommand} :
    command.addWords front =
        { words := front ++ words, redirections := redirections } <->
      command = { words := words, redirections := redirections } := by
  cases command with
  | mk found others => simp [SimpleCommand.addWords]

/-- A second blank after fixed words in front changes nothing. -/
theorem parse_front_unwords_iff (htail : Trailing tail redirections)
    (hfront : forall word, word ∈ front -> PlainWord word)
    (hfrontNe : front ≠ []) (hne : words ≠ []) :
    parse (unwords front ++ ' ' :: ' ' :: (unwords words ++ tail)) =
        some { words := front ++ words, redirections := redirections } <->
      forall word, word ∈ words -> PlainWord word := by
  rw [parse_front_blank hfront hfrontNe, parse_blank,
    ← parse_unwords_iff htail hne, Option.map_eq_some_iff]
  constructor
  · intro h
    rcases h with ⟨command, hparse, heq⟩
    rw [hparse, addWords_eq_iff.mp heq]
  · intro h
    exact ⟨_, h, rfl⟩

/-- A word with a plain start is plain as far as what follows is. -/
theorem plainWord_append_iff {start : List Char} (hstart : PlainWord start) :
    PlainWord (start ++ line) <-> forall c, c ∈ line -> isPlain c = true := by
  constructor
  · intro h c hmem
    exact h.plain c (List.mem_append_right start hmem)
  · exact hstart.append

theorem trailing_nil : Trailing [] [] where
  lexed := fun _ _ => ⟨[], rfl, rfl⟩
  weight := rfl

end

end Shell
end Foundation
end Noc
