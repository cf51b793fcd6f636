import Noc.Foundation.Shell

/-!
# Words in single quotes

A text between single quotes is one word of the line exactly when it has no
single quote itself, whatever else it holds.
-/

namespace Noc
namespace Foundation
namespace Shell

/-!
## Reading a part of a line
-/

/-- The tokens that the part completes, and the state behind it. -/
def run (state : LexState) : List Char -> Option (List Token × LexState)
  | [] => some ([], state)
  | c :: rest =>
      (step state c).bind fun out =>
        (run out.2 rest).map fun later => (out.1 ++ later.1, later.2)

/-- No quotation is open and nothing is passed over. -/
def LexState.Open : LexState -> Prop
  | .between => True
  | .word _ _ => True
  | .operator _ => True
  | _ => False

section

variable {state state' : LexState} {c : Char} {text front line rest : List Char}
  {tokens : List Token} {quoted : Bool}

theorem lexFrom_append :
    lexFrom state (text ++ rest) =
      (run state text).bind fun out =>
        (lexFrom out.2 rest).map fun later => out.1 ++ later := by
  induction text generalizing state with
  | nil => simp [run]
  | cons c text ih =>
      rw [List.cons_append, lexFrom, run]
      cases step state c with
      | none => rfl
      | some out =>
          rw [Option.bind_some, Option.bind_some, ih]
          cases run out.2 text with
          | none => rfl
          | some middle =>
              simp only [Option.bind_some, Option.map_some, Option.map_map]
              congr 1
              funext later
              exact (List.append_assoc _ _ _).symm

theorem run_weight_le (h : run state text = some (tokens, state')) :
    weight tokens + state'.worth <= state.worth + text.length := by
  induction text generalizing state tokens with
  | nil =>
      cases h
      simp
  | cons c text ih =>
      rcases Option.bind_eq_some_iff.mp h with ⟨⟨started, next⟩, hstep, hrest⟩
      rcases Option.map_eq_some_iff.mp hrest with ⟨⟨later, last⟩, hlater, hout⟩
      cases hout
      have hfirst := step_weight_le hstep
      have hothers : weight later + last.worth <= next.worth + text.length := ih hlater
      show weight (started ++ later) + last.worth <= _
      rw [weight_append, List.length_cons]
      omega

theorem ne_quote_of_isPlain (h : isPlain c = true) : c ≠ '\'' := by
  rintro rfl
  cases h

theorem ne_quote_of_operators (h : operators.contains (text ++ [c]) = true) :
    c ≠ '\'' := by
  rintro rfl
  have hlast : forall operator, operator ∈ operators ->
      operator.getLast? ≠ some '\'' := by
    decide
  exact hlast _ (List.contains_iff_mem.mp h) List.getLast?_concat

/-- A single quote outside quotations is read and paid for without a return. -/
theorem open_of_tight (hopen : state.Open) (h : step state c = some (tokens, state'))
    (htight : weight tokens + state'.worth = state.worth + 1) :
    state'.Open ∧ c ≠ '\'' := by
  cases state with
  | between =>
      rcases startStep_of_tight h htight with ⟨_, rfl, hplain, _⟩
      exact ⟨trivial, ne_quote_of_isPlain hplain⟩
  | word text quoted =>
      have hword : wordStep text quoted c = some (tokens, state') := h
      unfold wordStep at hword
      repeat' split at hword
      all_goals cases hword
      all_goals simp_all [LexState.worth, LexState.Open]
  | operator text =>
      simp only [step] at h
      split at h
      next hcontains =>
        cases h
        exact ⟨trivial, ne_quote_of_operators hcontains⟩
      next =>
        rcases Option.map_eq_some_iff.mp h with ⟨⟨started, next⟩, hstart, hout⟩
        cases hout
        have hle := startStep_weight_le hstart
        have hfirst : weight started + next.worth = 1 := by
          simp at htight
          omega
        rcases startStep_of_tight hstart hfirst with ⟨_, rfl, hplain, _⟩
        exact ⟨trivial, ne_quote_of_isPlain hplain⟩
  | _ => exact hopen.elim

theorem not_mem_of_tight (hopen : state.Open)
    (h : run state text = some (tokens, state'))
    (htight : weight tokens + state'.worth = state.worth + text.length) :
    '\'' ∉ text := by
  induction text generalizing state tokens with
  | nil => exact List.not_mem_nil
  | cons c text ih =>
      rcases Option.bind_eq_some_iff.mp h with ⟨⟨started, next⟩, hstep, hrest⟩
      rcases Option.map_eq_some_iff.mp hrest with ⟨⟨later, last⟩, hlater, hout⟩
      cases hout
      have hfirst := step_weight_le hstep
      have hothers : weight later + last.worth <= next.worth + text.length :=
        run_weight_le hlater
      have hsum : weight started + weight later + last.worth =
          state.worth + (text.length + 1) := by
        rw [← weight_append]
        exact htight
      rcases open_of_tight hopen hstep (by omega) with ⟨hnext, hc⟩
      have hlaterTight : weight later + last.worth = next.worth + text.length := by
        omega
      rw [List.mem_cons, not_or]
      exact ⟨hc.symm, ih hnext hlater hlaterTight⟩

/-!
## Quotations that are not closed
-/

theorem lexFrom_single_of_not_mem (h : '\'' ∉ line) :
    lexFrom (.single front) line = none := by
  induction line generalizing front with
  | nil => rfl
  | cons c rest ih =>
      rw [List.mem_cons, not_or] at h
      have hstep : step (.single front) c = some ([], .single (front ++ [c])) :=
        if_neg (Ne.symm h.1)
      simp only [lexFrom, hstep, Option.bind_some, ih h.2, Option.map_none]

theorem lexFrom_double_of_not_mem (h : '"' ∉ line) :
    lexFrom (.double front) line = none ∧ lexFrom (.doubleEscaped front) line = none := by
  induction line generalizing front with
  | nil => exact ⟨rfl, rfl⟩
  | cons c rest ih =>
      rw [List.mem_cons, not_or] at h
      have hc : c ≠ '"' := Ne.symm h.1
      constructor
      · rw [lexFrom]
        simp only [step, if_neg hc]
        split
        · rfl
        split
        · simp [(ih h.2).2]
        · simp [(ih h.2).1]
      · rw [lexFrom]
        simp only [step]
        split
        · rfl
        split
        · simp [(ih h.2).1]
        · simp [(ih h.2).1]

theorem lexFrom_comment_of_not_mem (h : '\n' ∉ line) :
    lexFrom .comment line = some [] := by
  induction line with
  | nil => rfl
  | cons c rest ih =>
      rw [List.mem_cons, not_or] at h
      have hstep : step .comment c = some ([], .comment) := if_neg (Ne.symm h.1)
      simp only [lexFrom, hstep, Option.bind_some, ih h.2, Option.map_some,
        List.nil_append]

/-- A single quote that is read opens a quotation, closes one, or is inside one or
a comment. -/
theorem step_quote_cases (h : step state '\'' = some (tokens, state')) :
    (exists text quoted, state' = .word text quoted) ∨
      (exists text, state' = .single text) ∨
      (exists text, state' = .double text) ∨ state' = .comment := by
  have hstart : startStep '\'' = some ([], .single []) := rfl
  cases state with
  | between =>
      rw [step, hstart] at h
      cases h
      exact Or.inr (Or.inl ⟨_, rfl⟩)
  | word text quoted =>
      cases h
      exact Or.inr (Or.inl ⟨_, rfl⟩)
  | escaped text =>
      cases h
      exact Or.inl ⟨_, _, rfl⟩
  | single text =>
      cases h
      exact Or.inl ⟨_, _, rfl⟩
  | double text =>
      cases h
      exact Or.inr (Or.inr (Or.inl ⟨_, rfl⟩))
  | doubleEscaped text =>
      cases h
      exact Or.inr (Or.inr (Or.inl ⟨_, rfl⟩))
  | operator text =>
      have hcontains : operators.contains (text ++ ['\'']) = false :=
        Bool.eq_false_iff.mpr fun htrue => ne_quote_of_operators htrue rfl
      simp only [step, hcontains, Bool.false_eq_true, if_false, hstart] at h
      cases h
      exact Or.inr (Or.inl ⟨_, rfl⟩)
  | comment =>
      cases h
      exact Or.inr (Or.inr (Or.inr rfl))

theorem run_concat :
    run state (text ++ [c]) = (run state text).bind fun out =>
      (step out.2 c).map fun last => (out.1 ++ last.1, last.2) := by
  induction text generalizing state with
  | nil =>
      cases hstep : step state c <;> simp [run, hstep]
  | cons d text ih =>
      rw [List.cons_append, run, run]
      cases step state d with
      | none => rfl
      | some out =>
          rw [Option.bind_some, Option.bind_some, ih]
          cases run out.2 text with
          | none => rfl
          | some middle =>
              simp only [Option.bind_some, Option.map_some, Option.map_map]
              congr 1
              funext last
              simp

/-!
## A quotation between blanks
-/

theorem lexFrom_single (h : '\'' ∉ text) :
    lexFrom (.single front) (text ++ '\'' :: rest) =
      lexFrom (.word (front ++ text) true) rest := by
  induction text generalizing front with
  | nil =>
      have hstep : step (.single front) '\'' = some ([], .word front true) := rfl
      simp only [List.nil_append, lexFrom, hstep, Option.bind_some, Option.map_id',
        List.append_nil]
  | cons c text ih =>
      rw [List.mem_cons, not_or] at h
      have hstep : step (.single front) c = some ([], .single (front ++ [c])) :=
        if_neg (Ne.symm h.1)
      simp only [List.cons_append, lexFrom, hstep, Option.bind_some, ih h.2,
        List.nil_append, Option.map_id', List.append_assoc]

theorem lex_quote : lex ('\'' :: rest) = lexFrom (.single []) rest := by
  have hstep : step .between '\'' = some ([], .single []) := rfl
  simp only [lex, lexFrom, hstep, Option.bind_some, List.nil_append, Option.map_id']

theorem parse_quoted_blank (h : '\'' ∉ text) :
    parse ('\'' :: (text ++ '\'' :: ' ' :: rest)) =
      (parse rest).map (.addWord text) := by
  have hstep : step (.word text true) ' ' = some ([.word text], .between) := rfl
  rw [parse, lex_quote, lexFrom_single h, List.nil_append, lexFrom, hstep]
  show ((lex rest).map fun tokens => .word text :: tokens).bind parseTokens = _
  rw [parse]
  cases lex rest <;> rfl

section

variable {found : Option SimpleCommand} {words : List (List Char)}
  {redirections : List Redirection}

theorem map_addWord_eq_iff {word : List Char} :
    found.map (SimpleCommand.addWord word) =
        some { words := word :: words, redirections := redirections } <->
      found = some { words := words, redirections := redirections } := by
  cases found with
  | none => simp
  | some command =>
      cases command with
      | mk others more => simp [SimpleCommand.addWord]

theorem map_addWords_eq_iff {front : List (List Char)} :
    found.map (SimpleCommand.addWords front) =
        some { words := front ++ words, redirections := redirections } <->
      found = some { words := words, redirections := redirections } := by
  rw [Option.map_eq_some_iff]
  constructor
  · rintro ⟨command, rfl, heq⟩
    rw [addWords_eq_iff.mp heq]
  · rintro rfl
    exact ⟨_, rfl, rfl⟩

end

/-- The text behind a word: other words and redirections, and nothing in it that
could close a quotation or end a comment. -/
structure Closing (line : List Char) (words : List (List Char))
    (redirections : List Redirection) : Prop where
  lexed : forall text quoted, exists tokens,
    lexFrom (.word text quoted) line = some (.word text :: tokens) ∧
      parseTokens tokens = some { words := words, redirections := redirections }
  single : '\'' ∉ line
  double : '"' ∉ line
  newline : '\n' ∉ line

section

variable {words : List (List Char)} {redirections : List Redirection}

theorem closing_of_trailing (h : Trailing line redirections) (hsingle : '\'' ∉ line)
    (hdouble : '"' ∉ line) (hnewline : '\n' ∉ line) : Closing line [] redirections where
  lexed := h.lexed
  single := hsingle
  double := hdouble
  newline := hnewline

theorem Closing.word {word : List Char} (h : Closing line words redirections)
    (hword : PlainWord word) :
    Closing (' ' :: (word ++ line)) (word :: words) redirections := by
  have hplain : forall c, isPlain c = false -> c ≠ ' ' -> c ∉ line ->
      c ∉ ' ' :: (word ++ line) := by
    intro c hc hblank hline hmem
    rcases List.mem_cons.mp hmem with heq | hmem
    · exact hblank heq
    · rcases List.mem_append.mp hmem with hmem | hmem
      · rw [hword.plain c hmem] at hc
        cases hc
      · exact hline hmem
  refine ⟨?_, hplain _ rfl (by decide) h.single, hplain _ rfl (by decide) h.double,
    hplain _ rfl (by decide) h.newline⟩
  intro text quoted
  rcases h.lexed word false with ⟨tokens, hlexed, hparsed⟩
  refine ⟨.word word :: tokens, ?_, ?_⟩
  · have hstep : step (.word text quoted) ' ' = some ([.word text], .between) := rfl
    rw [lexFrom, hstep]
    show (lex (word ++ line)).map _ = _
    rw [lex_word hword, hlexed]
    rfl
  · show (parseTokens tokens).map (SimpleCommand.addWord word) = _
    rw [hparsed]
    rfl

/-- A second blank behind a word changes nothing. -/
theorem Closing.blank (h : Closing (' ' :: line) words redirections) :
    Closing (' ' :: ' ' :: line) words redirections where
  lexed := by
    intro text quoted
    rcases h.lexed text quoted with ⟨tokens, hlexed, hparsed⟩
    refine ⟨tokens, ?_, hparsed⟩
    have hstep : step (.word text quoted) ' ' = some ([.word text], .between) := rfl
    have hblank : step .between ' ' = some ([], .between) := rfl
    rw [lexFrom, hstep] at hlexed ⊢
    simp only [Option.bind_some, lexFrom, hblank, List.nil_append, Option.map_id']
      at hlexed ⊢
    exact hlexed
  single := by simpa using h.single
  double := by simpa using h.double
  newline := by simpa using h.newline

end

theorem parse_quoted {words : List (List Char)} {redirections : List Redirection}
    (hclosing : Closing line words redirections) (h : '\'' ∉ text) :
    parse ('\'' :: (text ++ '\'' :: line)) =
      some { words := text :: words, redirections := redirections } := by
  rcases hclosing.lexed text true with ⟨tokens, hlexed, hparsed⟩
  rw [parse, lex_quote, lexFrom_single h, List.nil_append, hlexed]
  show (parseTokens tokens).map (SimpleCommand.addWord text) = _
  rw [hparsed]
  rfl

/-- A text in single quotes is a word of the line exactly when it has no single
quote. -/
theorem parse_quoted_iff {words : List (List Char)}
    {redirections : List Redirection} (hclosing : Closing line words redirections) :
    parse ('\'' :: (text ++ '\'' :: line)) =
        some { words := text :: words, redirections := redirections } <->
      '\'' ∉ text := by
  refine ⟨?_, parse_quoted hclosing⟩
  intro h hmem
  rcases List.eq_append_cons_of_mem hmem with ⟨early, late, htext, hearly⟩
  rcases Option.bind_eq_some_iff.mp h with ⟨tokens, hlex, hparse⟩
  have hrest : lexFrom (.word early true) ((late ++ ['\'']) ++ line) = some tokens := by
    rw [← hlex, lex_quote, htext]
    simp only [List.append_assoc, List.cons_append, List.nil_append]
    rw [lexFrom_single hearly, List.nil_append]
  rw [lexFrom_append] at hrest
  rcases Option.bind_eq_some_iff.mp hrest with ⟨⟨front, last⟩, hrun, hlast⟩
  rcases Option.map_eq_some_iff.mp hlast with ⟨later, hlater, hout⟩
  have hlength : text.length = early.length + (late.length + 1) := by
    rw [htext, List.length_append, List.length_cons]
  have hsum : weight front + weight later = (text.length + 1) +
      SimpleCommand.weight { words := words, redirections := redirections } := by
    rw [← weight_append, hout, parseTokens_weight hparse]
    simp [SimpleCommand.weight]
    omega
  have hle : weight front + last.worth <= early.length + (late.length + 1) := by
    simpa using run_weight_le hrun
  have hkind : (exists text quoted, last = .word text quoted) ∨
      (exists text, last = .single text) ∨
      (exists text, last = .double text) ∨ last = .comment := by
    rw [run_concat] at hrun
    rcases Option.bind_eq_some_iff.mp hrun with ⟨middle, _, hend⟩
    rcases Option.map_eq_some_iff.mp hend with ⟨final, hstep, heq⟩
    cases heq
    exact step_quote_cases hstep
  rcases hkind with ⟨word, quoted, rfl⟩ | ⟨word, rfl⟩ | ⟨word, rfl⟩ | rfl
  · -- The word would hold every character from the first quote on.
    rcases hclosing.lexed word quoted with ⟨behind, hlexed, hparsed⟩
    rw [hlexed] at hlater
    cases hlater
    rw [weight_cons, weight_word, parseTokens_weight hparsed] at hsum
    have htight : weight front + (LexState.word word quoted).worth =
        (LexState.word early true).worth + (late ++ ['\'']).length := by
      simp only [worth_word, List.length_append, List.length_singleton]
      omega
    have hopen : (LexState.word early true).Open := trivial
    exact not_mem_of_tight hopen hrun htight (by simp)
  · rw [lexFrom_single_of_not_mem hclosing.single] at hlater
    cases hlater
  · rw [(lexFrom_double_of_not_mem hclosing.double).1] at hlater
    cases hlater
  · rw [lexFrom_comment_of_not_mem hclosing.newline] at hlater
    cases hlater
    rw [weight_nil] at hsum
    omega

end

end Shell
end Foundation
end Noc
