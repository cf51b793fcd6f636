import Noc.Foundation.CString
import Noc.Foundation.Tokens

/-!
# The environment

`utils/dotenv/dotenv.c`: the lines of a file set variables of the environment,
and a value may refer to variables that are set.  Texts are lists of characters,
one for each byte.
-/

namespace Noc
namespace Utils

open Foundation
open Foundation.Tokens

/-- Whether a variable is set, and to what. -/
abbrev Environment := List Char -> Option (List Char)

/-- No variable has an empty name. -/
def getenv (env : Environment) (name : List Char) : Option (List Char) :=
  if name = [] then none else env name

/-- A name that is empty or has a `=` in it is refused. -/
def setenv (env : Environment) (name value : List Char) (overwrite : Bool) :
    Environment :=
  if name = [] ∨ '=' ∈ name then env
  else if overwrite = false ∧ (env name).isSome then env
  else fun other => if other = name then some value else env other

/-!
## Values
-/

def opensReference (c : Char) : Bool :=
  c == '$' || c == '{'

def closesReference (c : Char) : Bool :=
  c == '}'

def isNested (value : List Char) : Bool :=
  decide (['$', '{'] <:+: value) && decide ('}' ∈ value)

/-- The loop of `parse_value`: text up to a reference, and the variable it refers
to.  Each round takes a token off. -/
def parseFrom (env : Environment) : Nat -> List Char -> List Char
  | 0, _ => []
  | fuel + 1, search =>
      let (token, rest) := strtokR opensReference search
      let (name, rest) := strtokR closesReference rest
      match name with
      | none => token.getD []
      | some name =>
          token.getD [] ++ (getenv env (name.drop 1)).getD [] ++
            parseFrom env fuel rest

/-- With the blank that `prepare_value` puts in front. -/
def parseValue (env : Environment) (value : List Char) : List Char :=
  let value := ' ' :: value
  if isNested value = true then parseFrom env (value.length + 1) value else value

/-!
## Lines
-/

/-- A line whose first character but blanks is `#`. -/
def isCommented (line : List Char) : Bool :=
  (line.dropWhile fun c => c == ' ').head? == some '#'

def setVariable (env : Environment) (name original : List Char) (overwrite : Bool) :
    Environment :=
  setenv env name ((parseValue env original).drop 1) overwrite

/-- The name in front of the first `=`, and the rest of the line. -/
def binding (line : List Char) : Option (List Char × List Char) :=
  let (name, rest) := strtokR (fun c => c == '=') line
  do
    let name <- name
    let original <- (strtokR (fun c => c == '\n') rest).1
    return (name, original)

/-- A line ends at a NUL. -/
def bindingOf (line : List Char) : Option (List Char × List Char) :=
  let line := line.takeWhile fun c => c != '\x00'
  if isCommented line = true then none else binding line

def parseLine (overwrite : Bool) (env : Environment) (line : List Char) :
    Environment :=
  match bindingOf line with
  | none => env
  | some (name, original) => setVariable env name original overwrite

def parse (overwrite : Bool) (env : Environment) (text : List Char) : Environment :=
  (linesOf text).foldl (parseLine overwrite) env

/-- What can be opened, and what it holds. -/
abbrev Files := List Char -> Option (List Char)

/-- The path that `open_default` writes. -/
def defaultPath (path : List Char) : List Char :=
  path ++ "/.env".toList

/-- The bytes of the array it is written to. -/
def defaultPathSize (path : List Char) : Nat :=
  path.length + ".env".length + 1

/-- The NUL behind the path is one byte too many, whatever the directory. -/
theorem defaultPathSize_lt (path : List Char) :
    defaultPathSize path < (defaultPath path).length + 1 := by
  rw [defaultPathSize, defaultPath, List.length_append]
  exact Nat.lt_succ_of_le (Nat.le_of_eq (Nat.add_assoc _ _ _))

/-- The file `.env` of a directory, or else the file itself. -/
def envLoad (files : Files) (path : List Char) (overwrite : Bool) (env : Environment) :
    Int × Environment :=
  match files (defaultPath path) with
  | some text => (0, parse overwrite env text)
  | none =>
      match files path with
      | some text => (0, parse overwrite env text)
      | none => (-1, env)

def envGet (env : Environment) (name : String) (default : String) : String :=
  match getenv env name.toList with
  | none => default
  | some [] => default
  | some value => String.ofList value

def envGetInt (env : Environment) (name : String) (default : Int32) : Int32 :=
  match getenv env name.toList with
  | none => default
  | some [] => default
  | some value => atoi (String.ofList value)

/-!
## References
-/

/-- A reference to a variable and the text behind it. -/
structure Reference where
  name : List Char
  behind : List Char

/-- A text with references in it. -/
structure Template where
  front : List Char
  references : List Reference

namespace Reference

def text (reference : Reference) : List Char :=
  '$' :: '{' :: (reference.name ++ '}' :: reference.behind)

def value (env : Environment) (reference : Reference) : List Char :=
  (getenv env reference.name).getD []

/-- Nothing in a reference opens or closes another one. -/
structure Plain (reference : Reference) : Prop where
  name : Unended opensReference reference.name
  closed : Unended closesReference reference.name
  behind : Unended opensReference reference.behind

/-- What becomes of references.  One that directly follows another one is not
seen: only the characters that open it are taken off. -/
def parsed (env : Environment) : List Reference -> List Char
  | [] => []
  | [reference] => reference.value env ++ reference.behind
  | reference :: next :: rest =>
      if reference.behind = [] then
        reference.value env ++ (next.name ++ '}' :: next.behind) ++ parsed env rest
      else reference.value env ++ reference.behind ++ parsed env (next :: rest)

/-- What references stand for. -/
def meant (env : Environment) (references : List Reference) : List Char :=
  references.flatMap fun reference => reference.value env ++ reference.behind

/-- There is text between any two references. -/
def Apart : List Reference -> Prop
  | [] => True
  | [_] => True
  | reference :: next :: rest => reference.behind ≠ [] ∧ Apart (next :: rest)

end Reference

namespace Template

def text (template : Template) : List Char :=
  template.front ++ template.references.flatMap Reference.text

structure Plain (template : Template) : Prop where
  front : Unended opensReference template.front
  references : forall reference, reference ∈ template.references -> reference.Plain

def parsed (env : Environment) (template : Template) : List Char :=
  template.front ++ Reference.parsed env template.references

def meant (env : Environment) (template : Template) : List Char :=
  template.front ++ Reference.meant env template.references

end Template

section

variable {env : Environment} {token rest : List Char} {fuel : Nat}
variable {references : List Reference} {template : Template}

/-!
## What becomes of a value
-/

theorem parseFrom_nil (env : Environment) (fuel : Nat) : parseFrom env fuel [] = [] := by
  cases fuel <;> rfl

/-- A character that opens a reference is skipped in front of a token. -/
theorem parseFrom_cons_of_opens {c : Char} (h : opensReference c = true)
    (env : Environment) (fuel : Nat) (search : List Char) :
    parseFrom env fuel (c :: search) = parseFrom env fuel search := by
  cases fuel with
  | zero => rfl
  | succ fuel => simp only [parseFrom, strtokR_cons_of_ends h]

theorem parseFrom_of_unended (hne : token ≠ []) (h : Unended opensReference token)
    (env : Environment) (fuel : Nat) : parseFrom env (fuel + 1) token = token := by
  simp only [parseFrom, strtokR_of_unended hne h, strtokR_nil]
  rfl

theorem Reference.unended_name {reference : Reference} (h : reference.Plain) :
    Unended closesReference ('{' :: reference.name) := by
  intro c hmem
  rcases List.mem_cons.mp hmem with rfl | hmem
  · rfl
  · exact h.closed c hmem

/-- The text up to a reference, its variable, and the rest. -/
theorem parseFrom_reference (hne : token ≠ []) (h : Unended opensReference token)
    {reference : Reference} (hplain : reference.Plain) (env : Environment) (fuel : Nat)
    (rest : List Char) :
    parseFrom env (fuel + 1) (token ++ (reference.text ++ rest)) =
      token ++ reference.value env ++ parseFrom env fuel (reference.behind ++ rest) := by
  have hname : strtokR closesReference
      ('{' :: (reference.name ++ '}' :: (reference.behind ++ rest))) =
        (some ('{' :: reference.name), reference.behind ++ rest) :=
    strtokR_append (List.cons_ne_nil _ _) (Reference.unended_name hplain) rfl _
  have hfront : strtokR opensReference (token ++ (reference.text ++ rest)) =
      (some token, '{' :: (reference.name ++ '}' :: (reference.behind ++ rest))) := by
    have htoken := strtokR_append hne h (show opensReference '$' = true from rfl)
      ('{' :: (reference.name ++ '}' :: (reference.behind ++ rest)))
    rw [← htoken]
    simp [Reference.text]
  simp only [parseFrom, hfront, hname]
  rfl

theorem Reference.unended_unseen {reference : Reference} (h : reference.Plain) :
    Unended opensReference (reference.name ++ '}' :: reference.behind) := by
  refine h.name.append ?_
  intro c hmem
  rcases List.mem_cons.mp hmem with rfl | hmem
  · rfl
  · exact h.behind c hmem

/-- Behind a piece of text the references are parsed, whatever it is. -/
theorem parseFrom_text (hplain : forall reference, reference ∈ references ->
      reference.Plain) (hne : token ≠ []) (h : Unended opensReference token)
    (hfuel : references.length < fuel) :
    parseFrom env fuel (token ++ references.flatMap Reference.text) =
      token ++ Reference.parsed env references := by
  induction references using Reference.parsed.induct generalizing token fuel with
  | case1 =>
      obtain ⟨fuel, rfl⟩ := Nat.exists_eq_succ_of_ne_zero (Nat.ne_of_gt hfuel)
      rw [List.flatMap_nil, List.append_nil, parseFrom_of_unended hne h]
      exact (List.append_nil token).symm
  | case2 reference =>
      obtain ⟨fuel, rfl⟩ := Nat.exists_eq_succ_of_ne_zero (Nat.ne_of_gt
        (Nat.zero_lt_of_lt hfuel))
      have hone := hplain reference List.mem_cons_self
      rw [List.flatMap_cons, List.flatMap_nil,
        parseFrom_reference hne h hone, List.append_nil, Reference.parsed,
        ← List.append_assoc]
      congr 1
      by_cases hbehind : reference.behind = []
      · rw [hbehind, parseFrom_nil]
      · obtain ⟨fuel, rfl⟩ := Nat.exists_eq_succ_of_ne_zero (Nat.ne_of_gt
          (Nat.lt_of_succ_lt_succ hfuel))
        exact parseFrom_of_unended hbehind hone.behind env fuel
  | case3 reference next rest hbehind ih =>
      obtain ⟨fuel, rfl⟩ := Nat.exists_eq_succ_of_ne_zero (Nat.ne_of_gt
        (Nat.zero_lt_of_lt hfuel))
      have hone := hplain reference List.mem_cons_self
      have hnext := hplain next (List.mem_cons_of_mem _ List.mem_cons_self)
      have hlater : forall other, other ∈ rest -> other.Plain := fun other hmem =>
        hplain other (List.mem_cons_of_mem _ (List.mem_cons_of_mem _ hmem))
      have hunseen : next.name ++ '}' :: next.behind ≠ [] := by simp
      have hskip : parseFrom env fuel (next.text ++ rest.flatMap Reference.text) =
          parseFrom env fuel
            ((next.name ++ '}' :: next.behind) ++ rest.flatMap Reference.text) := by
        rw [Reference.text, List.cons_append, List.cons_append,
          parseFrom_cons_of_opens rfl, parseFrom_cons_of_opens rfl]
      rw [List.flatMap_cons, List.flatMap_cons, parseFrom_reference hne h hone, hbehind,
        List.nil_append, hskip, ih hlater hunseen (Reference.unended_unseen hnext) (by
          simp only [List.length_cons] at hfuel
          omega), Reference.parsed, if_pos hbehind]
      simp only [List.append_assoc]
  | case4 reference next rest hbehind ih =>
      obtain ⟨fuel, rfl⟩ := Nat.exists_eq_succ_of_ne_zero (Nat.ne_of_gt
        (Nat.zero_lt_of_lt hfuel))
      have hone := hplain reference List.mem_cons_self
      have hlater : forall other, other ∈ next :: rest -> other.Plain :=
        fun other hmem => hplain other (List.mem_cons_of_mem _ hmem)
      rw [List.flatMap_cons, parseFrom_reference hne h hone,
        ih hlater hbehind hone.behind (Nat.lt_of_succ_lt_succ hfuel),
        Reference.parsed, if_neg hbehind]
      simp only [List.append_assoc]

theorem isNested_text (h : template.Plain) :
    isNested (' ' :: template.text) = true <-> template.references ≠ [] := by
  unfold isNested Template.text
  rw [Bool.and_eq_true, decide_eq_true_iff, decide_eq_true_iff]
  cases hreferences : template.references with
  | nil =>
      refine iff_of_false ?_ (fun hne => hne rfl)
      rintro ⟨hopens, _⟩
      rw [List.flatMap_nil, List.append_nil] at hopens
      have hmem := hopens.subset List.mem_cons_self
      rcases List.mem_cons.mp hmem with heq | hmem
      · exact absurd heq (by decide)
      · exact absurd (h.front '$' hmem) (by decide)
  | cons reference rest =>
      refine iff_of_true ⟨⟨' ' :: template.front, reference.name ++
        '}' :: (reference.behind ++ rest.flatMap Reference.text), ?_⟩, ?_⟩
        (List.cons_ne_nil _ _)
      · simp [Reference.text]
      · simp [Reference.text]

theorem Reference.length_le (references : List Reference) :
    references.length <= (references.flatMap Reference.text).length := by
  induction references with
  | nil => exact Nat.le_refl 0
  | cons reference rest ih =>
      rw [List.flatMap_cons, List.length_append, List.length_cons, Reference.text,
        List.length_cons]
      omega

/-- What becomes of a value.  A reference that directly follows another one is not
seen. -/
theorem parseValue_text (env : Environment) (h : template.Plain) :
    parseValue env template.text = ' ' :: template.parsed env := by
  have hfront : Unended opensReference (' ' :: template.front) := by
    intro c hmem
    rcases List.mem_cons.mp hmem with rfl | hmem
    · rfl
    · exact h.front c hmem
  unfold parseValue
  by_cases hnone : template.references = []
  · rw [if_neg (by rw [isNested_text h]; exact fun hne => hne hnone), Template.text,
      Template.parsed, hnone]
    rfl
  · rw [if_pos ((isNested_text h).mpr hnone)]
    have hlength := Reference.length_le template.references
    have hfuel : template.references.length <
        (' ' :: template.text).length + 1 := by
      rw [List.length_cons, Template.text, List.length_append]
      omega
    exact parseFrom_text h.references (List.cons_ne_nil _ _) hfront hfuel

/-- The second of two references with nothing between them is left as text. -/
theorem parseValue_text_adjacent :
    parseValue (fun name => if name = ['X'] then some ['1'] else some ['2'])
      "a${X}${Y}b".toList = " a1Y\x7db".toList := by
  have hplain : Template.Plain ⟨['a'], [⟨['X'], []⟩, ⟨['Y'], ['b']⟩]⟩ := by
    refine ⟨by decide, ?_⟩
    intro reference hmem
    simp only [List.mem_cons, List.not_mem_nil, or_false] at hmem
    rcases hmem with rfl | rfl
    · exact ⟨by decide, by decide, by decide⟩
    · exact ⟨by decide, by decide, by decide⟩
  have hparsed := parseValue_text
    (fun name => if name = ['X'] then some ['1'] else some ['2']) hplain
  have htext : "a${X}${Y}b".toList =
      Template.text ⟨['a'], [⟨['X'], []⟩, ⟨['Y'], ['b']⟩]⟩ := by decide
  rw [htext, hparsed]
  decide

/-- References with text between them stand for what they mean. -/
theorem Reference.parsed_of_apart (env : Environment) (h : Reference.Apart references) :
    Reference.parsed env references = Reference.meant env references := by
  induction references using Reference.parsed.induct with
  | case1 => rfl
  | case2 reference => exact (List.append_nil _).symm
  | case3 reference next rest hbehind ih => exact absurd hbehind h.1
  | case4 reference next rest hbehind ih =>
      rw [Reference.parsed, if_neg hbehind, ih h.2]
      rfl

theorem parseValue_of_apart (env : Environment) (h : template.Plain)
    (hapart : Reference.Apart template.references) :
    parseValue env template.text = ' ' :: template.meant env := by
  rw [parseValue_text env h, Template.parsed, Reference.parsed_of_apart env hapart,
    Template.meant]

/-!
## What becomes of a line
-/

variable {overwrite : Bool} {name value original line : List Char}
variable {lines : List (List Char)}

def Binds (line name : List Char) : Prop :=
  exists original, bindingOf line = some (name, original)

theorem name_of_bindingOf (h : bindingOf line = some (name, original)) :
    name ≠ [] ∧ '=' ∉ name := by
  unfold bindingOf at h
  by_cases hcomment : isCommented (line.takeWhile fun c => c != '\x00') = true
  · rw [if_pos hcomment] at h
    cases h
  · rw [if_neg hcomment] at h
    unfold binding at h
    rcases hname : strtokR (fun c => c == '=') (line.takeWhile fun c => c != '\x00')
      with ⟨token, rest⟩
    rw [hname] at h
    cases token with
    | none => cases h
    | some token =>
        have htoken : token = name := by
          rcases Option.bind_eq_some_iff.mp h with ⟨_, ⟨⟩, hrest⟩
          rcases Option.bind_eq_some_iff.mp hrest with ⟨found, _, hfound⟩
          exact (Prod.mk.inj (Option.some_inj.mp hfound)).1
        rw [htoken] at hname
        have hunended := unended_of_strtokR hname
        refine ⟨hunended.1, fun hmem => ?_⟩
        have hends := hunended.2 '=' hmem
        simp at hends

theorem setenv_of_name (hne : name ≠ []) (heq : '=' ∉ name) (env : Environment)
    (value : List Char) (overwrite : Bool) (other : List Char) :
    setenv env name value overwrite other =
      if other = name ∧ (overwrite = true ∨ env name = none) then some value
      else env other := by
  unfold setenv
  rw [if_neg (not_or.mpr ⟨hne, heq⟩)]
  cases overwrite with
  | true => simp
  | false =>
      cases hset : env name with
      | none => simp
      | some kept => simp

theorem parseLine_eq (overwrite : Bool) (env : Environment) (line other : List Char) :
    parseLine overwrite env line other =
      match bindingOf line with
      | none => env other
      | some (name, original) =>
          if other = name ∧ (overwrite = true ∨ env name = none) then
            some ((parseValue env original).drop 1)
          else env other := by
  unfold parseLine
  cases hbinding : bindingOf line with
  | none => rfl
  | some bound =>
      rcases bound with ⟨name, original⟩
      rcases name_of_bindingOf hbinding with ⟨hne, heq⟩
      exact setenv_of_name hne heq env _ overwrite other

theorem parseLine_of_binds (h : bindingOf line = some (name, original))
    (hset : overwrite = true ∨ env name = none) :
    parseLine overwrite env line name = some ((parseValue env original).drop 1) := by
  rw [parseLine_eq, h]
  exact if_pos ⟨rfl, hset⟩

theorem parseLine_of_not_binds (h : ¬ Binds line name) :
    parseLine overwrite env line name = env name := by
  rw [parseLine_eq]
  cases hbinding : bindingOf line with
  | none => rfl
  | some bound =>
      rcases bound with ⟨other, original⟩
      refine if_neg ?_
      rintro ⟨rfl, _⟩
      exact h ⟨original, hbinding⟩

/-- A variable that is set is kept. -/
theorem parseLine_of_isSome (h : env name = some value) (line : List Char) :
    parseLine false env line name = some value := by
  rw [parseLine_eq]
  cases hbinding : bindingOf line with
  | none => exact h
  | some bound =>
      rcases bound with ⟨other, original⟩
      refine (if_neg ?_).trans h
      rintro ⟨rfl, hset⟩
      rw [h] at hset
      simp at hset

/-!
## What becomes of a file
-/

theorem foldl_of_not_binds (h : forall line, line ∈ lines -> ¬ Binds line name)
    (env : Environment) :
    lines.foldl (parseLine overwrite) env name = env name := by
  induction lines generalizing env with
  | nil => rfl
  | cons line rest ih =>
      rw [List.foldl_cons, ih fun other hmem => h other (List.mem_cons_of_mem _ hmem),
        parseLine_of_not_binds (h line List.mem_cons_self)]

theorem foldl_of_isSome (h : env name = some value) (lines : List (List Char)) :
    lines.foldl (parseLine false) env name = some value := by
  induction lines generalizing env with
  | nil => exact h
  | cons line rest ih => exact ih (parseLine_of_isSome h line)

/-- The environment that the lines of a file leave. -/
structure Loaded (overwrite : Bool) (env : Environment) (lines : List (List Char))
    (loaded : Environment) : Prop where
  /-- What no line names stays as it is. -/
  kept : forall name, (forall line, line ∈ lines -> ¬ Binds line name) ->
    loaded name = env name
  /-- What is set stays as it is unless it may be overwritten. -/
  set : overwrite = false -> forall name value, env name = some value ->
    loaded name = some value
  /-- The first line that names a variable sets it, as the lines before it leave
  the environment. -/
  first : overwrite = false -> forall before line after name original,
    lines = before ++ line :: after -> bindingOf line = some (name, original) ->
    (forall other, other ∈ before -> ¬ Binds other name) -> env name = none ->
    loaded name =
      some ((parseValue (before.foldl (parseLine overwrite) env) original).drop 1)
  /-- The last line that names a variable sets it when it may be overwritten. -/
  last : overwrite = true -> forall before line after name original,
    lines = before ++ line :: after -> bindingOf line = some (name, original) ->
    (forall other, other ∈ after -> ¬ Binds other name) ->
    loaded name =
      some ((parseValue (before.foldl (parseLine overwrite) env) original).drop 1)

theorem loaded_foldl (overwrite : Bool) (env : Environment) (lines : List (List Char)) :
    Loaded overwrite env lines (lines.foldl (parseLine overwrite) env) where
  kept := fun name h => foldl_of_not_binds h env
  set := by
    rintro rfl name value h
    exact foldl_of_isSome h lines
  first := by
    rintro rfl before line after name original rfl hbinding hbefore hunset
    have hfirst : before.foldl (parseLine false) env name = env name :=
      foldl_of_not_binds hbefore env
    rw [List.foldl_append, List.foldl_cons]
    exact foldl_of_isSome
      (parseLine_of_binds hbinding (Or.inr (hfirst.trans hunset))) after
  last := by
    rintro rfl before line after name original rfl hbinding hafter
    rw [List.foldl_append, List.foldl_cons, foldl_of_not_binds hafter,
      parseLine_of_binds hbinding (Or.inl rfl)]

/-- Every variable that a line names is set then. -/
theorem isSome_foldl (hmem : line ∈ lines) (hbinds : Binds line name)
    (env : Environment) :
    (lines.foldl (parseLine false) env name).isSome = true := by
  rcases List.append_of_mem hmem with ⟨before, after, rfl⟩
  rcases hbinds with ⟨original, hbinding⟩
  rw [List.foldl_append, List.foldl_cons]
  cases hset : before.foldl (parseLine false) env name with
  | some value =>
      rw [foldl_of_isSome (parseLine_of_isSome hset line) after]
      rfl
  | none =>
      rw [foldl_of_isSome (parseLine_of_binds hbinding (Or.inr hset)) after]
      rfl

theorem foldl_of_all_set (h : forall line, line ∈ lines -> forall name,
      Binds line name -> (env name).isSome = true) :
    lines.foldl (parseLine false) env = env := by
  induction lines with
  | nil => rfl
  | cons line rest ih =>
      have hline : parseLine false env line = env := by
        funext name
        cases hvalue : env name with
        | some value => exact parseLine_of_isSome hvalue line
        | none =>
            rw [parseLine_of_not_binds, hvalue]
            intro hbinds
            have hsome := h line List.mem_cons_self name hbinds
            rw [hvalue] at hsome
            cases hsome
      rw [List.foldl_cons, hline]
      exact ih fun other hmem => h other (List.mem_cons_of_mem _ hmem)

/-- To load lines again changes nothing. -/
theorem foldl_foldl (env : Environment) (lines : List (List Char)) :
    lines.foldl (parseLine false) (lines.foldl (parseLine false) env) =
      lines.foldl (parseLine false) env :=
  foldl_of_all_set fun _ hmem _ hbinds => isSome_foldl hmem hbinds env

end

/-!
## Files that are written
-/

/-- A variable and what it is to be set to. -/
structure Entry where
  name : List Char
  template : Template

namespace Entry

def line (entry : Entry) : List Char :=
  entry.name ++ '=' :: (entry.template.text ++ ['\n'])

/-- The line is no comment, and is read as one line with one name. -/
structure Valid (entry : Entry) : Prop where
  nonempty : entry.name ≠ []
  name : forall c, c ∈ ['=', '#', '\n', '\x00'] -> c ∉ entry.name
  value : entry.template.text ≠ []
  text : forall c, c ∈ ['\n', '\x00'] -> c ∉ entry.template.text
  plain : entry.template.Plain

theorem not_isCommented {entry : Entry} (h : entry.Valid) (rest : List Char) :
    isCommented (entry.name ++ '=' :: rest) = false := by
  unfold isCommented
  rw [List.dropWhile_append]
  cases hname : entry.name.dropWhile fun c => c == ' ' with
  | nil => rfl
  | cons c more =>
      have hmem : c ∈ entry.name :=
        (List.dropWhile_suffix _).subset (hname ▸ List.mem_cons_self)
      have hc : c ≠ '#' := fun heq => h.name '#' (by simp) (heq ▸ hmem)
      show (some c == some '#') = false
      rw [beq_eq_false_iff_ne]
      exact fun heq => hc (Option.some_inj.mp heq)

theorem bindingOf_line {entry : Entry} (h : entry.Valid) :
    bindingOf entry.line = some (entry.name, entry.template.text) := by
  have hname : Unended (fun c => c == '=') entry.name := by
    intro c hmem
    rw [beq_eq_false_iff_ne]
    rintro rfl
    exact h.name '=' (by simp) hmem
  have htext : Unended (fun c => c == '\n') entry.template.text := by
    intro c hmem
    rw [beq_eq_false_iff_ne]
    rintro rfl
    exact h.text '\n' (by simp) hmem
  have hwhole : entry.line.takeWhile (fun c => c != '\x00') = entry.line := by
    rw [List.takeWhile_eq_self_iff]
    intro c hmem
    rw [bne_iff_ne]
    rintro rfl
    unfold Entry.line at hmem
    simp only [List.mem_append, List.mem_cons, List.not_mem_nil, or_false] at hmem
    rcases hmem with hmem | hmem | hmem | hmem
    · exact h.name '\x00' (by simp) hmem
    · exact absurd hmem (by decide)
    · exact h.text '\x00' (by simp) hmem
    · exact absurd hmem (by decide)
  unfold bindingOf
  rw [hwhole]
  unfold Entry.line binding
  rw [if_neg (by rw [not_isCommented h]; exact Bool.false_ne_true),
    strtokR_append h.nonempty hname rfl]
  show ((strtokR _ (entry.template.text ++ '\n' :: [])).1.bind fun original => _) = _
  rw [strtokR_append h.value htext rfl]
  rfl

end Entry

/-- Each variable of a written file is set to what its value becomes in the
environment that the lines before it leave. -/
theorem parse_written {entries : List Entry}
    (h : forall entry, entry ∈ entries -> entry.Valid) (overwrite : Bool)
    (env : Environment) :
    parse overwrite env (entries.flatMap Entry.line) =
      entries.foldl (fun env entry =>
        setenv env entry.name (entry.template.parsed env) overwrite) env := by
  induction entries generalizing env with
  | nil => rfl
  | cons entry rest ih =>
      have hone := h entry List.mem_cons_self
      have hrest := ih fun other hmem => h other (List.mem_cons_of_mem _ hmem)
      have hline : '\n' ∉ entry.name ++ '=' :: entry.template.text := by
        intro hmem
        simp only [List.mem_append, List.mem_cons] at hmem
        rcases hmem with hmem | hmem | hmem
        · exact hone.name '\n' (by simp) hmem
        · exact absurd hmem (by decide)
        · exact hone.text '\n' (by simp) hmem
      have htext : (entry :: rest).flatMap Entry.line =
          (entry.name ++ '=' :: entry.template.text) ++
            '\n' :: rest.flatMap Entry.line := by
        simp [Entry.line]
      have hsplit : (entry.name ++ '=' :: entry.template.text) ++ ['\n'] =
          entry.line := by
        simp [Entry.line]
      unfold parse at hrest ⊢
      rw [htext, linesOf_append hline, hsplit, List.foldl_cons, hrest,
        List.foldl_cons, parseLine, Entry.bindingOf_line hone]
      show List.foldl _ (setVariable env entry.name entry.template.text overwrite) _ = _
      rw [setVariable, parseValue_text env hone.plain, List.drop_one, List.tail_cons]

/-- The second value refers to the first variable. -/
theorem parse_written_two :
    parse false (fun _ => none) "A=x\nB=y${A}z\n".toList "B".toList =
      some "yxz".toList := by
  have hentries : forall entry, entry ∈ [⟨['A'], ⟨['x'], []⟩⟩,
      ⟨['B'], ⟨['y'], [⟨['A'], ['z']⟩]⟩⟩] -> Entry.Valid entry := by
    intro entry hmem
    simp only [List.mem_cons, List.not_mem_nil, or_false] at hmem
    rcases hmem with rfl | rfl
    · refine ⟨by decide, by simp, by decide, by simp [Template.text], by decide, ?_⟩
      intro reference hmem
      cases hmem
    · refine ⟨by decide, by simp, by decide, by simp [Template.text, Reference.text],
        by decide, ?_⟩
      intro reference hmem
      cases List.mem_singleton.mp hmem
      exact ⟨by decide, by decide, by decide⟩
  have hparsed := parse_written hentries false (fun _ => none)
  have htext : "A=x\nB=y${A}z\n".toList = [⟨['A'], ⟨['x'], []⟩⟩,
      ⟨['B'], ⟨['y'], [⟨['A'], ['z']⟩]⟩⟩].flatMap Entry.line := by decide
  rw [htext, hparsed]
  decide

end Utils
end Noc
