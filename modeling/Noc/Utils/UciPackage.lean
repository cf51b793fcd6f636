import Mathlib.Data.List.ModifyLast
import Mathlib.Data.List.Nodup
import Noc.Utils.Uci

/-!
# UCI packages

What a package holds and what the commands change in it.  A section is found by
its name or as the first or last one of its type, the three ways the daemon
names sections in.  A command on a section that is missing is an error and
changes nothing, and so is one with a NULL value, whose line the shell refuses.
-/

namespace Noc
namespace Utils

open Foundation

/-!
## Names
-/

inductive UciPlace where
  | named (name : String)
  | first (type : String)
  | last (type : String)
  deriving DecidableEq, Repr

/-- What follows the package in a name: a section, or one option of it. -/
structure UciName where
  place : UciPlace
  option : Option String := none
  deriving DecidableEq, Repr

/-- `@type[0]` is the first section of a type and `@type[-1]` the last. -/
def uciPlace : List Char -> Option UciPlace
  | '@' :: rest =>
      let type := rest.takeWhile fun c => c ≠ '['
      match rest.dropWhile fun c => c ≠ '[' with
      | ['[', '0', ']'] => some (.first (String.ofList type))
      | ['[', '-', '1', ']'] => some (.last (String.ofList type))
      | _ => none
  | name => some (.named (String.ofList name))

def uciName (args : String) : Option UciName :=
  match strtok '.' args with
  | [_, place] => (uciPlace place.toList).map fun place => { place }
  | [_, place, option] =>
      (uciPlace place.toList).map fun place => { place, option := some option }
  | _ => none

/-!
## Sections
-/

inductive UciValue where
  | text (value : String)
  | list (values : List String)
  deriving DecidableEq, Repr

/-- The options of a section. -/
abbrev UciSection := String -> Option UciValue

def UciSection.empty : UciSection := fun _ => none

/-- `add_list` makes a list of what the option holds. -/
def UciValue.push : Option UciValue -> String -> UciValue
  | none, value => .list [value]
  | some (.text first), value => .list [first, value]
  | some (.list values), value => .list (values ++ [value])

structure UciPackage where
  named : String -> Option UciSection
  typed : String -> List UciSection

namespace UciPackage

def find (p : UciPackage) : UciPlace -> Option UciSection
  | .named name => p.named name
  | .first type => (p.typed type).head?
  | .last type => (p.typed type).getLast?

def edit (p : UciPackage) (change : UciSection -> UciSection) :
    UciPlace -> UciPackage
  | .named name =>
      { p with
        named := Function.update p.named name ((p.named name).map change) }
  | .first type =>
      { p with
        typed := Function.update p.typed type
          ((p.typed type).modifyHead change) }
  | .last type =>
      { p with
        typed := Function.update p.typed type
          ((p.typed type).modifyLast change) }

def drop (p : UciPackage) : UciPlace -> UciPackage
  | .named name => { p with named := Function.update p.named name none }
  | .first type =>
      { p with typed := Function.update p.typed type (p.typed type).tail }
  | .last type =>
      { p with typed := Function.update p.typed type (p.typed type).dropLast }

/-!
## Commands
-/

def addSection (type : String) (p : UciPackage) : UciPackage :=
  { p with typed := Function.update p.typed type (p.typed type ++ [.empty]) }

/-- Without an option, a named section is made. -/
def assign (name : UciName) (value : String) (p : UciPackage) : UciPackage :=
  match name.option, name.place with
  | some option, place =>
      p.edit (fun options => Function.update options option (some (.text value)))
        place
  | none, .named section_ =>
      { p with
        named := Function.update p.named section_
          (some ((p.named section_).getD .empty)) }
  | none, _ => p

def push (name : UciName) (value : String) (p : UciPackage) : UciPackage :=
  match name.option with
  | some option =>
      p.edit (fun options =>
        Function.update options option (some (UciValue.push (options option) value)))
        name.place
  | none => p

/-- The result is NULL where UCI reports an error. -/
def delete (name : UciName) (p : UciPackage) : Option UciPackage :=
  match p.find name.place, name.option with
  | none, _ => none
  | some _, none => some (p.drop name.place)
  | some options, some option =>
      if options option = none then none
      else some (p.edit (fun options => Function.update options option none)
        name.place)

/-- An empty value deletes, and what is not there stays away. -/
def set (name : UciName) (value : String) (p : UciPackage) : UciPackage :=
  if value = "" then (p.delete name).getD p else p.assign name value

/-- A deletion repeated until it is an error, so at most `bound` times. -/
def deleteLoop (name : UciName) : Nat -> UciPackage -> UciPackage
  | 0, p => p
  | bound + 1, p =>
      match p.delete name with
      | some p' => deleteLoop name bound p'
      | none => p

/-- How often a deletion can succeed. -/
def deletable (name : UciName) (p : UciPackage) : Nat :=
  match name.place, name.option with
  | .first type, none => (p.typed type).length
  | .last type, none => (p.typed type).length
  | _, _ => 1

/-- The parentheses of a formatted NULL are an error of syntax to the shell. -/
def apply (p : UciPackage) (command : UciCommand) : UciPackage :=
  match command with
  | .add _ type => p.addSection type
  | .set _ none => p
  | .set args (some value) =>
      ((uciName args).map fun name => p.set name value).getD p
  | .delete args => ((uciName args).bind fun name => p.delete name).getD p
  | .deleteAll args =>
      ((uciName args).map fun name =>
        p.deleteLoop name (p.deletable name)).getD p
  | .addList _ none => p
  | .addList args (some value) =>
      ((uciName args).map fun name => p.push name value).getD p
  | .commit _ => p

def run (p : UciPackage) (commands : List UciCommand) : UciPackage :=
  commands.foldl apply p

theorem run_cons (p : UciPackage) (command : UciCommand)
    (rest : List UciCommand) : p.run (command :: rest) = (p.apply command).run rest :=
  rfl

theorem run_append (p : UciPackage) (commands later : List UciCommand) :
    p.run (commands ++ later) = (p.run commands).run later :=
  List.foldl_append

/-!
## Editing a section
-/

section

variable {p : UciPackage} {place : UciPlace} {name : UciName}

theorem find_edit (p : UciPackage) (change : UciSection -> UciSection)
    (place : UciPlace) :
    (p.edit change place).find place = (p.find place).map change := by
  cases place with
  | named section_ => simp [find, edit]
  | first type =>
      simp only [find, edit, Function.update_self]
      cases p.typed type <;> rfl
  | last type =>
      simp only [find, edit, Function.update_self]
      cases List.eq_nil_or_concat (p.typed type) with
      | inl hnil =>
          rw [hnil]
          rfl
      | inr hconcat =>
          rcases hconcat with ⟨sections, last, heq⟩
          rw [heq, List.concat_eq_append, List.modifyLast_concat]
          simp

theorem edit_edit (p : UciPackage) (change later : UciSection -> UciSection)
    (place : UciPlace) :
    (p.edit change place).edit later place =
      p.edit (fun options => later (change options)) place := by
  cases place with
  | named section_ => simp [edit, Function.comp_def]
  | first type => simp [edit, Function.comp_def]
  | last type =>
      simp only [edit, Function.update_self, Function.update_idem]
      cases List.eq_nil_or_concat (p.typed type) with
      | inl hnil =>
          rw [hnil]
          rfl
      | inr hconcat =>
          rcases hconcat with ⟨sections, last, heq⟩
          rw [heq, List.concat_eq_append, List.modifyLast_concat,
            List.modifyLast_concat, List.modifyLast_concat]

/-- An edit changes nothing exactly when it keeps the section there is. -/
theorem edit_eq_self_iff {change : UciSection -> UciSection} :
    p.edit change place = p <->
      forall options, p.find place = some options -> change options = options := by
  constructor
  · intro h options hfind
    have hsame := find_edit p change place
    rw [h, hfind] at hsame
    exact (Option.some_inj.mp hsame).symm
  · intro h
    cases place with
    | named section_ =>
        have hsame : (p.named section_).map change = p.named section_ := by
          cases hfind : p.named section_ with
          | none => rfl
          | some options => exact congrArg some (h options hfind)
        simp [edit, hsame]
    | first type =>
        have hsame : (p.typed type).modifyHead change = p.typed type := by
          cases htyped : p.typed type with
          | nil => rfl
          | cons options rest =>
              have hkept := h options (by simp [find, htyped])
              rw [List.modifyHead_cons, hkept]
        simp [edit, hsame]
    | last type =>
        have hsame : (p.typed type).modifyLast change = p.typed type := by
          cases List.eq_nil_or_concat (p.typed type) with
          | inl hnil =>
              rw [hnil]
              rfl
          | inr hconcat =>
              rcases hconcat with ⟨sections, last, heq⟩
              rw [List.concat_eq_append] at heq
              have hkept := h last (by simp [find, heq])
              rw [heq, List.modifyLast_concat, hkept]
        simp [edit, hsame]

/-!
## Deleting
-/

theorem delete_of_none (hfind : p.find name.place = none) : p.delete name = none := by
  unfold delete
  rw [hfind]

theorem delete_of_section {options : UciSection} (hoption : name.option = none)
    (hfind : p.find name.place = some options) :
    p.delete name = some (p.drop name.place) := by
  unfold delete
  rw [hfind, hoption]

theorem delete_of_option {options : UciSection} {option : String}
    (hoption : name.option = some option)
    (hfind : p.find name.place = some options) :
    p.delete name =
      if options option = none then none
      else some
        (p.edit (fun options => Function.update options option none) name.place) := by
  unfold delete
  rw [hfind, hoption]

theorem getD_delete (p : UciPackage) (place : UciPlace) (option : String) :
    (p.delete { place, option := some option }).getD p =
      p.edit (fun options => Function.update options option none) place := by
  cases hfind : p.find place with
  | none =>
      rw [delete_of_none hfind]
      apply Eq.symm
      apply edit_eq_self_iff.mpr
      intro options hsome
      rw [hfind] at hsome
      cases hsome
  | some options =>
      rw [delete_of_option rfl hfind]
      split
      · rename_i hnone
        apply Eq.symm
        apply edit_eq_self_iff.mpr
        intro other hsome
        rw [hfind] at hsome
        cases hsome
        rw [← hnone, Function.update_eq_self]
      · rfl

/-- Deleting an option leaves it unset. -/
theorem apply_delete {args option : String}
    (hargs : uciName args = some { place, option := some option }) (p : UciPackage) :
    p.apply (.delete args) =
      p.edit (fun options => Function.update options option none) place := by
  unfold apply
  simp only [hargs, Option.bind_some]
  exact getD_delete p place option

/-!
## Setting options
-/

/-- What an option holds after it was set. -/
def setOption (value : Option String) (held : Option UciValue) : Option UciValue :=
  match value with
  | none => held
  | some value => if value = "" then none else some (.text value)

/-- Options and their new values, set in order. -/
def setOptions (settings : List (String × Option String)) (options : UciSection) :
    UciSection :=
  settings.foldl (fun options setting =>
    Function.update options setting.1 (setOption setting.2 (options setting.1))) options

theorem setOptions_of_notMem {settings : List (String × Option String)}
    {option : String} (hnotMem : option ∉ settings.map Prod.fst)
    (options : UciSection) : setOptions settings options option = options option := by
  induction settings generalizing options with
  | nil => rfl
  | cons setting rest ih =>
      rw [List.map_cons, List.mem_cons, not_or] at hnotMem
      unfold setOptions
      rw [List.foldl_cons]
      exact (ih hnotMem.2 _).trans (Function.update_of_ne hnotMem.1 _ _)

/-- Distinct options are what they are set to already when setting them changes
nothing. -/
theorem setOptions_eq_self_iff {settings : List (String × Option String)}
    (hnodup : (settings.map Prod.fst).Nodup) (options : UciSection) :
    setOptions settings options = options <->
      forall setting, setting ∈ settings ->
        setOption setting.2 (options setting.1) = options setting.1 := by
  induction settings generalizing options with
  | nil =>
      constructor
      · intro _ setting hmem
        cases hmem
      · intro _
        rfl
  | cons setting rest ih =>
      rw [List.map_cons, List.nodup_cons] at hnodup
      rw [List.forall_mem_cons]
      have hstep : setOptions (setting :: rest) options =
          setOptions rest (Function.update options setting.1
            (setOption setting.2 (options setting.1))) := rfl
      rw [hstep]
      constructor
      · intro h
        have hsetting := congrFun h setting.1
        rw [setOptions_of_notMem hnodup.1, Function.update_self] at hsetting
        have hsame : Function.update options setting.1
            (setOption setting.2 (options setting.1)) = options := by
          rw [hsetting, Function.update_eq_self]
        rw [hsame] at h
        exact ⟨hsetting, (ih hnodup.2 options).mp h⟩
      · intro h
        have hsame : Function.update options setting.1
            (setOption setting.2 (options setting.1)) = options := by
          rw [h.1, Function.update_eq_self]
        rw [hsame]
        exact (ih hnodup.2 options).mpr h.2

theorem apply_set {args option : String}
    (hargs : uciName args = some { place, option := some option })
    (value : Option String) (p : UciPackage) :
    p.apply (.set args value) =
      p.edit (fun options =>
        Function.update options option (setOption value (options option))) place := by
  cases value with
  | none =>
      apply Eq.symm
      apply edit_eq_self_iff.mpr
      intro options _
      exact Function.update_eq_self option options
  | some value =>
      simp only [apply, hargs, Option.map_some, Option.getD_some, set, setOption]
      split
      · exact getD_delete p place option
      · rfl

/-- The commands that set options of one section. -/
theorem run_sets {settings : List (String × Option String)}
    {args : String -> String}
    (hargs : forall setting, setting ∈ settings ->
      uciName (args setting.1) = some { place, option := some setting.1 })
    (p : UciPackage) :
    p.run (settings.map fun setting => .set (args setting.1) setting.2) =
      p.edit (setOptions settings) place := by
  induction settings generalizing p with
  | nil =>
      exact (edit_eq_self_iff.mpr fun _ _ => rfl).symm
  | cons setting rest ih =>
      rw [List.forall_mem_cons] at hargs
      have hrest := ih hargs.2 (p.apply (.set (args setting.1) setting.2))
      rw [apply_set hargs.1, edit_edit] at hrest
      rw [List.map_cons]
      show (p.apply _).run _ = _
      rw [apply_set hargs.1]
      exact hrest

/-- A new section of a type, with its options. -/
theorem run_addSection {package type : String}
    {settings : List (String × Option String)} {args : String -> String}
    (hargs : forall setting, setting ∈ settings ->
      uciName (args setting.1) =
        some { place := .last type, option := some setting.1 })
    (p : UciPackage) :
    p.run (.add package type ::
        settings.map fun setting => .set (args setting.1) setting.2) =
      { p with
        typed := Function.update p.typed type
          (p.typed type ++ [setOptions settings .empty]) } := by
  show (p.addSection type).run _ = _
  rw [run_sets hargs]
  simp [addSection, edit, List.modifyLast_concat]

/-!
## Repeated deletion
-/

/-- What is deleted is gone, or there is one section less. -/
theorem delete_of_delete {p' : UciPackage} (h : p.delete name = some p') :
    p'.delete name = none ∨ p'.deletable name < p.deletable name := by
  cases hfind : p.find name.place with
  | none =>
      rw [delete_of_none hfind] at h
      cases h
  | some options =>
      rcases name with ⟨place, _ | option⟩
      · rw [delete_of_section rfl hfind] at h
        cases h
        cases place with
        | named section_ =>
            left
            apply delete_of_none
            simp [find, drop]
        | first type =>
            right
            have hne : p.typed type ≠ [] := by
              intro hnil
              simp [find, hnil] at hfind
            have hpos := List.length_pos_of_ne_nil hne
            simp [deletable, drop]
            omega
        | last type =>
            right
            have hne : p.typed type ≠ [] := by
              intro hnil
              simp [find, hnil] at hfind
            have hpos := List.length_pos_of_ne_nil hne
            simp [deletable, drop]
            omega
      · rw [delete_of_option rfl hfind] at h
        left
        split at h
        · cases h
        · cases h
          rw [delete_of_option rfl ((find_edit p _ place).trans
            (congrArg (Option.map _) hfind))]
          simp

theorem delete_of_deletable_eq_zero (h : p.deletable name = 0) :
    p.delete name = none := by
  apply delete_of_none
  rcases name with ⟨place, option⟩
  cases place with
  | named section_ => simp [deletable] at h
  | first type =>
      cases option with
      | none => simpa [deletable, find] using h
      | some option => simp [deletable] at h
  | last type =>
      cases option with
      | none => simpa [deletable, find] using h
      | some option => simp [deletable] at h

/-- With the bound given, the loop ends where UCI reports an error. -/
theorem delete_deleteLoop {bound : Nat} (h : p.deletable name <= bound) :
    (p.deleteLoop name bound).delete name = none := by
  induction bound generalizing p with
  | zero => exact delete_of_deletable_eq_zero (Nat.le_zero.mp h)
  | succ bound ih =>
      unfold deleteLoop
      cases hdelete : p.delete name with
      | none => exact hdelete
      | some p' =>
          cases delete_of_delete hdelete with
          | inl hnone =>
              have hsame : p'.deleteLoop name bound = p' := by
                cases bound with
                | zero => rfl
                | succ bound =>
                    unfold deleteLoop
                    rw [hnone]
              show (p'.deleteLoop name bound).delete name = none
              rw [hsame]
              exact hnone
          | inr hless =>
              exact ih (by omega)

/-- Deleting the last section of a type again and again leaves none. -/
theorem deleteLoop_last (p : UciPackage) (type : String) :
    p.deleteLoop { place := .last type } (p.deletable { place := .last type }) =
      { p with typed := Function.update p.typed type [] } := by
  have hloop : forall (bound : Nat) (p : UciPackage), (p.typed type).length = bound ->
      p.deleteLoop { place := .last type } bound =
        { p with typed := Function.update p.typed type [] } := by
    intro bound
    induction bound with
    | zero =>
        intro p hlength
        have hnil := List.length_eq_zero_iff.mp hlength
        show p = _
        rw [← hnil, Function.update_eq_self]
    | succ bound ih =>
        intro p hlength
        have hne : p.typed type ≠ [] := List.ne_nil_of_length_eq_add_one hlength
        have hfind : p.find (.last type) = some ((p.typed type).getLast hne) :=
          List.getLast?_eq_some_getLast hne
        unfold deleteLoop
        rw [delete_of_section rfl hfind]
        show (p.drop (.last type)).deleteLoop _ bound = _
        rw [ih _ (by simp [drop, hlength])]
        simp [drop]
  exact hloop _ p rfl

/-!
## Rewriting a list

A list option is deleted and built up again.
-/

/-- What an option holds after values were added to it. -/
def pushAll (held : Option UciValue) (values : List (Option String)) :
    Option UciValue :=
  values.foldl (fun held value =>
    match value with
    | none => held
    | some value => some (UciValue.push held value)) held

theorem run_addLists {args option : String}
    (hargs : uciName args = some { place, option := some option })
    (values : List (Option String)) (p : UciPackage) :
    p.run (values.map (UciCommand.addList args)) =
      p.edit (fun options =>
        Function.update options option (pushAll (options option) values)) place := by
  induction values generalizing p with
  | nil =>
      apply Eq.symm
      apply edit_eq_self_iff.mpr
      intro options _
      exact Function.update_eq_self option options
  | cons value rest ih =>
      rw [List.map_cons]
      show (p.apply _).run _ = _
      rw [ih (p.apply (.addList args value))]
      cases value with
      | none => rfl
      | some value =>
          have hstep : p.apply (.addList args (some value)) =
              p.edit (fun options => Function.update options option
                (some (UciValue.push (options option) value))) place := by
            simp [apply, hargs, push]
          rw [hstep, edit_edit]
          congr 1
          funext options
          rw [Function.update_self, Function.update_idem]
          rfl

theorem run_rewrite {args option : String}
    (hargs : uciName args = some { place, option := some option })
    (values : List (Option String)) (p : UciPackage) :
    p.run (.delete args :: values.map (UciCommand.addList args)) =
      p.edit (fun options =>
        Function.update options option (pushAll none values)) place := by
  show (p.apply (.delete args)).run _ = _
  rw [apply_delete hargs, run_addLists hargs, edit_edit]
  congr 1
  funext options
  rw [Function.update_self, Function.update_idem]

end

end UciPackage

/-!
## The packages of a store

What the recorded changes of a store leave of the packages there were at first.
-/

section

variable (base : String -> UciPackage) (store : StagingStore String UciCommand)
  (package : String)

def committedPackage : UciPackage :=
  (base package).run (store.committed package)

def stagedPackage : UciPackage :=
  (committedPackage base store package).run (store.staged package)

variable {base store package} {command : UciCommand}

theorem stagedPackage_apply (hnames : packageOf command.args = package) :
    stagedPackage base (store.apply command.op) package =
      (stagedPackage base store package).apply command := by
  subst hnames
  unfold stagedPackage committedPackage
  cases command with
  | commit args =>
      simp only [UciCommand.op, UciCommand.args, StagingStore.apply,
        Function.update_self, UciPackage.run_append]
      rfl
  | _ =>
      simp only [UciCommand.op, UciCommand.args, StagingStore.apply,
        Function.update_self, UciPackage.run_append]
      rfl

theorem stagedPackage_apply_of_ne (hnames : packageOf command.args ≠ package) :
    stagedPackage base (store.apply command.op) package =
      stagedPackage base store package := by
  have hne : package ≠ packageOf command.args := Ne.symm hnames
  unfold stagedPackage committedPackage
  cases command with
  | commit args =>
      have hargs : package ≠ packageOf args := hne
      simp [UciCommand.op, StagingStore.apply, Function.update_of_ne hargs]
  | _ =>
      simp [UciCommand.op, StagingStore.apply, Function.update_of_ne hne]

/-- A change that is not committed. -/
theorem committedPackage_apply (hstages : command.op.target.2 = false) :
    committedPackage base (store.apply command.op) package =
      committedPackage base store package := by
  cases command with
  | commit args => cases hstages
  | _ => rfl

theorem committedPackage_commit {args : String} (hargs : packageOf args = package) :
    committedPackage base (store.apply (UciCommand.commit args).op) package =
      stagedPackage base store package := by
  subst hargs
  unfold committedPackage stagedPackage
  simp [UciCommand.op, StagingStore.apply, UciPackage.run_append, committedPackage]

/-!
Commands that name one package.
-/

variable {commands : List UciCommand}

theorem stagedPackage_run
    (hnames : forall command, command ∈ commands -> packageOf command.args = package) :
    stagedPackage base (store.run (commands.map UciCommand.op)) package =
      (stagedPackage base store package).run commands := by
  induction commands generalizing store with
  | nil => rfl
  | cons command rest ih =>
      rw [List.forall_mem_cons] at hnames
      show stagedPackage base
        ((store.apply command.op).run (rest.map UciCommand.op)) package = _
      rw [ih hnames.2, stagedPackage_apply hnames.1]
      rfl

theorem stagedPackage_run_of_ne
    (hnames : forall command, command ∈ commands -> packageOf command.args ≠ package) :
    stagedPackage base (store.run (commands.map UciCommand.op)) package =
      stagedPackage base store package := by
  induction commands generalizing store with
  | nil => rfl
  | cons command rest ih =>
      rw [List.forall_mem_cons] at hnames
      show stagedPackage base
        ((store.apply command.op).run (rest.map UciCommand.op)) package = _
      rw [ih hnames.2, stagedPackage_apply_of_ne hnames.1]

theorem committedPackage_run
    (hstages : forall command, command ∈ commands -> command.op.target.2 = false) :
    committedPackage base (store.run (commands.map UciCommand.op)) package =
      committedPackage base store package := by
  induction commands generalizing store with
  | nil => rfl
  | cons command rest ih =>
      rw [List.forall_mem_cons] at hstages
      show committedPackage base
        ((store.apply command.op).run (rest.map UciCommand.op)) package = _
      rw [ih hstages.2, committedPackage_apply hstages.1]

end

end Utils
end Noc
