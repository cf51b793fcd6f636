import Noc.Utils.Cmd
import Noc.Utils.Uci

/-!
# UCI lines in the shell

A value goes into its command without quotation marks, so it is the shell that
decides what UCI gets.  The line may be one command that assigns another value, it
may be refused, or it may run something else.
-/

namespace Noc
namespace Utils

open Foundation
open Foundation.Shell

/-- What becomes of a line that assigns a value. -/
inductive AssignmentReading where
  | gets (value : String)
  /-- An error of syntax, or words that UCI does not take. -/
  | refused
  | strays
  deriving DecidableEq, Repr

/-- UCI takes one assignment to the name. -/
def readAssignment (name line : String) : AssignmentReading :=
  match Shell.parse (Execl.timeout.handed line).toList with
  | some command =>
      if command.redirections ≠ Execl.timeout.redirections then .strays
      else
        match command.words with
        | [_, _, word] => .gets (String.ofList (word.drop (name.length + 1)))
        | _ => .refused
  | none => if refuses line.toList then .refused else .strays

namespace UciCommand

/-- The command that UCI gets. -/
def handed (command : UciCommand) : Option UciCommand :=
  match command with
  | set args _ =>
      match readAssignment args command.line with
      | .gets value => some (set args (some value))
      | _ => none
  | addList args _ =>
      match readAssignment args command.line with
      | .gets value => some (addList args (some value))
      | _ => none
  | _ => some command

/-- The line runs something else, with or without it. -/
def strays (command : UciCommand) : Bool :=
  match command with
  | set args _ => readAssignment args command.line = .strays
  | addList args _ => readAssignment args command.line = .strays
  | _ => false

/-- What UCI gets is about the same name. -/
theorem handed_cases {command received : UciCommand}
    (h : command.handed = some received) :
    received.args = command.args ∧ received.op.target.2 = command.op.target.2 := by
  cases command with
  | set args value =>
      unfold handed at h
      dsimp only at h
      split at h <;> cases h
      exact ⟨rfl, rfl⟩
  | addList args list =>
      unfold handed at h
      dsimp only at h
      split at h <;> cases h
      exact ⟨rfl, rfl⟩
  | _ =>
      cases h
      exact ⟨rfl, rfl⟩

end UciCommand

section

variable {name verb value line : String}

/-- An assignment that is read as it is composed. -/
theorem readAssignment_of_safe
    (h : ShellLine.Safe
      { helper := .timeout, cmd := line, words := ["uci", verb, name ++ "=" ++ value] }) :
    readAssignment name line = .gets value := by
  have hword : (name ++ "=" ++ value).toList.drop (name.length + 1) = value.toList := by
    have hname : (name ++ "=").toList.length = name.length + 1 := by
      rw [String.length_toList, String.length_append]
      rfl
    rw [String.toList_append, ← hname, List.drop_left]
  have hparse : Shell.parse (Execl.timeout.handed line).toList = some _ := h
  unfold readAssignment
  rw [hparse]
  simp only [ne_eq, not_true_eq_false, if_false, List.map_cons, List.map_nil, hword,
    String.ofList_toList]

/-- The parentheses of a formatted NULL. -/
example : readAssignment "network.wan.ipaddr"
    (UciCommand.set "network.wan.ipaddr" none).line = .refused := by
  decide +kernel

end

end Utils
end Noc
