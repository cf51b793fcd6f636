import Noc.Foundation.Shell

/-!
# Running commands

The two helpers of `utils/cmd/cmd.c` that hand a command to `popen`, and what it
means for the shell to read a command as the words it was composed of.
-/

namespace Noc
namespace Utils

open Foundation
open Foundation.Shell

inductive Execl where
  | timeout
  | nonTimeout
  deriving DecidableEq, Repr

/-- The string handed to `popen`.  `execl_non_timeout` appends the redirection
to a copy as well, but hands over the command it was given. -/
def Execl.handed : Execl -> String -> String
  | timeout, cmd => cmd ++ " 2>&1"
  | nonTimeout, cmd => cmd

/-- The redirection that is handed over with a command. -/
def Execl.redirections : Execl -> List Redirection
  | timeout => [{ number := some ['2'], operator := ['>', '&'], file := ['1'] }]
  | nonTimeout => []

/-- A command line together with the words it is meant to be. -/
structure ShellLine where
  helper : Execl
  cmd : String
  words : List String
  deriving DecidableEq, Repr

namespace ShellLine

/-- The shell reads one simple command of the words meant, redirected by the
helper only. -/
def Safe (line : ShellLine) : Prop :=
  parse (line.helper.handed line.cmd).toList =
    some
      { words := line.words.map String.toList
        redirections := line.helper.redirections }

instance (line : ShellLine) : Decidable line.Safe :=
  inferInstanceAs (Decidable (_ = _))

end ShellLine

/-!
## Words of a line
-/

def Word (text : String) : Prop :=
  PlainWord text.toList

instance (text : String) : Decidable (Word text) :=
  inferInstanceAs (Decidable (PlainWord _))

def Execl.tail : Execl -> List Char
  | timeout => [' ', '2', '>', '&', '1']
  | nonTimeout => []

theorem toList_handed (helper : Execl) (cmd : String) :
    (helper.handed cmd).toList = cmd.toList ++ helper.tail := by
  cases helper with
  | timeout => simp [Execl.handed, Execl.tail]
  | nonTimeout => simp [Execl.handed, Execl.tail]

theorem trailing_tail (helper : Execl) :
    Trailing helper.tail helper.redirections := by
  cases helper with
  | timeout =>
      exact
        { lexed := fun _ _ =>
            ⟨[.io ['2'], .operator ['>', '&'], .word ['1']], rfl, rfl⟩
          weight := rfl }
  | nonTimeout => exact trailing_nil

section

variable {helper : Execl} {cmd : String} {front words : List String}

/-- A command composed with single blanks. -/
theorem safe_iff_of_unwords
    (hcmd : cmd.toList = unwords (words.map String.toList)) (hne : words ≠ []) :
    ShellLine.Safe { helper, cmd, words } <->
      forall word, word ∈ words -> Word word := by
  unfold ShellLine.Safe
  rw [toList_handed, hcmd, parse_unwords_iff (trailing_tail helper) (by simpa)]
  simp [Word]

/-- A command composed with a second blank after its first words. -/
theorem safe_iff_of_unwords_blank
    (hcmd : cmd.toList =
      unwords (front.map String.toList) ++
        ' ' :: ' ' :: unwords (words.map String.toList))
    (hfront : forall word, word ∈ front -> Word word)
    (hfrontNe : front ≠ []) (hne : words ≠ []) :
    ShellLine.Safe { helper, cmd, words := front ++ words } <->
      forall word, word ∈ words -> Word word := by
  have hplain : forall text, text ∈ front.map String.toList -> PlainWord text := by
    intro text hmem
    rcases List.mem_map.mp hmem with ⟨word, hword, rfl⟩
    exact hfront word hword
  unfold ShellLine.Safe
  rw [toList_handed, hcmd, List.append_assoc, List.cons_append,
    List.cons_append, List.map_append,
    parse_front_unwords_iff (trailing_tail helper) hplain (by simpa) (by simpa)]
  simp [Word]

end

end Utils
end Noc
