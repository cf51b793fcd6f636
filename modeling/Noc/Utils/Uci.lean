import Noc.Foundation.CString
import Noc.Foundation.Staging

/-!
# UCI commands

The commands of `utils/uci/app_uci.c` the daemon runs, with the text each hands
to the shell.  What they leave in the UCI store is not read back by anything
modelled, so a run of the daemon records the commands in order.  The record
tells what is staged: every command but a commit stages a change of the package
it names.
-/

namespace Noc
namespace Utils

open Foundation

inductive UciCommand where
  | add (args section_ : String)
  | set (args : String) (value : Option String)
  | delete (args : String)
  /-- A deletion repeated until UCI reports an error. -/
  | deleteAll (args : String)
  | addList (args : String) (list : Option String)
  | commit (args : String)
  deriving DecidableEq, Repr

/-- The command line; a NULL value is formatted. -/
def UciCommand.line : UciCommand -> String
  | add args section_ => "uci add " ++ args ++ " " ++ section_
  | set args value => "uci set " ++ args ++ "=" ++ formatted value
  | delete args => "uci delete " ++ args
  | deleteAll args => "uci delete " ++ args
  | addList args list => "uci add_list " ++ args ++ "=" ++ formatted list
  | commit args => "uci commit " ++ args

/-- The words the line is composed of. -/
def UciCommand.words : UciCommand -> List String
  | add args section_ => ["uci", "add", args, section_]
  | set args value => ["uci", "set", args ++ "=" ++ formatted value]
  | delete args => ["uci", "delete", args]
  | deleteAll args => ["uci", "delete", args]
  | addList args list => ["uci", "add_list", args ++ "=" ++ formatted list]
  | commit args => ["uci", "commit", args]

/-- The package of a name such as `network.lan.proto`. -/
def packageOf (args : String) : String :=
  String.ofList (args.toList.takeWhile fun c => c ≠ '.')

theorem packageOf_ofList (args : List Char) :
    packageOf (String.ofList args) =
      String.ofList (args.takeWhile fun c => c ≠ '.') := by
  unfold packageOf
  rw [String.toList_ofList]

namespace UciCommand

def args : UciCommand -> String
  | add args _ => args
  | set args _ => args
  | delete args => args
  | deleteAll args => args
  | addList args _ => args
  | commit args => args

def op (command : UciCommand) : StagingOp String UciCommand :=
  match command with
  | commit args => .commit (packageOf args)
  | _ => .stage (packageOf command.args) command

theorem target_op (command : UciCommand) :
    command.op.target.1 = packageOf command.args := by
  cases command <;> rfl

end UciCommand

end Utils
end Noc
