import Mathlib.Tactic.Common

/-!
# The kernel's firewall

The part of the netfilter tables the daemon's `iptables` commands work on.
Every command is taken to succeed.  The daemon sets policies in the filter
table only, so only those are part of the state.
-/

namespace Noc
namespace Network

inductive Table where
  | filter
  | nat
  | mangle
  deriving DecidableEq, Repr

inductive Chain where
  | prerouting
  | input
  | forward
  | output
  | postrouting
  deriving DecidableEq, Repr

/-- The chains of the filter table, the ones that get a policy. -/
inductive FilterChain where
  | input
  | forward
  | output
  deriving DecidableEq, Repr

inductive Policy where
  | accept
  | drop
  deriving DecidableEq, Repr

/-- The options of a rule in the order they are given: flag and argument. -/
abbrev Rule := List (String × String)

@[ext] structure Firewall where
  policy : FilterChain -> Policy
  rules : Table -> Chain -> List Rule
  userChains : Table -> List (String × List Rule)

/-!
## Commands
-/

inductive IptablesCommand where
  | flush (table : Table)
  | deleteChains (table : Table)
  | policy (chain : FilterChain) (target : Policy)
  | append (table : Table) (chain : Chain) (rule : Rule)
  | insert (chain : Chain) (position : Nat) (rule : Rule)
  deriving DecidableEq, Repr

namespace Firewall

def setRules (fw : Firewall) (table : Table) (chain : Chain)
    (rules : List Rule) : Firewall :=
  { fw with
    rules := fun t c =>
      if t = table ∧ c = chain then rules else fw.rules t c }

/-- The effect of one command: `-F`, `-X`, `-P`, `-A` and `-I`. -/
def apply (fw : Firewall) : IptablesCommand -> Firewall
  | .flush table =>
      { fw with
        rules := fun t c => if t = table then [] else fw.rules t c
        userChains := fun t =>
          if t = table then (fw.userChains t).map fun chain => (chain.1, [])
          else fw.userChains t }
  | .deleteChains table =>
      { fw with
        userChains := fun t => if t = table then [] else fw.userChains t }
  | .policy chain target =>
      { fw with
        policy := fun c => if c = chain then target else fw.policy c }
  | .append table chain rule =>
      fw.setRules table chain (fw.rules table chain ++ [rule])
  | .insert chain position rule =>
      fw.setRules .filter chain
        ((fw.rules .filter chain).take (position - 1) ++
          rule :: (fw.rules .filter chain).drop (position - 1))

def run (fw : Firewall) (commands : List IptablesCommand) : Firewall :=
  commands.foldl apply fw

@[simp] theorem run_nil (fw : Firewall) : fw.run [] = fw := rfl

@[simp] theorem run_cons (fw : Firewall) (command : IptablesCommand)
    (rest : List IptablesCommand) :
    fw.run (command :: rest) = (fw.apply command).run rest := rfl

theorem run_append (fw : Firewall) (first second : List IptablesCommand) :
    fw.run (first ++ second) = (fw.run first).run second :=
  List.foldl_append

end Firewall
end Network
end Noc
