import Noc.Network.Dhcp.Apply
import Noc.Network.Iptables.Rules
import Noc.Network.LanWan
import Noc.Network.Route.Store
import Noc.Utils.Cmd

/-!
# Command lines of the network records

The text of the commands that a record is written into, each beside the words it
is composed of.  The fields go into the text without quotation marks, so the
shell finds the same words only where the fields hold nothing it reads itself.
-/

namespace Noc
namespace Network

open Foundation
open Foundation.Shell
open Utils

/-!
## Routes
-/

/-- `ip route add %s via %s dev %s`, and the same with `del`. -/
def composed (start : String) (route : KernelRoute) : String :=
  start ++ route.1 ++ " via " ++ route.2.1 ++ " dev " ++ route.2.2

namespace IpRouteCommand

def line : IpRouteCommand -> String
  | add route => composed "ip route add " route
  | del route => composed "ip route del " route

def words : IpRouteCommand -> List String
  | add route =>
      ["ip", "route", "add", route.1, "via", route.2.1, "dev", route.2.2]
  | del route =>
      ["ip", "route", "del", route.1, "via", route.2.1, "dev", route.2.2]

end IpRouteCommand

def ipRouteLine (helper : Execl) (command : IpRouteCommand) : ShellLine :=
  { helper, cmd := command.line, words := command.words }

/-- A route is added when it is created or updated, and deleted by the request
that deletes it or, with a time limit, by an update of it. -/
def routeLines (route : Route) : List ShellLine :=
  [ipRouteLine .nonTimeout (.add route.triple),
   ipRouteLine .timeout (.del route.triple),
   ipRouteLine .nonTimeout (.del route.triple)]

/-!
## Firewall profiles
-/

def Table.words : Table -> List String
  | .filter => []
  | .nat => ["-t", "nat"]
  | .mangle => ["-t", "mangle"]

def Chain.word : Chain -> String
  | .prerouting => "PREROUTING"
  | .input => "INPUT"
  | .forward => "FORWARD"
  | .output => "OUTPUT"
  | .postrouting => "POSTROUTING"

def FilterChain.word : FilterChain -> String
  | .input => "INPUT"
  | .forward => "FORWARD"
  | .output => "OUTPUT"

def Policy.word : Policy -> String
  | .accept => "ACCEPT"
  | .drop => "DROP"

def Rule.words (rule : Rule) : List String :=
  rule.flatMap fun part => [part.1, part.2]

def IptablesCommand.words : IptablesCommand -> List String
  | flush table => "iptables" :: table.words ++ ["-F"]
  | deleteChains table => "iptables" :: table.words ++ ["-X"]
  | policy chain target => ["iptables", "-P", chain.word, target.word]
  | append table chain rule =>
      "iptables" :: table.words ++ ["-A", chain.word] ++ Rule.words rule
  | insert chain position rule =>
      ["iptables", "-I", chain.word, toString position] ++ Rule.words rule

/-- A field that is there and not empty is appended behind its flag. -/
def optionalText (flag : String) (field : Option String) : String :=
  match field with
  | some value => if value = "" then "" else " " ++ flag ++ " " ++ value
  | none => ""

def openPortCmd (protocol portRange : String) (iptables : Iptable) : String :=
  "iptables -A INPUT -p " ++ protocol ++ " --dport " ++ portRange ++
    optionalText "-s" iptables.ipMask ++ optionalText "-i" iptables.interface ++
    " -j ACCEPT"

def openPortCommand (protocol portRange : String) (iptables : Iptable) :
    IptablesCommand :=
  .append .filter .input
    ([("-p", protocol), ("--dport", portRange)] ++
      optionalMatch "-s" iptables.ipMask ++
      optionalMatch "-i" iptables.interface ++ [("-j", "ACCEPT")])

/-- The command lines of the loop in `iptables_open_port_profiles`. -/
def openPortLines : List Iptable -> List ShellLine
  | [] => []
  | iptables :: rest =>
      if iptables.enable then
        match iptables.protocol, iptables.portRange with
        | some protocol, some portRange =>
            { helper := .nonTimeout
              cmd := openPortCmd protocol portRange iptables
              words := (openPortCommand protocol portRange iptables).words } ::
              openPortLines rest
        | _, _ => []
      else openPortLines rest

/-- The text has two blanks in front of `-i`. -/
def dmzCmd (iptables : Iptable) : String :=
  "iptables -t nat -A PREROUTING  -i " ++ wanInterface ++
    optionalText "-s" iptables.ipMask ++ " -j DNAT --to-destination " ++
    formatted iptables.dnatIp

def dmzLines (iptables : Iptable) : List ShellLine :=
  (iptablesDnatDmzProfilesSet iptables).map fun command =>
    { helper := .nonTimeout, cmd := dmzCmd iptables, words := command.words }

/-!
## UCI settings
-/

def uciLine (command : UciCommand) : ShellLine :=
  { helper := .timeout, cmd := command.line, words := command.words }

/-!
## Records
-/

/-- The records a request can bring whose fields go into a command. -/
inductive Record where
  | route (route : Route)
  /-- A forwarding profile, or a port profile of a Nova service. -/
  | portProfile (iptables : Iptable)
  | dmz (iptables : Iptable)
  | customHostname (customHostname : CustomHostname)
  | dhcpClient (client : DhcpInfo)
  | lan (lan : Lan)
  | wan (wan : Wan)

def Record.lines : Record -> List ShellLine
  | .route fields => routeLines fields
  | .portProfile fields => openPortLines [fields]
  | .dmz fields => dmzLines fields
  | .customHostname fields => [uciLine (customHostnameCommand fields)]
  | .dhcpClient fields => (staticClientCommands fields).map uciLine
  | .lan fields => (lanCommands fields).map uciLine
  | .wan fields =>
      [uciLine (.set "network.wan.proto" fields.proto),
       uciLine (.set "network.wan.ipaddr" fields.ipaddr)]

/-!
## Fields a shell leaves alone
-/

/-- A field that is a word of its own. -/
def StandsAlone (field : Option String) : Prop :=
  exists text, field = some text ∧ Word text

/-- A field that goes on with a word. -/
def StandsInside (field : Option String) : Prop :=
  exists text, field = some text ∧ forall c, c ∈ text.toList -> isPlain c = true

/-- A field that is left out when it is missing or empty. -/
def StandsOptional (field : Option String) : Prop :=
  forall text, field = some text -> text ≠ "" -> Word text

def Record.Plain : Record -> Prop
  | .route fields =>
      StandsAlone fields.ipMask ∧ StandsAlone fields.targetIp ∧
        StandsAlone fields.interface
  | .portProfile fields =>
      fields.enable = true -> fields.protocol ≠ none -> fields.portRange ≠ none ->
        StandsAlone fields.protocol ∧ StandsAlone fields.portRange ∧
          StandsOptional fields.ipMask ∧ StandsOptional fields.interface
  | .dmz fields =>
      fields.enable = true ->
        StandsOptional fields.ipMask ∧ StandsAlone fields.dnatIp
  | .customHostname fields =>
      StandsInside fields.domain ∧ StandsInside fields.ip
  | .dhcpClient fields =>
      StandsInside fields.hostName ∧ StandsInside fields.mac ∧
        StandsInside fields.ip
  | .lan fields =>
      ¬ (fields.bridgeApMode && appStrstr fields.proto (some "dhcp")) = true ->
        StandsInside fields.ipaddr ∧ StandsInside fields.netmask ∧
          StandsInside fields.proto
  | .wan fields => StandsInside fields.proto ∧ StandsInside fields.ipaddr

theorem standsAlone_iff (field : Option String) :
    StandsAlone field <-> Word (formatted field) := by
  cases field with
  | none =>
      have hnull : ¬ Word (formatted none) := by decide
      simp [StandsAlone, hnull]
  | some text => simp [StandsAlone]

theorem standsInside_iff (field : Option String) :
    StandsInside field <->
      forall c, c ∈ (formatted field).toList -> isPlain c = true := by
  cases field with
  | none =>
      have hnull :
          ¬ forall c, c ∈ (formatted none).toList -> isPlain c = true := by
        intro h
        have hopen : isPlain '(' = true := h '(' (by decide)
        cases hopen
      simp only [hnull, StandsInside, reduceCtorEq, false_and, exists_false]
  | some text => simp [StandsInside]

/-!
## Routes
-/

theorem toList_line (command : IpRouteCommand) :
    command.line.toList = unwords (command.words.map String.toList) := by
  cases command with
  | add route => simp [IpRouteCommand.line, composed, IpRouteCommand.words]
  | del route => simp [IpRouteCommand.line, composed, IpRouteCommand.words]

/-- Whether a route is added or deleted, the words are its three fields and
fixed ones. -/
theorem safe_ipRouteLine_iff (helper : Execl) {command : IpRouteCommand}
    {route : KernelRoute} (h : command = .add route ∨ command = .del route) :
    (ipRouteLine helper command).Safe <->
      Word route.1 ∧ Word route.2.1 ∧ Word route.2.2 := by
  have hwords : (forall word, word ∈ command.words -> Word word) <->
      Word route.1 ∧ Word route.2.1 ∧ Word route.2.2 := by
    have hfixed : Word "ip" ∧ Word "route" ∧ Word "add" ∧ Word "del" ∧
        Word "via" ∧ Word "dev" := by
      decide +kernel
    rcases h with rfl | rfl
    · simp [IpRouteCommand.words, hfixed]
    · simp [IpRouteCommand.words, hfixed]
  rw [← hwords]
  apply safe_iff_of_unwords (toList_line command)
  cases command <;> exact List.cons_ne_nil _ _

theorem safe_routeLines_iff (route : Route) :
    (forall line, line ∈ routeLines route -> line.Safe) <->
      (Record.route route).Plain := by
  simp only [routeLines, List.forall_mem_cons, List.not_mem_nil, false_implies,
    implies_true, and_true, safe_ipRouteLine_iff _ (Or.inl rfl),
    safe_ipRouteLine_iff _ (Or.inr rfl), and_self, Record.Plain,
    standsAlone_iff, Route.triple]

/-!
## Firewall profiles
-/

section

variable {flag protocol portRange : String} {field : Option String}
  {iptables : Iptable}

@[simp] theorem words_nil : Rule.words [] = [] := rfl

@[simp] theorem words_cons (part : String × String) (rest : Rule) :
    Rule.words (part :: rest) = part.1 :: part.2 :: Rule.words rest := rfl

@[simp] theorem words_append (front back : Rule) :
    Rule.words (front ++ back) = Rule.words front ++ Rule.words back :=
  List.flatMap_append

/-- A field is left out of the text and of the rule, or it is in both. -/
theorem toList_optionalText (flag : String) (field : Option String) :
    (optionalText flag field).toList =
      (Rule.words (optionalMatch flag field)).flatMap fun word =>
        ' ' :: word.toList := by
  cases field with
  | none => rfl
  | some value =>
      by_cases hempty : value = ""
      · simp [optionalText, optionalMatch, Rule.words, hempty]
      · simp [optionalText, optionalMatch, Rule.words, hempty]

theorem word_optionalMatch_iff (hflag : Word flag) :
    (forall word, word ∈ Rule.words (optionalMatch flag field) -> Word word) <->
      StandsOptional field := by
  cases field with
  | none => simp [optionalMatch, Rule.words, StandsOptional]
  | some value =>
      by_cases hempty : value = ""
      · simp [optionalMatch, Rule.words, StandsOptional, hempty]
      · simp [optionalMatch, Rule.words, StandsOptional, hempty, hflag]

theorem toList_openPortCmd (protocol portRange : String) (iptables : Iptable) :
    (openPortCmd protocol portRange iptables).toList =
      unwords ((openPortCommand protocol portRange iptables).words.map
        String.toList) := by
  unfold openPortCmd openPortCommand
  simp [IptablesCommand.words, Table.words, Chain.word, unwords_cons,
    toList_optionalText, List.flatMap_map]

theorem safe_openPort_iff :
    ShellLine.Safe
        { helper := .nonTimeout
          cmd := openPortCmd protocol portRange iptables
          words := (openPortCommand protocol portRange iptables).words } <->
      Word protocol ∧ Word portRange ∧ StandsOptional iptables.ipMask ∧
        StandsOptional iptables.interface := by
  have hfixed : Word "iptables" ∧ Word "-A" ∧ Word "INPUT" ∧ Word "-p" ∧
      Word "--dport" ∧ Word "-s" ∧ Word "-i" ∧ Word "-j" ∧ Word "ACCEPT" := by
    decide +kernel
  rcases hfixed with
    ⟨hname, happend, hchain, hprotocol, hport, hsource, hinput, hjump, htarget⟩
  rw [safe_iff_of_unwords (toList_openPortCmd protocol portRange iptables)
      (List.cons_ne_nil _ _),
    ← word_optionalMatch_iff hsource, ← word_optionalMatch_iff hinput]
  unfold openPortCommand
  simp only [IptablesCommand.words, Table.words, Chain.word, words_append,
    words_cons, words_nil, List.forall_mem_append, List.forall_mem_cons,
    List.not_mem_nil, false_implies, implies_true, hname, happend, hchain,
    hprotocol, hport, hjump, htarget, true_and, and_true, and_assoc]

theorem safe_openPortLines_iff (iptables : Iptable) :
    (forall line, line ∈ openPortLines [iptables] -> line.Safe) <->
      (Record.portProfile iptables).Plain := by
  by_cases henable : iptables.enable = true
  case neg => simp [openPortLines, Record.Plain, henable]
  cases hprotocol : iptables.protocol with
  | none => simp [openPortLines, Record.Plain, hprotocol]
  | some protocol =>
      cases hport : iptables.portRange with
      | none => simp [openPortLines, Record.Plain, hprotocol, hport]
      | some portRange =>
          simp [openPortLines, Record.Plain, henable, hprotocol, hport,
            safe_openPort_iff, standsAlone_iff]

/-- The words of the lines are those of the commands that are run. -/
theorem words_openPortLines (profiles : List Iptable) :
    (openPortLines profiles).map ShellLine.words =
      (iptablesOpenPortProfiles profiles).map IptablesCommand.words := by
  induction profiles with
  | nil => rfl
  | cons iptables rest ih =>
      by_cases henable : iptables.enable = true
      case neg => simpa [openPortLines, iptablesOpenPortProfiles, henable] using ih
      cases hprotocol : iptables.protocol with
      | none => simp [openPortLines, iptablesOpenPortProfiles, henable, hprotocol]
      | some protocol =>
          cases hport : iptables.portRange with
          | none =>
              simp [openPortLines, iptablesOpenPortProfiles, henable, hprotocol, hport]
          | some portRange =>
              simp [openPortLines, iptablesOpenPortProfiles, openPortCommand,
                henable, hprotocol, hport, ih]

/-- The lines of a list are lines of its profiles. -/
theorem mem_openPortLines {profiles : List Iptable} {line : ShellLine}
    (hmem : line ∈ openPortLines profiles) :
    exists iptables, iptables ∈ profiles ∧ line ∈ openPortLines [iptables] := by
  induction profiles with
  | nil => cases hmem
  | cons iptables rest ih =>
      have hrest (hlater : line ∈ openPortLines rest) :
          exists later, later ∈ iptables :: rest ∧ line ∈ openPortLines [later] := by
        rcases ih hlater with ⟨later, hin, hline⟩
        exact ⟨later, List.mem_cons_of_mem iptables hin, hline⟩
      by_cases henable : iptables.enable = true
      case neg => exact hrest (by simpa [openPortLines, henable] using hmem)
      cases hprotocol : iptables.protocol with
      | none => simp [openPortLines, henable, hprotocol] at hmem
      | some protocol =>
          cases hport : iptables.portRange with
          | none => simp [openPortLines, henable, hprotocol, hport] at hmem
          | some portRange =>
              simp only [openPortLines, henable, hprotocol, hport, if_true,
                List.mem_cons] at hmem
              rcases hmem with hline | hlater
              · refine ⟨iptables, List.mem_cons_self, ?_⟩
                simp [openPortLines, henable, hprotocol, hport, hline]
              · exact hrest hlater

theorem safe_openPortLines_of_plain {profiles : List Iptable}
    (h : forall iptables, iptables ∈ profiles -> (Record.portProfile iptables).Plain) :
    forall line, line ∈ openPortLines profiles -> line.Safe := by
  intro line hmem
  rcases mem_openPortLines hmem with ⟨iptables, hin, hline⟩
  exact (safe_openPortLines_iff iptables).mpr (h iptables hin) line hline

theorem toList_dmzCmd (iptables : Iptable) :
    (dmzCmd iptables).toList =
      unwords (["iptables", "-t", "nat", "-A", "PREROUTING"].map String.toList) ++
        ' ' :: ' ' :: unwords
          (("-i" :: wanInterface ::
            (Rule.words (optionalMatch "-s" iptables.ipMask) ++
              ["-j", "DNAT", "--to-destination", formatted iptables.dnatIp])).map
              String.toList) := by
  unfold dmzCmd wanInterface
  simp [unwords_cons, toList_optionalText, List.flatMap_map]

theorem safe_dmzLines_iff (iptables : Iptable) :
    (forall line, line ∈ dmzLines iptables -> line.Safe) <->
      (Record.dmz iptables).Plain := by
  have hfront : forall word,
      word ∈ ["iptables", "-t", "nat", "-A", "PREROUTING"] -> Word word := by
    decide +kernel
  have hfixed : Word "-i" ∧ Word wanInterface ∧ Word "-s" ∧ Word "-j" ∧
      Word "DNAT" ∧ Word "--to-destination" := by
    decide +kernel
  rcases hfixed with ⟨hinput, hwan, hsource, hjump, htarget, hdestination⟩
  by_cases henable : iptables.enable = true
  case neg => simp [dmzLines, iptablesDnatDmzProfilesSet, Record.Plain, henable]
  have hsafe := @safe_iff_of_unwords_blank .nonTimeout _ _ _
    (toList_dmzCmd iptables) hfront (List.cons_ne_nil _ _) (List.cons_ne_nil _ _)
  simp only [List.forall_mem_append, List.forall_mem_cons, List.not_mem_nil,
    false_implies, implies_true, hinput, hwan, hjump, htarget, hdestination,
    true_and, and_true, word_optionalMatch_iff hsource, ← standsAlone_iff] at hsafe
  simp only [dmzLines, iptablesDnatDmzProfilesSet, henable, if_true,
    List.map_cons, List.map_nil, Record.Plain, true_implies, ← hsafe]
  simp [IptablesCommand.words, Table.words, Chain.word]

end

/-!
## UCI settings
-/

section

variable {args : String} {value : Option String}

theorem toList_uciLine (command : UciCommand) :
    command.line.toList = unwords (command.words.map String.toList) := by
  unfold UciCommand.line UciCommand.words
  cases command <;> simp

theorem safe_uciLine_iff (command : UciCommand) :
    (uciLine command).Safe <-> forall word, word ∈ command.words -> Word word := by
  apply safe_iff_of_unwords (toList_uciLine command)
  cases command <;> exact List.cons_ne_nil _ _

/-- A value goes on with the word of the setting it is assigned to. -/
theorem word_assignment_iff (h : Word (args ++ "=")) :
    Word (args ++ "=" ++ formatted value) <-> StandsInside value := by
  unfold Word at h ⊢
  rw [String.toList_append, plainWord_append_iff h, standsInside_iff]

theorem word_uci : Word "uci" ∧ Word "set" ∧ Word "add_list" ∧ Word "add" := by
  decide +kernel

theorem safe_uciLine_set_iff (h : Word (args ++ "=")) :
    (uciLine (.set args value)).Safe <-> StandsInside value := by
  rw [safe_uciLine_iff]
  simp [UciCommand.words, word_uci, word_assignment_iff h]

theorem safe_uciLine_addList_iff (h : Word (args ++ "=")) :
    (uciLine (.addList args value)).Safe <-> StandsInside value := by
  rw [safe_uciLine_iff]
  simp [UciCommand.words, word_uci, word_assignment_iff h]

theorem safe_customHostname_iff (customHostname : CustomHostname) :
    (uciLine (customHostnameCommand customHostname)).Safe <->
      (Record.customHostname customHostname).Plain := by
  have hargs : Word ("dhcp.@dnsmasq[0].address" ++ "=") := by decide +kernel
  have hslash : isPlain '/' = true := by decide
  simp only [customHostnameCommand, Record.Plain]
  rw [safe_uciLine_addList_iff hargs, standsInside_iff, standsInside_iff,
    standsInside_iff, formatted_some]
  simp [or_imp, forall_and, hslash]

theorem safe_dhcpClient_iff (client : DhcpInfo) :
    (forall line, line ∈ (staticClientCommands client).map uciLine -> line.Safe) <->
      (Record.dhcpClient client).Plain := by
  have hargs : Word ("dhcp.@host[-1].name" ++ "=") ∧
      Word ("dhcp.@host[-1].mac" ++ "=") ∧ Word ("dhcp.@host[-1].ip" ++ "=") := by
    decide +kernel
  have hadd : (uciLine (.add "dhcp" "host")).Safe := by decide +kernel
  have hdns : (uciLine (.set "dhcp.@host[-1].dns" (some "1"))).Safe := by
    decide +kernel
  simp only [staticClientCommands, List.map_cons, List.map_nil,
    List.forall_mem_cons, List.not_mem_nil, false_implies, implies_true, hadd,
    hdns, safe_uciLine_set_iff hargs.1, safe_uciLine_set_iff hargs.2.1,
    safe_uciLine_set_iff hargs.2.2, true_and, and_true, Record.Plain]

theorem safe_lan_iff (lan : Lan) :
    (forall line, line ∈ (lanCommands lan).map uciLine -> line.Safe) <->
      (Record.lan lan).Plain := by
  have hargs : Word ("network.lan.ipaddr" ++ "=") ∧
      Word ("network.lan.netmask" ++ "=") ∧ Word ("network.lan.proto" ++ "=") := by
    decide +kernel
  have hdhcp : (uciLine (.set "network.lan.proto" (some "dhcp"))).Safe := by
    decide +kernel
  by_cases hbridge : (lan.bridgeApMode && appStrstr lan.proto (some "dhcp")) = true
  · simp [lanCommands, Record.Plain, hbridge, hdhcp]
  · simp only [lanCommands, Record.Plain, hbridge, Bool.false_eq_true, if_false,
      not_false_eq_true,
      true_implies, List.map_cons, List.map_nil, List.forall_mem_cons,
      List.not_mem_nil, false_implies, implies_true, and_true,
      safe_uciLine_set_iff hargs.1, safe_uciLine_set_iff hargs.2.1,
      safe_uciLine_set_iff hargs.2.2]

theorem safe_wan_iff (wan : Wan) :
    (forall line, line ∈ (Record.wan wan).lines -> line.Safe) <->
      (Record.wan wan).Plain := by
  have hargs : Word ("network.wan.proto" ++ "=") ∧
      Word ("network.wan.ipaddr" ++ "=") := by
    decide +kernel
  simp only [Record.lines, List.forall_mem_cons, List.not_mem_nil, false_implies,
    implies_true, and_true, safe_uciLine_set_iff hargs.1,
    safe_uciLine_set_iff hargs.2, Record.Plain]

end

/-!
## Every record
-/

/-- The commands a record is written into are read as the words they are
composed of exactly when its fields are plain. -/
theorem safe_lines_iff (record : Record) :
    (forall line, line ∈ record.lines -> line.Safe) <-> record.Plain := by
  cases record with
  | route route => exact safe_routeLines_iff route
  | portProfile iptables => exact safe_openPortLines_iff iptables
  | dmz iptables => exact safe_dmzLines_iff iptables
  | customHostname customHostname =>
      rw [← safe_customHostname_iff]
      simp [Record.lines]
  | dhcpClient client => exact safe_dhcpClient_iff client
  | lan lan => exact safe_lan_iff lan
  | wan wan => exact safe_wan_iff wan

/-- A destination that ends its command and starts another. -/
theorem not_safe_lines_of_route :
    ¬ forall record : Record, forall line, line ∈ record.lines -> line.Safe := by
  intro h
  have hroute := h
    (.route
      { ipMask := some "10.0.0.0/8; reboot"
        targetIp := some "192.168.1.1"
        interface := some "eth0" })
  revert hroute
  decide +kernel

end Network
end Noc
