import Noc.Foundation.PacketFilter
import Noc.Network.Iptables.Agreement
import Noc.Network.Iptables.Ports

/-!
# What the firewall does with packets

The way of a packet that opens a connection through the installed chains.  What
the tests of the rules say of it, and what becomes of its addresses, is up to the
kernel.
-/

namespace Noc
namespace Network

open Foundation
open Foundation.Exec
open Foundation.PacketFilter

/-!
## The kernel
-/

/-- The kernel's part: `test` is given the flag of an option and its argument. -/
structure Netfilter (π : Type) where
  test : String -> String -> π -> Bool
  redirected : String -> π -> π
  masqueraded : π -> π
  isLocal : π -> Bool

inductive Target where
  | accept
  | drop
  | dnat (destination : String)
  | masquerade
  deriving DecidableEq, Repr

def Policy.target : Policy -> Target
  | accept => .accept
  | drop => .drop

def FilterChain.chain : FilterChain -> Chain
  | input => .input
  | forward => .forward
  | output => .output

/-- The options that test nothing. -/
def untesting : List String :=
  ["-m", "-j", "--to-destination"]

def ruleTests (rule : Rule) : List (String × String) :=
  rule.filter fun option => !untesting.contains option.1

def ruleTarget (rule : Rule) : Option Target :=
  (rule.lookup "-j").bind fun jump =>
    if jump = "ACCEPT" then some .accept
    else if jump = "DROP" then some .drop
    else if jump = "MASQUERADE" then some .masquerade
    else if jump = "DNAT" then (rule.lookup "--to-destination").map .dnat
    else none

section

variable {π : Type}

namespace Netfilter

def allTests (net : Netfilter π) (tests : List (String × String)) (packet : π) : Bool :=
  tests.all fun option => net.test option.1 option.2 packet

def reading (net : Netfilter π) : Reading Rule π Target where
  holds := fun rule packet => net.allTests (ruleTests rule) packet
  target := ruleTarget

def accepts (net : Netfilter π) (fw : Firewall) (chain : FilterChain) (packet : π) :
    Bool :=
  outcome net.reading (fw.rules .filter chain.chain) (fw.policy chain).target packet
    = .accept

def prerouted (net : Netfilter π) (fw : Firewall) (packet : π) : π :=
  match verdict net.reading (fw.rules .nat .prerouting) packet with
  | some (.dnat destination) => net.redirected destination packet
  | _ => packet

def postrouted (net : Netfilter π) (fw : Firewall) (packet : π) : π :=
  match verdict net.reading (fw.rules .nat .postrouting) packet with
  | some .masquerade => net.masqueraded packet
  | _ => packet

end Netfilter

inductive Fate (π : Type) where
  | delivered (packet : π)
  | forwarded (packet : π)
  | dropped
  deriving DecidableEq

/-- The way of a packet that arrives. -/
def Netfilter.fate (net : Netfilter π) (fw : Firewall) (packet : π) : Fate π :=
  let arrived := net.prerouted fw packet
  if net.isLocal arrived then
    if net.accepts fw .input arrived then .delivered arrived else .dropped
  else if net.accepts fw .forward arrived then .forwarded (net.postrouted fw arrived)
  else .dropped

/-!
## What the files allow
-/

/-- What is let in whatever the files hold. -/
def basicServices : List (List (String × String)) :=
  [[("-i", "lo")],
   [("-p", "icmp"), ("--icmp-type", "echo-request")],
   [("-p", "udp"), ("--dport", "67")],
   [("-p", "udp"), ("--dport", "53")],
   [("-p", "udp"), ("--dport", "5353")],
   [("-p", "tcp"), ("--dport", "53")],
   [("--ctstate", "ESTABLISHED,RELATED")],
   [("-p", "icmp")]]

/-- A field that is not there, or empty, tests nothing. -/
def Netfilter.Matches (net : Netfilter π) (flag : String) (field : Option String)
    (packet : π) : Prop :=
  forall value, field = some value -> value ≠ "" -> net.test flag value packet = true

/-- An enabled profile lets the packet in. -/
structure Netfilter.Opens (net : Netfilter π) (profile : Iptable) (packet : π) :
    Prop where
  enable : profile.enable = true
  protocol : exists value, profile.protocol = some value ∧
    net.test "-p" value packet = true
  ports : exists value, profile.portRange = some value ∧
    net.test "--dport" value packet = true
  source : net.Matches "-s" profile.ipMask packet
  interface : net.Matches "-i" profile.interface packet

/-- A packet is let in as a basic service or by a profile of a list that the loop
over the list gets to. -/
def Netfilter.Admitted (net : Netfilter π) (lists : List (List Iptable)) (packet : π) :
    Prop :=
  (exists tests, tests ∈ basicServices ∧ net.allTests tests packet = true) ∨
    exists profiles profile, profiles ∈ lists ∧ profile ∈ passed profiles ∧
      net.Opens profile packet

/-- The packet behind the DMZ: everything that comes in from outside. -/
def Netfilter.behindDmz (net : Netfilter π) (dmz : Iptable) (packet : π) : π :=
  if dmz.enable && net.allTests
      (("-i", wanInterface) :: optionalMatch "-s" dmz.ipMask) packet then
    net.redirected (formatted dmz.dnatIp) packet
  else packet

/-!
## Rules that open ports
-/

variable {net : Netfilter π} {packet : π} {profile : Iptable} {rule : Rule}

theorem allTests_append (tests later : List (String × String)) :
    net.allTests (tests ++ later) packet =
      (net.allTests tests packet && net.allTests later packet) :=
  List.all_append

/-- An optional match is none, or the one of a value. -/
theorem optionalMatch_cases (flag : String) (field : Option String) :
    (optionalMatch flag field = [] ∧
        forall value, field = some value -> value = "") ∨
      exists value, optionalMatch flag field = [(flag, value)] ∧
        field = some value ∧ value ≠ "" := by
  cases field with
  | none => exact Or.inl ⟨rfl, fun _ hvalue => by cases hvalue⟩
  | some value =>
      by_cases hempty : value = ""
      · refine Or.inl ⟨if_pos hempty, fun other hother => ?_⟩
        cases hother
        exact hempty
      · exact Or.inr ⟨value, if_neg hempty, rfl, hempty⟩

theorem allTests_optionalMatch_iff {flag : String} {field : Option String} :
    net.allTests (optionalMatch flag field) packet = true <->
      net.Matches flag field packet := by
  unfold Netfilter.Matches Netfilter.allTests
  rcases optionalMatch_cases flag field with ⟨hnone, hempty⟩ | ⟨value, hone, rfl, hne⟩
  · rw [hnone]
    exact iff_of_true rfl fun value hvalue hne => absurd (hempty value hvalue) hne
  · rw [hone]
    simp [hne]

theorem ruleTests_optionalMatch {flag : String} (h : flag ∉ untesting)
    (field : Option String) :
    ruleTests (optionalMatch flag field) = optionalMatch flag field := by
  rcases optionalMatch_cases flag field with ⟨hnone, _⟩ | ⟨value, hone, _⟩
  · rw [hnone]
    rfl
  · rw [hone]
    simp [ruleTests, h]

theorem lookup_optionalMatch {flag other : String} (h : other ≠ flag)
    (field : Option String) :
    (optionalMatch flag field).lookup other = none := by
  rcases optionalMatch_cases flag field with ⟨hnone, _⟩ | ⟨value, hone, _⟩
  · rw [hnone]
    rfl
  · rw [hone, List.lookup_cons, beq_false_of_ne h]
    rfl

theorem acceptRule_eq (h : acceptRule profile = some rule) :
    profile.enable = true ∧ exists protocol ports,
      profile.protocol = some protocol ∧ profile.portRange = some ports ∧
        rule = [("-p", protocol), ("--dport", ports)] ++
          optionalMatch "-s" profile.ipMask ++
          optionalMatch "-i" profile.interface ++ [("-j", "ACCEPT")] := by
  unfold acceptRule at h
  cases henable : profile.enable with
  | false =>
      rw [henable] at h
      cases h
  | true =>
      rw [henable, if_pos rfl] at h
      rcases Option.bind_eq_some_iff.mp h with ⟨protocol, hprotocol, hports⟩
      rcases Option.map_eq_some_iff.mp hports with ⟨ports, hportRange, heq⟩
      exact ⟨rfl, protocol, ports, hprotocol, hportRange, heq.symm⟩

theorem ruleTarget_acceptRule (h : acceptRule profile = some rule) :
    ruleTarget rule = some .accept := by
  rcases acceptRule_eq h with ⟨_, protocol, ports, _, _, rfl⟩
  have hjump : ([("-p", protocol), ("--dport", ports)] ++
      optionalMatch "-s" profile.ipMask ++ optionalMatch "-i" profile.interface ++
      [("-j", "ACCEPT")] : Rule).lookup "-j" = some "ACCEPT" := by
    rw [List.lookup_append, List.lookup_append, List.lookup_append,
      lookup_optionalMatch (by decide), lookup_optionalMatch (by decide)]
    rfl
  unfold ruleTarget
  rw [hjump]
  rfl

theorem ruleTests_acceptRule (h : acceptRule profile = some rule) :
    exists protocol ports,
      profile.protocol = some protocol ∧ profile.portRange = some ports ∧
        ruleTests rule = [("-p", protocol), ("--dport", ports)] ++
          optionalMatch "-s" profile.ipMask ++
          optionalMatch "-i" profile.interface := by
  rcases acceptRule_eq h with ⟨_, protocol, ports, hprotocol, hports, rfl⟩
  refine ⟨protocol, ports, hprotocol, hports, ?_⟩
  have hsource : ruleTests (optionalMatch "-s" profile.ipMask) = _ :=
    ruleTests_optionalMatch (by decide) _
  have hinterface : ruleTests (optionalMatch "-i" profile.interface) = _ :=
    ruleTests_optionalMatch (by decide) _
  unfold ruleTests at hsource hinterface ⊢
  rw [List.filter_append, List.filter_append, List.filter_append, hsource, hinterface]
  exact List.append_nil _

theorem holds_acceptRule_iff (h : acceptRule profile = some rule) :
    net.reading.holds rule packet = true <-> net.Opens profile packet := by
  rcases ruleTests_acceptRule h with ⟨protocol, ports, hprotocol, hports, htests⟩
  have henable := (acceptRule_eq h).1
  show net.allTests (ruleTests rule) packet = true <-> _
  rw [htests, allTests_append, allTests_append, Bool.and_eq_true, Bool.and_eq_true,
    allTests_optionalMatch_iff, allTests_optionalMatch_iff]
  constructor
  · rintro ⟨⟨hfixed, hsource⟩, hinterface⟩
    have hboth : net.test "-p" protocol packet = true ∧
        net.test "--dport" ports packet = true := by
      simpa [Netfilter.allTests] using hfixed
    exact
      { enable := henable
        protocol := ⟨protocol, hprotocol, hboth.1⟩
        ports := ⟨ports, hports, hboth.2⟩
        source := hsource
        interface := hinterface }
  · intro hopens
    rcases hopens.protocol with ⟨_, hsame, hprotocolTest⟩
    rcases hopens.ports with ⟨_, hsame', hportsTest⟩
    cases hprotocol.symm.trans hsame
    cases hports.symm.trans hsame'
    refine ⟨⟨?_, hopens.source⟩, hopens.interface⟩
    simp [Netfilter.allTests, hprotocolTest, hportsTest]

theorem exists_acceptRule (h : net.Opens profile packet) :
    exists rule, acceptRule profile = some rule := by
  rcases h.protocol with ⟨protocol, hprotocol, _⟩
  rcases h.ports with ⟨ports, hports, _⟩
  unfold acceptRule
  rw [if_pos h.enable, hprotocol, hports]
  exact ⟨_, rfl⟩

/-!
## The INPUT chain
-/

variable {fw : Firewall} {dmz : Iptable} {forwarding : List Iptable}
  {nova : List (List Iptable)} {commands : List IptablesCommand}

/-- The rules that the default setting puts into the chain. -/
def defaultInput : List Rule :=
  (Firewall.accepting.run iptablesDefaultSettingList).rules .filter .input

theorem map_defaultInput : defaultInput.map ruleTests = basicServices := by
  decide +kernel

theorem ruleTarget_defaultInput :
    forall rule, rule ∈ defaultInput -> ruleTarget rule = some .accept := by
  decide +kernel

def openedRules (profiles : List Iptable) : List Rule :=
  (passed profiles).filterMap acceptRule

theorem input_run_open (fw : Firewall) (profiles : List Iptable) :
    (fw.run (iptablesOpenPortProfiles profiles)).rules .filter .input =
      fw.rules .filter .input ++ openedRules profiles := by
  rw [rules_run_of_inputRules fun _ => inputRule_of_open, openPortProfiles_eq]
  unfold acceptCommands openedRules
  rw [List.filterMap_map]
  congr 1
  exact List.filterMap_some

theorem input_run_openAll (fw : Firewall) (lists : List (List Iptable)) :
    (fw.run (lists.map iptablesOpenPortProfiles).flatten).rules .filter .input =
      fw.rules .filter .input ++ lists.flatMap openedRules := by
  induction lists generalizing fw with
  | nil => simp
  | cons profiles rest ih =>
      rw [List.map_cons, List.flatten_cons, Firewall.run_append, ih, input_run_open,
        List.flatMap_cons, List.append_assoc]

theorem input_run_dmz (fw : Firewall) (dmz : Iptable) :
    (fw.run (iptablesDnatDmzProfilesSet dmz)).rules .filter .input =
      fw.rules .filter .input := by
  unfold iptablesDnatDmzProfilesSet
  split <;> rfl

/-- The default setting leaves the same whatever was installed. -/
theorem run_defaultSetting (fw : Firewall) :
    fw.run iptablesDefaultSettingList =
      Firewall.accepting.run iptablesDefaultSettingList := by
  rw [Firewall.run_iptablesDefaultSettingList fw,
    Firewall.run_iptablesDefaultSettingList Firewall.accepting]

/-- The chain that a refresh leaves. -/
theorem input_run_refreshCommands :
    (fw.run (refreshCommands dmz forwarding nova)).rules .filter .input =
      defaultInput ++ (forwarding :: nova).flatMap openedRules := by
  have hrestrict : forall fw : Firewall,
      (fw.run iptableRestrictBasic).rules .filter .input = fw.rules .filter .input :=
    fun _ => rfl
  unfold refreshCommands
  rw [Firewall.run_append, Firewall.run_append, Firewall.run_append,
    Firewall.run_append, hrestrict, input_run_openAll, input_run_open, input_run_dmz,
    run_defaultSetting, List.flatMap_cons, List.append_assoc]
  rfl

theorem ruleTarget_openedRules {lists : List (List Iptable)}
    (h : rule ∈ lists.flatMap openedRules) : ruleTarget rule = some .accept := by
  rcases List.mem_flatMap.mp h with ⟨profiles, _, hrule⟩
  rcases List.mem_filterMap.mp hrule with ⟨profile, _, haccept⟩
  exact ruleTarget_acceptRule haccept

theorem exists_holds_defaultInput_iff :
    (exists rule, rule ∈ defaultInput ∧ net.reading.holds rule packet = true) <->
      exists tests, tests ∈ basicServices ∧ net.allTests tests packet = true := by
  rw [← map_defaultInput]
  constructor
  · rintro ⟨rule, hmem, hholds⟩
    exact ⟨ruleTests rule, List.mem_map_of_mem hmem, hholds⟩
  · rintro ⟨tests, hmem, htests⟩
    rcases List.mem_map.mp hmem with ⟨rule, hrule, rfl⟩
    exact ⟨rule, hrule, htests⟩

theorem exists_holds_openedRules_iff {lists : List (List Iptable)} :
    (exists rule, rule ∈ lists.flatMap openedRules ∧
        net.reading.holds rule packet = true) <->
      exists profiles profile, profiles ∈ lists ∧ profile ∈ passed profiles ∧
        net.Opens profile packet := by
  constructor
  · rintro ⟨rule, hmem, hholds⟩
    rcases List.mem_flatMap.mp hmem with ⟨profiles, hprofiles, hrule⟩
    rcases List.mem_filterMap.mp hrule with ⟨profile, hprofile, haccept⟩
    exact ⟨profiles, profile, hprofiles, hprofile,
      (holds_acceptRule_iff haccept).mp hholds⟩
  · rintro ⟨profiles, profile, hprofiles, hprofile, hopens⟩
    rcases exists_acceptRule hopens with ⟨rule, haccept⟩
    refine ⟨rule, List.mem_flatMap.mpr ⟨profiles, hprofiles, ?_⟩,
      (holds_acceptRule_iff haccept).mpr hopens⟩
    exact List.mem_filterMap.mpr ⟨profile, hprofile, haccept⟩

theorem accepts_refreshCommands_iff :
    net.accepts (fw.run (refreshCommands dmz forwarding nova)) .input packet = true <->
      net.Admitted (forwarding :: nova) packet := by
  have htargets : forall rule, rule ∈ defaultInput ++
      (forwarding :: nova).flatMap openedRules ->
        net.reading.target rule = some .accept := by
    intro rule hmem
    rcases List.mem_append.mp hmem with hdefault | hopened
    · exact ruleTarget_defaultInput rule hdefault
    · exact ruleTarget_openedRules hopened
  unfold Netfilter.accepts
  rw [decide_eq_true_iff, FilterChain.chain, input_run_refreshCommands,
    Firewall.policy_input_run_refreshCommands,
    outcome_eq_target_iff htargets (by decide)]
  unfold Netfilter.Admitted
  rw [← exists_holds_defaultInput_iff, ← exists_holds_openedRules_iff, ← exists_or]
  simp only [List.mem_append, or_and_right]

/-!
## The other chains
-/

/-- What no command changes is as it was after all of them. -/
theorem run_of_keeps {α : Type} {view : Firewall -> α}
    (h : forall command, command ∈ commands -> forall fw : Firewall,
      view (fw.apply command) = view fw) (fw : Firewall) :
    view (fw.run commands) = view fw :=
  foldl_invariant (fun fw' => view fw' = view fw)
    (fun fw' command hmem heq => (h command hmem fw').trans heq) rfl

/-- What the rules that open ports and the closing policy leave alone is as the
default setting and the DMZ made it. -/
theorem view_refreshCommands {α : Type} (view : Firewall -> α)
    (hinput : forall (fw : Firewall) rule,
      view (fw.apply (.append .filter .input rule)) = view fw)
    (hpolicy : forall fw : Firewall, view (fw.apply (.policy .input .drop)) = view fw) :
    view (fw.run (refreshCommands dmz forwarding nova)) =
      view ((Firewall.accepting.run iptablesDefaultSettingList).run
        (iptablesDnatDmzProfilesSet dmz)) := by
  have hopen : forall command profiles, command ∈ iptablesOpenPortProfiles profiles ->
      forall fw : Firewall, view (fw.apply command) = view fw := by
    intro command profiles hmem fw
    rcases inputRule_of_open hmem with ⟨rule, rfl⟩
    exact hinput fw rule
  unfold refreshCommands
  rw [Firewall.run_append, Firewall.run_append, Firewall.run_append,
    Firewall.run_append, run_defaultSetting]
  refine ((hpolicy _).trans (run_of_keeps ?_ _)).trans (run_of_keeps ?_ _)
  · intro command hmem
    rcases List.mem_flatten.mp hmem with ⟨list, hlist, hcommand⟩
    rcases List.mem_map.mp hlist with ⟨profiles, _, rfl⟩
    exact hopen command profiles hcommand
  · exact fun command hmem => hopen command forwarding hmem

/-- Nothing is kept from being forwarded. -/
theorem accepts_forward :
    net.accepts (fw.run (refreshCommands dmz forwarding nova)) .forward packet = true := by
  have hrules : (fw.run (refreshCommands dmz forwarding nova)).rules .filter .forward =
      [] := by
    refine (view_refreshCommands (fun fw => fw.rules .filter .forward) (fun _ _ => rfl)
      fun _ => rfl).trans ?_
    unfold iptablesDnatDmzProfilesSet
    split <;> rfl
  have hpolicy : (fw.run (refreshCommands dmz forwarding nova)).policy .forward =
      .accept := by
    refine (view_refreshCommands (fun fw => fw.policy .forward) (fun _ _ => rfl)
      fun _ => rfl).trans ?_
    unfold iptablesDnatDmzProfilesSet
    split <;> rfl
  unfold Netfilter.accepts
  rw [FilterChain.chain, hrules, hpolicy]
  rfl

theorem postrouted_refreshCommands :
    net.postrouted (fw.run (refreshCommands dmz forwarding nova)) packet =
      net.masqueraded packet := by
  have hrules : (fw.run (refreshCommands dmz forwarding nova)).rules .nat .postrouting =
      [[("-j", "MASQUERADE")]] := by
    refine (view_refreshCommands (fun fw => fw.rules .nat .postrouting) (fun _ _ => rfl)
      fun _ => rfl).trans ?_
    unfold iptablesDnatDmzProfilesSet
    split <;> rfl
  unfold Netfilter.postrouted
  rw [hrules]
  rfl

/-- The rule of an enabled DMZ. -/
def dmzRule (dmz : Iptable) : Rule :=
  [("-i", wanInterface)] ++ optionalMatch "-s" dmz.ipMask ++
    [("-j", "DNAT"), ("--to-destination", formatted dmz.dnatIp)]

theorem ruleTests_dmzRule (dmz : Iptable) :
    ruleTests (dmzRule dmz) = ("-i", wanInterface) :: optionalMatch "-s" dmz.ipMask := by
  have hsource : ruleTests (optionalMatch "-s" dmz.ipMask) = _ :=
    ruleTests_optionalMatch (by decide) _
  unfold ruleTests at hsource
  unfold ruleTests dmzRule
  rw [List.filter_append, List.filter_append, hsource]
  exact List.append_nil _

theorem ruleTarget_dmzRule (dmz : Iptable) :
    ruleTarget (dmzRule dmz) = some (.dnat (formatted dmz.dnatIp)) := by
  have hjump : (dmzRule dmz).lookup "-j" = some "DNAT" := by
    unfold dmzRule
    rw [List.lookup_append, List.lookup_append, lookup_optionalMatch (by decide)]
    rfl
  have hdestination : (dmzRule dmz).lookup "--to-destination" =
      some (formatted dmz.dnatIp) := by
    unfold dmzRule
    rw [List.lookup_append, List.lookup_append, lookup_optionalMatch (by decide)]
    rfl
  unfold ruleTarget
  rw [hjump, hdestination]
  rfl

theorem prerouted_refreshCommands :
    net.prerouted (fw.run (refreshCommands dmz forwarding nova)) packet =
      net.behindDmz dmz packet := by
  have hrules : (fw.run (refreshCommands dmz forwarding nova)).rules .nat .prerouting =
      if dmz.enable then [dmzRule dmz] else [] := by
    refine (view_refreshCommands (fun fw => fw.rules .nat .prerouting) (fun _ _ => rfl)
      fun _ => rfl).trans ?_
    unfold iptablesDnatDmzProfilesSet
    split <;> rfl
  unfold Netfilter.prerouted Netfilter.behindDmz
  rw [hrules]
  cases dmz.enable with
  | false => rfl
  | true =>
      have hone : forall rule, rule ∈ [dmzRule dmz] ->
          net.reading.target rule = some (.dnat (formatted dmz.dnatIp)) := by
        intro rule hmem
        rw [List.mem_singleton.mp hmem]
        exact ruleTarget_dmzRule dmz
      have hholds : net.reading.holds (dmzRule dmz) packet =
          net.allTests (("-i", wanInterface) :: optionalMatch "-s" dmz.ipMask) packet := by
        rw [← ruleTests_dmzRule]
        rfl
      rw [if_pos rfl, verdict_of_target hone, List.any_cons, List.any_nil, Bool.or_false,
        hholds, Bool.true_and]
      cases net.allTests (("-i", wanInterface) :: optionalMatch "-s" dmz.ipMask) packet
      · rfl
      · rfl

/-!
## The way of a packet
-/

/-- What is to become of a packet with a DMZ and lists of profiles whose ports are
open. -/
inductive Netfilter.Handles (net : Netfilter π) (dmz : Iptable)
    (lists : List (List Iptable)) (packet : π) : Fate π -> Prop where
  | delivered (hlocal : net.isLocal (net.behindDmz dmz packet) = true)
      (hadmitted : net.Admitted lists (net.behindDmz dmz packet)) :
      Handles net dmz lists packet (.delivered (net.behindDmz dmz packet))
  | dropped (hlocal : net.isLocal (net.behindDmz dmz packet) = true)
      (hnot : ¬ net.Admitted lists (net.behindDmz dmz packet)) :
      Handles net dmz lists packet .dropped
  | forwarded (hlocal : net.isLocal (net.behindDmz dmz packet) = false) :
      Handles net dmz lists packet
        (.forwarded (net.masqueraded (net.behindDmz dmz packet)))

theorem fate_refreshCommands_iff {fate : Fate π} :
    net.fate (fw.run (refreshCommands dmz forwarding nova)) packet = fate <->
      net.Handles dmz (forwarding :: nova) packet fate := by
  have hinput : forall arrived,
      net.accepts (fw.run (refreshCommands dmz forwarding nova)) .input arrived = true <->
        net.Admitted (forwarding :: nova) arrived :=
    fun _ => accepts_refreshCommands_iff
  unfold Netfilter.fate
  simp only [prerouted_refreshCommands, postrouted_refreshCommands, accepts_forward,
    if_true]
  cases hlocal : net.isLocal (net.behindDmz dmz packet) with
  | true =>
      rw [if_pos rfl]
      by_cases hadmitted : net.Admitted (forwarding :: nova) (net.behindDmz dmz packet)
      · rw [if_pos ((hinput _).mpr hadmitted)]
        constructor
        · rintro rfl
          exact .delivered hlocal hadmitted
        · rintro (_ | ⟨_, hnot⟩ | hforeign)
          · rfl
          · exact absurd hadmitted hnot
          · rw [hlocal] at hforeign
            cases hforeign
      · rw [if_neg fun haccepts => hadmitted ((hinput _).mp haccepts)]
        constructor
        · rintro rfl
          exact .dropped hlocal hadmitted
        · rintro (⟨_, hyes⟩ | _ | hforeign)
          · exact absurd hyes hadmitted
          · rfl
          · rw [hlocal] at hforeign
            cases hforeign
  | false =>
      rw [if_neg Bool.false_ne_true]
      constructor
      · rintro rfl
        exact .forwarded hlocal
      · rintro (⟨hown, _⟩ | ⟨hown, _⟩ | _)
        · rw [hlocal] at hown
          cases hown
        · rw [hlocal] at hown
          cases hown
        · rfl

end

/-!
## Runs
-/

/-- The Nova services of the file, and those the installed rules are made for. -/
structure NovaServices where
  stored : List IptableNovaService
  inForce : List IptableNovaService

/-- A request that refreshes puts the stored services in force; one that stores
services does not. -/
def NovaServices.after (services : NovaServices) : FirewallRequest -> NovaServices
  | .createNova (some stored) => { services with stored := stored }
  | .createForwarding _ (some _)
  | .updateForwarding (some _)
  | .deleteForwarding (some _)
  | .createDmz (some _)
  | .scan true _ => { services with inForce := services.stored }
  | _ => services

/-- The services in force after the requests, when all was in force. -/
def novaInForce (stored : List IptableNovaService) (requests : List FirewallRequest) :
    List IptableNovaService :=
  (requests.foldl NovaServices.after { stored, inForce := stored }).inForce

/-- The installed rules are made for the files, but for the services in force. -/
structure InForce (services : NovaServices) (w : World) : Prop where
  healthy : Healthy w.files
  stored : storedNova w = services.stored
  carries : CarriesPortProfiles services.stored
  firewall : w.firewall = Firewall.accepting.run
    (refreshCommands (storedDmz w) (storedForwarding w) (novaProfiles services.inForce))

section

variable {w : World} {services : NovaServices}

theorem inForce_refreshed (h : Healthy w.files) (hstored : storedNova w = services.stored)
    (hcarries : CarriesPortProfiles services.stored) :
    InForce { services with inForce := services.stored } (refreshed w) where
  healthy := h
  stored := hstored
  carries := hcarries
  firewall := by
    show rebuild w = _
    unfold rebuild
    rw [hstored]
    rfl

theorem inForce_storeForwarding (h : InForce services w) (iptables : List Iptable) :
    InForce { services with inForce := services.stored }
      (refreshed (storeForwarding iptables w)) :=
  inForce_refreshed (h.healthy.store _ _)
    ((storedNova_storeForwarding iptables).trans h.stored) h.carries

theorem wlp_whenPresent_some {α β : Type} {value : α} {program : α -> Daemon β}
    {post : Unit -> World -> Prop} (h : wp (program value) (fun _ w' => post () w') w) :
    wlp (whenPresent (some value) program) post w := by
  refine wlp_whenPresent (fun hnone => ?_) fun other hother => ?_
  · cases hnone
  · cases hother
    exact wlp_of_wp h

theorem wlp_exec_of_inForce (h : InForce services w) {request : FirewallRequest}
    (hcarries : request.Carries) :
    wlp request.exec (fun _ w' => InForce (services.after request) w') w := by
  have hready : CarriesPortProfiles (storedNova w) := by
    rw [h.stored]
    exact h.carries
  cases request with
  | createForwarding uuid creates =>
      cases creates with
      | none => exact h
      | some creates =>
          apply wlp_whenPresent_some
          rw [wp_iptablesDnatForwardingCreate h.healthy]
          exact ⟨hready, inForce_storeForwarding h _⟩
  | updateForwarding updates =>
      cases updates with
      | none => exact h
      | some updates =>
          apply wlp_whenPresent_some
          rw [wp_iptablesDnatForwardingUpdate h.healthy]
          exact ⟨hready, inForce_storeForwarding h _⟩
  | deleteForwarding deletes =>
      cases deletes with
      | none => exact h
      | some deletes =>
          apply wlp_whenPresent_some
          rw [wp_iptablesDnatForwardingDelete h.healthy]
          exact ⟨hready, inForce_storeForwarding h _⟩
  | createDmz iptables =>
      cases iptables with
      | none => exact h
      | some iptables =>
          apply wlp_whenPresent_some
          rw [wp_iptableDnatDmzUpdate h.healthy]
          exact ⟨hready, inForce_refreshed (h.healthy.store _ _)
            ((storedNova_storeDmz iptables).trans h.stored) h.carries⟩
  | createNova stored =>
      cases stored with
      | none => exact h
      | some stored =>
          rcases cvtIptableNovaServiceListToJson_of_carries hcarries with ⟨tree, htree⟩
          apply wlp_whenPresent_some
          rw [wp_iptableNovaServiceSet h.healthy]
          refine ⟨tree, htree, h.healthy.store _ _, ?_, hcarries, ?_⟩
          · show cvtJsonToIptableNovaServiceList _ = stored
            rw [World.json_storeJson_self]
            exact cvtJsonToIptableNovaServiceList_of_encoded htree
          · rw [World.firewall_storeJson, h.firewall]
            simp [storedDmz, storedForwarding, NovaServices.after]
  | scan running found =>
      cases running with
      | false => exact h
      | true =>
          show wlp (openWhile (field found) >>= fun _ => pure ()) _ w
          rw [wlp_bind]
          cases found with
          | none => exact trivial
          | some devices =>
              apply wlp_of_wp
              rw [wp_openWhile_field h.healthy]
              exact ⟨devices, rfl, hready, inForce_refreshed h.healthy h.stored h.carries⟩

end

/-- After every run of requests a packet goes the way that the stored DMZ and
forwarding lists and the services in force prescribe. -/
theorem fate_of_run {π : Type} {net : Netfilter π} {w w' : World}
    {requests : List FirewallRequest} (h : Installed w)
    (hrun : Runs FirewallStep w requests w') (packet : π) (fate : Fate π) :
    net.fate w'.firewall packet = fate <->
      net.Handles (storedDmz w')
        (storedForwarding w' :: novaProfiles (novaInForce (storedNova w) requests))
        packet fate := by
  have hend : InForce
      (requests.foldl NovaServices.after ⟨storedNova w, storedNova w⟩) w' := by
    have hstart : InForce ⟨storedNova w, storedNova w⟩ w :=
      ⟨h.healthy, rfl, h.carries, h.firewall⟩
    generalize NovaServices.mk (storedNova w) (storedNova w) = services at hstart ⊢
    clear h
    induction hrun generalizing services with
    | nil s => exact hstart
    | cons hstep hrest ih =>
        exact ih _ (wlp_iff.mp (wlp_exec_of_inForce hstart hstep.1) () _ hstep.2)
  rw [hend.firewall, fate_refreshCommands_iff]
  rfl

/-- Packets that are told by the tests they pass, and stay as they are. -/
def netOfTests : Netfilter (List (String × String)) where
  test := fun flag value packet => packet.contains (flag, value)
  redirected := fun _ packet => packet
  masqueraded := id
  isLocal := fun _ => true

def webService : IptableNovaService where
  name := some "web"
  portProfiles := some [webServer]

def httpsPacket : List (String × String) :=
  [("-p", "tcp"), ("--dport", "443")]

/-- The ports of a Nova service are open after the next request. -/
theorem fate_of_run_webService :
    exists w', Runs FirewallStep (refreshed World.installed)
        [.createNova (some [webService]),
          .createForwarding (fun _ => "1") (some [])] w' ∧
      netOfTests.fate w'.firewall httpsPacket = .delivered httpsPacket := by
  have hinstalled : Installed (refreshed World.installed) :=
    installed_refreshed healthy_installed (by decide)
  have hpayload : (FirewallRequest.createNova (some [webService])).Carries := by
    intro service hmem
    rw [List.mem_singleton.mp hmem]
    exact Option.some_ne_none _
  have hrun : exists w', Runs FirewallStep (refreshed World.installed)
      [.createNova (some [webService]),
        .createForwarding (fun _ => "1") (some [])] w' ∧
      (storedDmz w').enable = false :=
    ⟨_, Runs.cons ⟨hpayload, rfl⟩ (Runs.cons ⟨trivial, rfl⟩ (Runs.nil _)), rfl⟩
  rcases hrun with ⟨w', hrun, hdmz⟩
  refine ⟨w', hrun, (fate_of_run hinstalled hrun _ _).mpr ?_⟩
  have hbehind : netOfTests.behindDmz (storedDmz w') httpsPacket = httpsPacket := by
    unfold Netfilter.behindDmz
    rw [hdmz]
    rfl
  have hopens : netOfTests.Opens webServer httpsPacket :=
    { enable := rfl
      protocol := ⟨_, rfl, by decide⟩
      ports := ⟨_, rfl, by decide⟩
      source := fun _ hvalue => by cases hvalue
      interface := fun _ hvalue => by cases hvalue }
  have hadmitted : netOfTests.Admitted (storedForwarding w' :: [[webServer]])
      httpsPacket :=
    Or.inr ⟨[webServer], webServer, by simp, by decide, hopens⟩
  have hhandles : netOfTests.Handles (storedDmz w')
      (storedForwarding w' :: [[webServer]]) httpsPacket
      (.delivered (netOfTests.behindDmz (storedDmz w') httpsPacket)) := by
    refine .delivered rfl ?_
    rw [hbehind]
    exact hadmitted
  rw [hbehind] at hhandles
  exact hhandles

end Network
end Noc
