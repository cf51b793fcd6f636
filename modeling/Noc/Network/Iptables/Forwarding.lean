import Noc.Network.Iptables.Agreement

/-!
# Forwarding ports

The stored forwarding list goes through the function that opens ports, so what
a refresh installs for it are rules of the INPUT chain.  The targets of the
profiles are stored, and read, and not used.
-/

namespace Noc
namespace Network

open Api
open Foundation
open Foundation.Exec

/-!
## What forwarding asks for
-/

/-- A target with a port range, which the DNAT target writes with a dash. -/
def forwardTarget (dnatIp dnatPortRange : String) : String :=
  dnatIp ++ ":" ++ String.ofList (dnatPortRange.toList.map fun c =>
    if c = ':' then '-' else c)

/-- The rule matches what the profile matches, and sends it to its target. -/
structure Forwards (profile : Iptable) (rule : Rule) : Prop where
  protocol : exists value, profile.protocol = some value ∧ ("-p", value) ∈ rule
  ports : exists value, profile.portRange = some value ∧ ("--dport", value) ∈ rule
  source : forall value, profile.ipMask = some value -> value ≠ "" ->
    ("-s", value) ∈ rule
  jump : ("-j", "DNAT") ∈ rule
  target : exists ip ports, profile.dnatIp = some ip ∧
    profile.dnatPortRange = some ports ∧
    ("--to-destination", forwardTarget ip ports) ∈ rule

/-- Every enabled profile says what is forwarded, and where to. -/
def Forwardable (profiles : List Iptable) : Prop :=
  forall profile, profile ∈ profiles -> profile.enable = true ->
    profile.protocol ≠ none ∧ profile.portRange ≠ none ∧
      profile.dnatIp ≠ none ∧ profile.dnatPortRange ≠ none

/-- At some place both lists have an enabled profile, with different targets. -/
def TargetsDiffer (profiles others : List Iptable) : Prop :=
  exists (k : Nat) (profile other : Iptable),
    profiles[k]? = some profile ∧ others[k]? = some other ∧
      profile.enable = true ∧ other.enable = true ∧
      (profile.dnatIp ≠ other.dnatIp ∨ profile.dnatPortRange ≠ other.dnatPortRange)

/-- The chain has a rule for each enabled profile, in the order of the list. -/
def ForwardedIn (profiles : List Iptable) (chain : List Rule) : Prop :=
  exists rules, rules.Sublist chain ∧
    List.Forall₂ Forwards (profiles.filter fun profile => profile.enable) rules

/-- What a refresh installs forwards the profiles, and no list with other targets
makes it install the same. -/
structure ForwardsStored (w : World) : Prop where
  chain : wp iptablesRefresh
    (fun _ w' => ForwardedIn (storedForwarding w) (w'.firewall.rules .nat .prerouting)) w
  faithful : forall others, Forwardable others ->
    TargetsDiffer (storedForwarding w) others ->
      wp iptablesRefresh (fun _ w' =>
        wp iptablesRefresh (fun _ w'' => w''.firewall ≠ w'.firewall)
          (storeForwarding others w)) w

/-!
## What is installed
-/

/-- No command but the one for the DMZ adds to the PREROUTING chain. -/
def Elsewhere (command : IptablesCommand) : Prop :=
  forall fw : Firewall, (fw.apply command).rules .nat .prerouting =
    fw.rules .nat .prerouting

section

variable {fw : Firewall} {commands : List IptablesCommand} {w : World}

theorem prerouting_run_of_elsewhere
    (h : forall command, command ∈ commands -> Elsewhere command) :
    (fw.run commands).rules .nat .prerouting = fw.rules .nat .prerouting := by
  induction commands generalizing fw with
  | nil => rfl
  | cons command rest ih =>
      rw [Firewall.run_cons,
        ih fun other hother => h other (List.mem_cons_of_mem _ hother)]
      exact h command List.mem_cons_self fw

theorem elsewhere_input (rule : Rule) : Elsewhere (.append .filter .input rule) :=
  fun _ => rfl

theorem elsewhere_open {profiles : List Iptable} {command : IptablesCommand}
    (h : command ∈ iptablesOpenPortProfiles profiles) : Elsewhere command := by
  rcases inputRule_of_open h with ⟨rule, rfl⟩
  exact elsewhere_input rule

theorem elsewhere_nova {services : List IptableNovaService} {command : IptablesCommand}
    (h : command ∈ novaCommands services) : Elsewhere command := by
  rcases inputRule_of_nova h with ⟨rule, rfl⟩
  exact elsewhere_input rule

/-- The DMZ rule is all there is in the PREROUTING chain. -/
theorem prerouting_rebuild (w : World) :
    (rebuild w).rules .nat .prerouting =
      ((Firewall.accepting.run iptablesDefaultSettingList).run
        (iptablesDnatDmzProfilesSet (storedDmz w))).rules .nat .prerouting := by
  rw [rebuild_eq, rebuildBeforeNova, Firewall.run_append, Firewall.run_append]
  show (((_ : Firewall).run (novaCommands (storedNova w))).apply
    (.policy .input .drop)).rules .nat .prerouting = _
  exact (prerouting_run_of_elsewhere fun _ => elsewhere_nova).trans
    (prerouting_run_of_elsewhere fun _ => elsewhere_open)

/-- No rule of the chain matches a port. -/
theorem no_ports_rebuild {rule : Rule}
    (h : rule ∈ (rebuild w).rules .nat .prerouting) (ports : String) :
    ("--dport", ports) ∉ rule := by
  rw [prerouting_rebuild] at h
  unfold iptablesDnatDmzProfilesSet at h
  split at h
  · have hrule : rule = [("-i", wanInterface)] ++
        optionalMatch "-s" (storedDmz w).ipMask ++
        [("-j", "DNAT"), ("--to-destination", formatted (storedDmz w).dnatIp)] :=
      List.mem_singleton.mp h
    rw [hrule]
    unfold optionalMatch
    split
    · split <;> simp
    · simp
  · cases h

theorem forwardedIn_rebuild_iff :
    ForwardedIn (storedForwarding w) ((rebuild w).rules .nat .prerouting) <->
      forall profile, profile ∈ storedForwarding w -> profile.enable = false := by
  constructor
  · rintro ⟨rules, hsub, hforwards⟩ profile hprofile
    cases henable : profile.enable with
    | false => rfl
    | true =>
        have hmem : profile ∈ (storedForwarding w).filter fun profile => profile.enable :=
          List.mem_filter.mpr ⟨hprofile, henable⟩
        rcases List.exists_cons_of_ne_nil (List.ne_nil_of_mem hmem) with
          ⟨first, rest, hfirst⟩
        rw [hfirst, List.forall₂_cons_left_iff] at hforwards
        rcases hforwards with ⟨rule, others, hrule, _, hrules⟩
        rcases hrule.ports with ⟨ports, _, hports⟩
        have hchain : rule ∈ (rebuild w).rules .nat .prerouting := by
          apply hsub.subset
          rw [hrules]
          exact List.mem_cons_self
        exact absurd hports (no_ports_rebuild hchain ports)
  · intro hdisabled
    have hnone : ((storedForwarding w).filter fun profile => profile.enable) = [] := by
      rw [List.filter_eq_nil_iff]
      intro profile hprofile
      rw [hdisabled profile hprofile]
      exact Bool.false_ne_true
    refine ⟨[], List.nil_sublist _, ?_⟩
    rw [hnone]
    exact List.Forall₂.nil

/-- Lists that open the same ports install the same, whatever their targets. -/
theorem rebuild_of_samePorts {profiles others : List Iptable}
    (h : iptablesOpenPortProfiles profiles = iptablesOpenPortProfiles others) :
    rebuild (storeForwarding profiles w) = rebuild (storeForwarding others w) := by
  have hdmz : storedDmz (storeForwarding profiles w) =
      storedDmz (storeForwarding others w) := by
    simp [storedDmz, storeForwarding]
  unfold rebuild refreshCommands
  rw [storedForwarding_storeForwarding, storedForwarding_storeForwarding,
    storedNova_storeForwarding, storedNova_storeForwarding, hdmz, h]

/-- The stored list is forwarded when there is nothing to forward. -/
theorem forwardsStored_iff (h : Healthy w.files)
    (hnova : CarriesPortProfiles (storedNova w)) :
    ForwardsStored w <->
      forall profile, profile ∈ storedForwarding w -> profile.enable = false := by
  rw [← forwardedIn_rebuild_iff]
  constructor
  · intro hstored
    exact ((wp_iptablesRefresh h _).mp hstored.chain).2
  · intro hchain
    refine ⟨(wp_iptablesRefresh h _).mpr ⟨hnova, hchain⟩, ?_⟩
    rintro others - ⟨k, profile, other, hprofile, -, henable, -⟩
    have hdisabled := forwardedIn_rebuild_iff.mp hchain profile
      (List.mem_of_getElem? hprofile)
    rw [henable] at hdisabled
    cases hdisabled

end

/-- A door left open to a shell inside. -/
def shellForwarding (dnatIp : String) : Iptable where
  portRange := some "8999:8999"
  ipMask := some ""
  protocol := some "tcp"
  dnatIp := some dnatIp
  dnatPortRange := some "22:22"
  enable := true

def forwardingWorld (profiles : List Iptable) : World :=
  storeForwarding profiles World.installed

theorem healthy_forwardingWorld (profiles : List Iptable) :
    Healthy (forwardingWorld profiles).files :=
  healthy_installed.store _ _

theorem carries_forwardingWorld (profiles : List Iptable) :
    CarriesPortProfiles (storedNova (forwardingWorld profiles)) := by
  unfold forwardingWorld
  rw [storedNova_storeForwarding]
  decide

theorem forwardsStored_disabled :
    ForwardsStored
      (forwardingWorld [{ shellForwarding "10.0.0.2" with enable := false }]) := by
  refine (forwardsStored_iff (healthy_forwardingWorld _)
    (carries_forwardingWorld _)).mpr ?_
  unfold forwardingWorld
  rw [storedForwarding_storeForwarding]
  decide

/-- The port is not forwarded, and another target installs the same firewall. -/
theorem not_forwardsStored_of_shell :
    Forwardable [shellForwarding "10.0.0.2"] ∧
      Forwardable [shellForwarding "10.0.0.3"] ∧
      TargetsDiffer [shellForwarding "10.0.0.2"] [shellForwarding "10.0.0.3"] ∧
      wp iptablesRefresh
        (fun _ w' =>
          ¬ ForwardedIn [shellForwarding "10.0.0.2"]
              (w'.firewall.rules .nat .prerouting) ∧
          wp iptablesRefresh (fun _ w'' => w''.firewall = w'.firewall)
            (forwardingWorld [shellForwarding "10.0.0.3"]))
        (forwardingWorld [shellForwarding "10.0.0.2"]) := by
  have hforwardable : forall ip, Forwardable [shellForwarding ip] := by
    intro ip profile hprofile _
    rw [List.mem_singleton.mp hprofile]
    exact ⟨nofun, nofun, nofun, nofun⟩
  refine ⟨hforwardable _, hforwardable _,
    ⟨0, _, _, rfl, rfl, rfl, rfl, Or.inl (by decide)⟩, ?_⟩
  refine (wp_iptablesRefresh (healthy_forwardingWorld _) _).mpr
    ⟨carries_forwardingWorld _, ?_,
      (wp_iptablesRefresh (healthy_forwardingWorld _) _).mpr
        ⟨carries_forwardingWorld _, ?_⟩⟩
  · intro hchain
    have hstored : storedForwarding (forwardingWorld [shellForwarding "10.0.0.2"]) =
        [shellForwarding "10.0.0.2"] := storedForwarding_storeForwarding _
    rw [← hstored] at hchain
    have hdisabled := forwardedIn_rebuild_iff.mp hchain (shellForwarding "10.0.0.2") (by
      rw [hstored]
      exact List.mem_singleton_self _)
    cases hdisabled
  · exact rebuild_of_samePorts rfl

end Network
end Noc
