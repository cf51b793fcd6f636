import Mathlib.Tactic.IntervalCases
import Noc.Network.Iptables.Packets
import Noc.Network.Saving

/-!
# While the firewall is rebuilt

A refresh empties the chains, lets every packet in and closes the INPUT chain with
its last command.  Whatever keeps it from that command leaves the chain open.
-/

namespace Noc
namespace Network

open Api
open Foundation
open Foundation.Exec
open Foundation.PacketFilter
open Utils

section

variable {π : Type} {net : Netfilter π} {packet : π} {fw : Firewall}
  {commands : List IptablesCommand} {dmz : Iptable} {forwarding : List Iptable}
  {nova : List (List Iptable)}

/-!
## Open chains
-/

/-- The INPUT chain keeps no packet out. -/
structure OpenInput (fw : Firewall) : Prop where
  policy : fw.policy .input = .accept
  rules : forall rule, rule ∈ fw.rules .filter .input -> ruleTarget rule = some .accept

theorem OpenInput.accepts (h : OpenInput fw) : net.accepts fw .input packet = true := by
  unfold Netfilter.accepts
  rw [decide_eq_true_iff, FilterChain.chain, h.policy]
  exact outcome_of_target_eq_policy h.rules

/-- The rules a command adds to the INPUT chain. -/
def inputAdded : IptablesCommand -> List Rule
  | .append .filter .input rule => [rule]
  | .insert .input _ rule => [rule]
  | _ => []

def setsPolicy : IptablesCommand -> Bool
  | .policy _ _ => true
  | _ => false

/-- A command that closes nothing: it sets no policy and adds accepting rules. -/
def opensOnly (command : IptablesCommand) : Bool :=
  !setsPolicy command &&
    (inputAdded command).all fun rule => ruleTarget rule = some .accept

theorem mem_input_apply {command : IptablesCommand} {rule : Rule}
    (h : rule ∈ (fw.apply command).rules .filter .input) :
    rule ∈ fw.rules .filter .input ∨ rule ∈ inputAdded command := by
  cases command with
  | flush table =>
      cases table with
      | filter => cases h
      | nat => exact Or.inl h
      | mangle => exact Or.inl h
  | deleteChains table => exact Or.inl h
  | policy chain target => exact Or.inl h
  | append table chain added =>
      by_cases hinput : Table.filter = table ∧ Chain.input = chain
      · rcases hinput with ⟨rfl, rfl⟩
        exact List.mem_append.mp h
      · have hsame : (fw.apply (.append table chain added)).rules .filter .input =
            fw.rules .filter .input := if_neg hinput
        rw [hsame] at h
        exact Or.inl h
  | insert chain position added =>
      by_cases hinput : Chain.input = chain
      · subst hinput
        have hmem : rule ∈ (fw.rules .filter .input).take (position - 1) ++
            added :: (fw.rules .filter .input).drop (position - 1) := h
        rcases List.mem_append.mp hmem with hfront | hback
        · exact Or.inl (List.mem_of_mem_take hfront)
        · rcases List.mem_cons.mp hback with rfl | hlater
          · exact Or.inr (List.mem_singleton_self _)
          · exact Or.inl (List.mem_of_mem_drop hlater)
      · have hsame : (fw.apply (.insert chain position added)).rules .filter .input =
            fw.rules .filter .input := if_neg fun hboth => hinput hboth.2
        rw [hsame] at h
        exact Or.inl h

theorem policy_apply {command : IptablesCommand} (h : setsPolicy command = false) :
    (fw.apply command).policy = fw.policy := by
  cases command with
  | policy chain target => cases h
  | flush table => rfl
  | deleteChains table => rfl
  | append table chain rule => rfl
  | insert chain position rule => rfl

theorem openInput_apply {command : IptablesCommand} (h : OpenInput fw)
    (hopens : opensOnly command = true) : OpenInput (fw.apply command) := by
  unfold opensOnly at hopens
  rw [Bool.and_eq_true, Bool.not_eq_true'] at hopens
  refine ⟨?_, fun rule hmem => ?_⟩
  · rw [policy_apply hopens.1]
    exact h.policy
  · rcases mem_input_apply hmem with hold | hadded
    · exact h.rules rule hold
    · exact of_decide_eq_true (List.all_eq_true.mp hopens.2 rule hadded)

theorem openInput_run (h : OpenInput fw)
    (hcommands : forall command, command ∈ commands -> opensOnly command = true) :
    OpenInput (fw.run commands) :=
  foldl_invariant OpenInput
    (fun _ command hmem hopen => openInput_apply hopen (hcommands command hmem)) h

theorem openInput_accepting : OpenInput Firewall.accepting where
  policy := rfl
  rules := fun _ hmem => by cases hmem

theorem opensOnly_open {profiles : List Iptable} {command : IptablesCommand}
    (h : command ∈ iptablesOpenPortProfiles profiles) : opensOnly command = true := by
  rw [openPortProfiles_eq] at h
  rcases List.mem_map.mp h with ⟨rule, hrule, rfl⟩
  rcases List.mem_filterMap.mp hrule with ⟨profile, _, haccept⟩
  simp [opensOnly, setsPolicy, inputAdded, ruleTarget_acceptRule haccept]

theorem opensOnly_dmz {command : IptablesCommand}
    (h : command ∈ iptablesDnatDmzProfilesSet dmz) : opensOnly command = true := by
  unfold iptablesDnatDmzProfilesSet at h
  split at h
  · rw [List.mem_singleton.mp h]
    rfl
  · cases h

/-- What the default setting runs once it has erased everything. -/
theorem opensOnly_defaultSetting :
    forall command, command ∈ iptablesDefaultSettingList.drop 9 ->
      opensOnly command = true := by
  decide +kernel

/-!
## Between the commands
-/

theorem run_erasing (fw : Firewall) :
    fw.run (iptablesDefaultSettingList.take 9) = Firewall.accepting := by
  apply Firewall.ext
  · funext chain
    cases chain <;> rfl
  · funext table chain
    cases table <;> rfl
  · funext table
    cases table <;> rfl

/-- What a refresh runs between erasing everything and closing the chain. -/
def openingCommands (dmz : Iptable) (forwarding : List Iptable)
    (nova : List (List Iptable)) : List IptablesCommand :=
  iptablesDefaultSettingList.drop 9 ++ iptablesDnatDmzProfilesSet dmz ++
    iptablesOpenPortProfiles forwarding ++ (nova.map iptablesOpenPortProfiles).flatten

theorem refreshCommands_eq :
    refreshCommands dmz forwarding nova =
      iptablesDefaultSettingList.take 9 ++
        (openingCommands dmz forwarding nova ++ iptableRestrictBasic) := by
  have hdefault := List.take_append_drop 9 iptablesDefaultSettingList
  unfold refreshCommands openingCommands
  conv_lhs => rw [← hdefault]
  simp only [List.append_assoc]

theorem opensOnly_openingCommands {command : IptablesCommand}
    (h : command ∈ openingCommands dmz forwarding nova) : opensOnly command = true := by
  unfold openingCommands at h
  rcases List.mem_append.mp h with hfront | hnova
  · rcases List.mem_append.mp hfront with hbefore | hforwarding
    · rcases List.mem_append.mp hbefore with hdefault | hdmz
      · exact opensOnly_defaultSetting command hdefault
      · exact opensOnly_dmz hdmz
    · exact opensOnly_open hforwarding
  · rcases List.mem_flatten.mp hnova with ⟨list, hlist, hcommand⟩
    rcases List.mem_map.mp hlist with ⟨profiles, _, rfl⟩
    exact opensOnly_open hcommand

/-- The first commands empty the chain and leave its policy. -/
theorem input_run_take {k : Nat} (hpos : 1 <= k) (hle : k <= 8) (fw : Firewall) :
    (fw.run (iptablesDefaultSettingList.take k)).rules .filter .input = [] ∧
      (fw.run (iptablesDefaultSettingList.take k)).policy .input = fw.policy .input := by
  interval_cases k <;> exact ⟨rfl, rfl⟩

/-- A refresh that has begun lets in everything or nothing, as the policy has it;
from its ninth command on it lets in everything, and what the lists admit only
after the last one. -/
theorem accepts_take_refreshCommands (net : Netfilter π) (fw : Firewall) (dmz : Iptable)
    (forwarding : List Iptable) (nova : List (List Iptable)) (packet : π) (k : Nat) :
    (1 <= k -> k <= 8 ->
      (net.accepts (fw.run ((refreshCommands dmz forwarding nova).take k)) .input packet =
          true <->
        fw.policy .input = .accept)) ∧
    (9 <= k -> k < (refreshCommands dmz forwarding nova).length ->
      net.accepts (fw.run ((refreshCommands dmz forwarding nova).take k)) .input packet =
        true) ∧
    ((refreshCommands dmz forwarding nova).length <= k ->
      (net.accepts (fw.run ((refreshCommands dmz forwarding nova).take k)) .input packet =
          true <->
        net.Admitted (forwarding :: nova) packet)) := by
  have hnine : (iptablesDefaultSettingList.take 9).length = 9 := rfl
  refine ⟨fun hpos hle => ?_, fun hnine_le hlt => ?_, fun hall => ?_⟩
  · have htake : (refreshCommands dmz forwarding nova).take k =
        iptablesDefaultSettingList.take k := by
      rw [refreshCommands_eq, List.take_append_of_le_length (by omega), List.take_take,
        min_eq_left (by omega)]
    rcases input_run_take hpos hle fw with ⟨hrules, hpolicy⟩
    unfold Netfilter.accepts
    rw [htake, decide_eq_true_iff, FilterChain.chain, hrules, hpolicy, outcome_nil]
    cases fw.policy .input with
    | accept => exact iff_of_true rfl rfl
    | drop => exact iff_of_false (by decide) (by decide)
  · have hrest : k - 9 <= (openingCommands dmz forwarding nova).length := by
      rw [refreshCommands_eq, List.length_append, List.length_append, hnine] at hlt
      have hone : iptableRestrictBasic.length = 1 := rfl
      omega
    have htake : (refreshCommands dmz forwarding nova).take k =
        iptablesDefaultSettingList.take 9 ++
          (openingCommands dmz forwarding nova).take (k - 9) := by
      rw [refreshCommands_eq, List.take_append, hnine,
        List.take_of_length_le (hnine.trans_le hnine_le),
        List.take_append_of_le_length hrest]
    rw [htake, Firewall.run_append, run_erasing]
    exact (openInput_run openInput_accepting fun command hmem =>
      opensOnly_openingCommands (List.mem_of_mem_take hmem)).accepts
  · rw [List.take_of_length_le hall]
    exact accepts_refreshCommands_iff

end

/-!
## Requests that stop
-/

/-- Where the program stops, the INPUT chain keeps no packet out. -/
def StopsOpen {α : Type} (program : Daemon α) (w : World) : Prop :=
  forall fault w', program w = .error (fault, w') -> OpenInput w'.firewall

section

variable {α β : Type} {w : World}

theorem stopsOpen_of_run {program : Daemon α} {value : α} {w' : World}
    (hrun : program w = .ok (value, w')) : StopsOpen program w := by
  intro fault stopped hstop
  rw [hrun] at hstop
  cases hstop

theorem stopsOpen_bind {program : Daemon α} {next : α -> Daemon β}
    (h : StopsOpen program w)
    (hnext : forall value w', program w = .ok (value, w') -> StopsOpen (next value) w') :
    StopsOpen (program >>= next) w := by
  intro fault stopped hstop
  cases hrun : program w with
  | ok result =>
      rcases result with ⟨value, w'⟩
      rw [bind_of_run hrun] at hstop
      exact hnext value w' hrun fault stopped hstop
  | error result =>
      rcases result with ⟨earlier, w'⟩
      rw [bind_of_error hrun] at hstop
      cases hstop
      exact h _ _ hrun

theorem stopsOpen_bind_of_run {program : Daemon α} {next : α -> Daemon β} {value : α}
    {w' : World} (hrun : program w = .ok (value, w')) (hnext : StopsOpen (next value) w') :
    StopsOpen (program >>= next) w := by
  refine stopsOpen_bind (stopsOpen_of_run hrun) fun other v hother => ?_
  rw [hrun] at hother
  cases hother
  exact hnext

theorem stopsOpen_ite {c : Prop} [Decidable c] {program other : Daemon α}
    (h : StopsOpen program w) (hother : StopsOpen other w) :
    StopsOpen (if c then program else other) w := by
  split
  · exact h
  · exact hother

theorem stopsOpen_untilError_of_run {step : Daemon ErrorCode} {w' : World}
    {rest : List (Daemon ErrorCode)} (hrun : step w = .ok (.success, w'))
    (hrest : StopsOpen (untilError rest) w') : StopsOpen (untilError (step :: rest)) w := by
  show StopsOpen (step >>= fun err => if err ≠ .success then pure err
    else untilError rest) w
  exact stopsOpen_bind_of_run hrun hrest

/-- Opening the ports of the services stops at one without its list. -/
theorem stopsOpen_openNovaServices (h : OpenInput w.firewall)
    (services : List IptableNovaService) : StopsOpen (each openNovaService services) w := by
  induction services generalizing w with
  | nil =>
      show StopsOpen (pure ()) w
      exact stopsOpen_of_run rfl
  | cons service rest ih =>
      show StopsOpen (openNovaService service >>= fun _ => each openNovaService rest) w
      cases hports : service.portProfiles with
      | none =>
          have hfault : openNovaService service w = .error (.nullField, w) := by
            unfold openNovaService
            rw [hports]
            rfl
          intro fault stopped hstop
          rw [bind_of_error hfault] at hstop
          cases hstop
          exact h
      | some profiles =>
          have hrun : openNovaService service w =
              .ok ((), w.runIptables (iptablesOpenPortProfiles profiles)) := by
            unfold openNovaService
            rw [hports]
            rfl
          exact stopsOpen_bind_of_run hrun (ih (openInput_run h fun _ => opensOnly_open))

theorem stopsOpen_iptableNovaServiceReload (h : Healthy w.files)
    (hopen : OpenInput w.firewall) :
    StopsOpen iptableNovaServiceReloadFromSettingFile w := by
  have hrun : iptableNovaServiceRequestFromSettingFile w =
      .ok ((.success, storedNova w), w) := by
    apply run_of_wp
    unfold iptableNovaServiceRequestFromSettingFile
    rw [wp_bind, wp_readJson h rfl]
    exact ⟨rfl, rfl⟩
  refine stopsOpen_bind_of_run hrun ?_
  refine stopsOpen_bind (stopsOpen_openNovaServices hopen _) fun _ _ _ => ?_
  exact stopsOpen_of_run rfl

theorem stopsOpen_iptablesRefresh (h : Healthy w.files) : StopsOpen iptablesRefresh w := by
  have hdefault : iptablesDefaultSetting w =
      .ok (.success, w.runIptables iptablesDefaultSettingList) := rfl
  have hopen : OpenInput (w.firewall.run iptablesDefaultSettingList) := by
    rw [Firewall.run_iptablesDefaultSettingList]
    exact openInput_run openInput_accepting opensOnly_defaultSetting
  refine stopsOpen_untilError_of_run hdefault ?_
  have hhealthy : Healthy (w.runIptables iptablesDefaultSettingList).files := h
  refine stopsOpen_untilError_of_run (run_iptableDnatDmzReload hhealthy) ?_
  have hhealthy' : Healthy ((w.runIptables iptablesDefaultSettingList).runIptables
    (iptablesDnatDmzProfilesSet (storedDmz w))).files := h
  refine stopsOpen_untilError_of_run (run_iptableDnatForwardingReload hhealthy') ?_
  refine stopsOpen_bind (stopsOpen_iptableNovaServiceReload h ?_) fun err v _ => ?_
  · exact openInput_run (openInput_run hopen fun _ => opensOnly_dmz) fun _ => opensOnly_open
  · exact stopsOpen_ite (stopsOpen_of_run rfl) (stopsOpen_of_run rfl)

/-- A refresh behind a save that succeeds. -/
theorem stopsOpen_saveThenRefresh {save : Daemon ErrorCode} {w' : World}
    (hrun : save w = .ok (.success, w')) (h : Healthy w'.files) :
    StopsOpen (untilError [save, iptablesRefresh]) w := by
  refine stopsOpen_untilError_of_run hrun ?_
  refine stopsOpen_bind (stopsOpen_iptablesRefresh h) fun err v _ => ?_
  exact stopsOpen_ite (stopsOpen_of_run rfl) (stopsOpen_of_run rfl)

theorem stopsOpen_whenPresent {payload : Option α} {program : α -> Daemon β}
    (h : forall value, payload = some value -> StopsOpen (program value) w) :
    StopsOpen (whenPresent payload program) w := by
  cases payload with
  | none => exact stopsOpen_of_run rfl
  | some value => exact stopsOpen_bind (h value rfl) fun _ _ _ => stopsOpen_of_run rfl

theorem stopsOpen_saveForwarding (h : Healthy w.files) (iptables : List Iptable) :
    StopsOpen (saveForwarding iptables) w :=
  stopsOpen_saveThenRefresh (run_iptablesDnatForwardingSave h iptables) (h.store _ _)

theorem stopsOpen_scan (h : Healthy w.files) (found : Option α) :
    StopsOpen (openWhile (field found)) w := by
  have hall : iptablesAllowAllTraffic w =
      .ok (.success, w.runIptables iptablesAllowAllTrafficList) := rfl
  refine stopsOpen_bind_of_run hall ?_
  cases found with
  | none =>
      intro fault stopped hstop
      cases hstop
      show OpenInput (w.firewall.run iptablesAllowAllTrafficList)
      rw [Firewall.run_iptablesAllowAllTrafficList]
      exact openInput_accepting
  | some value =>
      refine stopsOpen_bind_of_run rfl ?_
      refine stopsOpen_bind (stopsOpen_iptablesRefresh h) fun _ _ _ => ?_
      exact stopsOpen_of_run rfl

theorem stopsOpen_exec (h : Healthy w.files) {request : FirewallRequest}
    (hcarries : request.Carries) : StopsOpen request.exec w := by
  cases request with
  | createForwarding uuid creates =>
      refine stopsOpen_whenPresent fun value _ => ?_
      refine stopsOpen_bind_of_run (run_iptablesDnatForwardingRequest h) ?_
      refine stopsOpen_bind (stopsOpen_saveForwarding h _) fun _ _ _ => ?_
      exact stopsOpen_of_run rfl
  | updateForwarding updates =>
      refine stopsOpen_whenPresent fun value _ => ?_
      refine stopsOpen_bind_of_run (run_iptablesDnatForwardingRequest h) ?_
      refine stopsOpen_bind (stopsOpen_saveForwarding h _) fun _ _ _ => ?_
      exact stopsOpen_ite (stopsOpen_of_run rfl)
        (stopsOpen_ite (stopsOpen_of_run rfl) (stopsOpen_of_run rfl))
  | deleteForwarding deletes =>
      refine stopsOpen_whenPresent fun value _ => ?_
      refine stopsOpen_bind_of_run (run_iptablesDnatForwardingRequest h) ?_
      refine stopsOpen_bind (stopsOpen_saveForwarding h _) fun _ _ _ => ?_
      exact stopsOpen_ite (stopsOpen_of_run rfl)
        (stopsOpen_ite (stopsOpen_of_run rfl) (stopsOpen_of_run rfl))
  | createDmz iptables =>
      refine stopsOpen_whenPresent fun value _ => ?_
      have hsave : iptableDnatDmzSaveToSettingFile value w =
          .ok (.success, storeDmz value w) := by
        apply run_of_wp
        unfold iptableDnatDmzSaveToSettingFile
        rw [wp_bind, wp_writeJson h]
        exact ⟨rfl, rfl⟩
      exact stopsOpen_saveThenRefresh hsave (h.store _ _)
  | createNova services =>
      refine stopsOpen_whenPresent fun value hvalue => ?_
      subst hvalue
      have hreturns : wp (iptableNovaServiceSet value) (fun _ _ => True) w := by
        rcases cvtIptableNovaServiceListToJson_of_carries hcarries with ⟨tree, htree⟩
        rw [wp_iptableNovaServiceSet h]
        exact ⟨tree, htree, trivial⟩
      rcases wp_iff.mp hreturns with ⟨_, _, hrun, _⟩
      exact stopsOpen_of_run hrun
  | scan running found =>
      cases running with
      | false => exact stopsOpen_of_run rfl
      | true =>
          show StopsOpen (openWhile (field found) >>= fun _ => pure ()) w
          exact stopsOpen_bind (stopsOpen_scan h found) fun _ _ _ => stopsOpen_of_run rfl

end

/-- A request that stops before the firewall is rebuilt leaves the router open for
every packet. -/
theorem accepts_of_stopped {π : Type} {net : Netfilter π} {w w' : World}
    {request : FirewallRequest} {fault : Fault} (h : Healthy w.files)
    (hcarries : request.Carries) (hstop : request.exec w = .error (fault, w'))
    (packet : π) : net.accepts w'.firewall .input packet = true :=
  (stopsOpen_exec h hcarries fault w' hstop).accepts

/-- A scan that finds no socket. -/
theorem accepts_of_stopped_scan :
    exists w', (FirewallRequest.scan true none).exec (refreshed World.installed) =
        .error (.nullField, w') ∧
      netOfTests.accepts w'.firewall .input httpsPacket = true := by
  have hcarries : (FirewallRequest.scan true none).Carries := trivial
  exact ⟨_, rfl, accepts_of_stopped healthy_installed hcarries rfl httpsPacket⟩

end Network
end Noc
