import Noc.Mesh.Reconciliation

/-!
# The devices that are on after a poll

How many entries a poll leaves on, counted from the topology and the stored
list.  All controller entries go on, however many there are; an agent goes on
unless its entry is marked as deleted; and an agent's entry with the
controller's mac stays as it was.
-/

namespace Noc
namespace Mesh

open Foundation
open Foundation.Exec

def isOn (entry : DeviceInfo) : Bool :=
  entry.status = deviceOn

/-!
## What is counted in the stored list
-/

/-- An entry of no controller with this mac. -/
def isAgentEntry (mac : Option String) (entry : DeviceInfo) : Bool :=
  !isController entry && entry.mac = mac

/-- An entry of no controller with the mac of one of the agents. -/
def answersFor (agents : List DeviceInfo) (entry : DeviceInfo) : Bool :=
  agents.any fun agent => isAgentEntry agent.mac entry

def nbController (stored : List DeviceInfo) : Nat :=
  stored.countP isController

/-- Entries that are on with the controller's mac but not its role. -/
def nbDisguised (controller : DeviceInfo) (stored : List DeviceInfo) : Nat :=
  stored.countP fun entry => isAgentEntry controller.mac entry && isOn entry

def nbDeleted (agents stored : List DeviceInfo) : Nat :=
  stored.countP fun entry =>
    answersFor agents entry && entry.status = deviceDeleted

/-!
## Counting
-/

section

variable {α : Type} [BEq α] [LawfulBEq α]

/-- Of two lists without repetitions, each has as many entries in the other. -/
theorem countP_mem_comm {xs ys : List α} (hxs : xs.Nodup) (hys : ys.Nodup) :
    xs.countP (fun x => x ∈ ys) = ys.countP fun y => y ∈ xs := by
  rw [List.countP_eq_length_filter, List.countP_eq_length_filter]
  apply List.Perm.length_eq
  rw [List.perm_ext_iff_of_nodup (hxs.filter _) (hys.filter _)]
  intro value
  rw [List.mem_filter, List.mem_filter, decide_eq_true_eq, decide_eq_true_eq]
  exact and_comm

end

section

variable {macLength : Nat} {controller agent entry : DeviceInfo}
variable {agents stored entries : List DeviceInfo}

theorem mac_refreshAgent (hagent : FixedMac macLength agent)
    (hentry : FixedMac macLength entry) :
    (refreshAgent agent entry).mac = entry.mac := by
  cases hmatch : matchesMac agent entry with
  | true =>
      rw [refreshAgent_of_matches hmatch]
      exact ((matchesMac_iff_of_fixedMac hagent hentry).mp hmatch).symm
  | false => rw [refreshAgent_of_not hmatch]

theorem any_matchesMac_iff (hagent : FixedMac macLength agent)
    (hentries : forall entry, entry ∈ entries -> FixedMac macLength entry) :
    entries.any (matchesMac agent) = true <-> agent.mac ∈ entries.map DeviceInfo.mac := by
  rw [List.any_eq_true, List.mem_map]
  apply exists_congr
  intro entry
  apply and_congr_right
  intro hentry
  exact matchesMac_iff_of_fixedMac hagent (hentries entry hentry)

/-- Agents leave the macs, so those that find no entry are those whose mac is
not stored. -/
theorem unmatchedAgents_eq (hroles : forall agent, agent ∈ agents ->
      isController agent = false)
    (hagents : forall agent, agent ∈ agents -> FixedMac macLength agent)
    (hentries : forall entry, entry ∈ entries -> FixedMac macLength entry) :
    unmatchedAgents agents entries =
      agents.filter fun agent => agent.mac ∉ entries.map DeviceInfo.mac := by
  induction agents generalizing entries with
  | nil => rfl
  | cons agent rest ih =>
      have hrole := hroles agent List.mem_cons_self
      have hfixed := hagents agent List.mem_cons_self
      have hmacs : (entries.map fun entry => refreshEntry entry agent).map
          DeviceInfo.mac = entries.map DeviceInfo.mac := by
        rw [List.map_map]
        apply List.map_congr_left
        intro entry hentry
        show (refreshEntry entry agent).mac = entry.mac
        rw [refreshEntry_of_agent hrole]
        exact mac_refreshAgent hfixed (hentries entry hentry)
      have hedited : forall entry,
          entry ∈ entries.map (fun entry => refreshEntry entry agent) ->
            FixedMac macLength entry := by
        intro edited hedited
        have hmem := List.mem_map_of_mem (f := DeviceInfo.mac) hedited
        rw [hmacs] at hmem
        rcases List.mem_map.mp hmem with ⟨entry, hentry, hsame⟩
        rcases hentries entry hentry with ⟨mac, hmac, hlength⟩
        exact ⟨mac, hsame ▸ hmac, hlength⟩
      have hlater := ih
        (fun other hother => hroles other (List.mem_cons_of_mem agent hother))
        (fun other hother => hagents other (List.mem_cons_of_mem agent hother))
        hedited
      rw [hmacs] at hlater
      unfold unmatchedAgents
      rw [hrole, Bool.false_or, hlater, List.filter_cons]
      have hiff := any_matchesMac_iff hfixed hentries
      by_cases hmem : agent.mac ∈ entries.map DeviceInfo.mac
      · rw [if_pos (hiff.mpr hmem), if_neg (by simpa using hmem)]
      · have hany : ¬ entries.any (matchesMac agent) = true :=
          fun hany => hmem (hiff.mp hany)
        rw [if_neg hany, if_pos (by simpa using hmem)]

/-!
## One entry
-/

/-- A topology: the controller first, then agents. -/
structure ControllerFirst (macLength : Nat) (controller : DeviceInfo)
    (agents : List DeviceInfo) : Prop where
  macs : DistinctMacs macLength (controller :: agents)
  controller : isController controller = true
  agents : forall agent, agent ∈ agents -> isController agent = false

namespace ControllerFirst

theorem fixed (h : ControllerFirst macLength controller agents)
    (hagent : agent ∈ agents) : FixedMac macLength agent :=
  h.macs.fixed agent (List.mem_cons_of_mem controller hagent)

theorem fixed_controller (h : ControllerFirst macLength controller agents) :
    FixedMac macLength controller :=
  h.macs.fixed controller List.mem_cons_self

theorem mac_ne (h : ControllerFirst macLength controller agents)
    (hagent : agent ∈ agents) : controller.mac ≠ agent.mac := by
  have hmacs := h.macs.macs
  rw [List.map_cons, List.nodup_cons] at hmacs
  intro heq
  apply hmacs.1
  rw [heq]
  exact List.mem_map_of_mem hagent

end ControllerFirst

theorem refreshEntryList_of_forall {polled : List DeviceInfo}
    (h : forall device, device ∈ polled -> refreshEntry entry device = entry) :
    refreshEntryList polled entry = entry := by
  apply foldl_invariant fun edited => edited = entry
  · intro edited device hdevice heq
    rw [heq]
    exact h device hdevice
  · rfl

/-- Agents leave an entry that has another mac. -/
theorem refreshEntryList_of_mac_ne (h : ControllerFirst macLength controller agents)
    (hentry : FixedMac macLength entry)
    (hne : forall agent, agent ∈ agents -> entry.mac ≠ agent.mac) :
    refreshEntryList agents entry = entry := by
  apply refreshEntryList_of_forall
  intro agent hagent
  rw [refreshEntry_of_agent (h.agents agent hagent)]
  apply refreshAgent_of_not
  rw [Bool.eq_false_iff]
  intro hmatch
  exact hne agent hagent
    ((matchesMac_iff_of_fixedMac (h.fixed hagent) hentry).mp hmatch)

theorem refreshEntryList_cons_of_agent (h : ControllerFirst macLength controller agents)
    (hrole : isController entry = false) :
    refreshEntryList (controller :: agents) entry = refreshEntryList agents entry := by
  unfold refreshEntryList
  rw [List.foldl_cons, refreshEntry_of_controller h.controller,
    refreshController_of_not hrole]

/-- An entry that is no controller's stays so and keeps its mac. -/
theorem refreshEntryList_keeps (h : ControllerFirst macLength controller agents)
    (hentry : FixedMac macLength entry) (hrole : isController entry = false) :
    (refreshEntryList (controller :: agents) entry).mac = entry.mac ∧
      isController (refreshEntryList (controller :: agents) entry) = false := by
  rw [refreshEntryList_cons_of_agent h hrole]
  apply foldl_invariant fun edited : DeviceInfo =>
    edited.mac = entry.mac ∧ isController edited = false
  · intro edited agent hagent hkept
    have hedited : FixedMac macLength edited := by
      rcases hentry with ⟨mac, hmac, hlength⟩
      exact ⟨mac, hkept.1.trans hmac, hlength⟩
    rw [refreshEntry_of_agent (h.agents agent hagent)]
    constructor
    · rw [mac_refreshAgent (h.fixed hagent) hedited]
      exact hkept.1
    · exact isController_refreshAgent (h.agents agent hagent) hkept.2
  · exact ⟨rfl, hrole⟩

theorem refreshEntryList_of_controller (h : ControllerFirst macLength controller agents)
    (hrole : isController entry = true) :
    refreshEntryList (controller :: agents) entry =
      { refresh controller entry with status := deviceOn } := by
  have hfirst : refreshEntry entry controller =
      { refresh controller entry with status := deviceOn } := by
    rw [refreshEntry_of_controller h.controller]
    simp [refreshController, hrole]
  have hsplit : refreshEntryList (controller :: agents) entry =
      refreshEntryList agents (refreshEntry entry controller) := rfl
  rw [hsplit, hfirst]
  apply refreshEntryList_of_mac_ne h
  · exact h.fixed_controller
  · intro agent hagent
    exact h.mac_ne hagent

theorem isAgentEntry_iff {mac : Option String} :
    isAgentEntry mac entry = true <-> isController entry = false ∧ entry.mac = mac := by
  simp [isAgentEntry]

theorem answersFor_iff : answersFor agents entry = true <->
    isController entry = false ∧
      exists agent, agent ∈ agents ∧ entry.mac = agent.mac := by
  unfold answersFor
  rw [List.any_eq_true]
  constructor
  · intro h
    cases h with
    | intro agent hagent =>
        have hentry := isAgentEntry_iff.mp hagent.2
        exact ⟨hentry.1, agent, hagent.1, hentry.2⟩
  · intro h
    rcases h with ⟨hrole, agent, hagent, hmac⟩
    exact ⟨agent, hagent, isAgentEntry_iff.mpr ⟨hrole, hmac⟩⟩

theorem isOn_of_controller (h : ControllerFirst macLength controller agents)
    (hrole : isController entry = true) :
    isOn (turnOff (controller :: agents)
      (refreshEntryList (controller :: agents) entry)) = true := by
  rw [refreshEntryList_of_controller h hrole]
  have hkept : isController
      { refresh controller entry with status := deviceOn } = true := hrole
  simp [turnOff, hkept, isOn]

theorem isOn_of_agent (h : ControllerFirst macLength controller agents)
    (hentry : FixedMac macLength entry) (hrole : isController entry = false)
    (hagent : agent ∈ agents) (hmac : entry.mac = agent.mac) :
    isOn (turnOff (controller :: agents)
        (refreshEntryList (controller :: agents) entry)) =
      !decide (entry.status = deviceDeleted) := by
  have hstatus := (kept_turnOff h.macs hentry).status agent
    (List.mem_cons_of_mem controller hagent) (h.agents agent hagent)
  rw [turnOff_mac, (refreshEntryList_keeps h hentry hrole).1] at hstatus
  unfold isOn
  rw [hstatus hmac]
  by_cases hdeleted : entry.status = deviceDeleted
  · rw [if_pos hdeleted, decide_eq_true hdeleted]
    decide
  · rw [if_neg hdeleted, decide_eq_false hdeleted]
    decide

theorem isOn_of_disguised (h : ControllerFirst macLength controller agents)
    (hentry : FixedMac macLength entry) (hrole : isController entry = false)
    (hmac : entry.mac = controller.mac) :
    isOn (turnOff (controller :: agents)
        (refreshEntryList (controller :: agents) entry)) = isOn entry := by
  have hne : forall agent, agent ∈ agents -> entry.mac ≠ agent.mac := by
    intro agent hagent heq
    exact h.mac_ne hagent (hmac.symm.trans heq)
  rw [refreshEntryList_cons_of_agent h hrole,
    refreshEntryList_of_mac_ne h hentry hne,
    turnOff_of_reported List.mem_cons_self h.fixed_controller hmac]

theorem isOn_of_gone (h : ControllerFirst macLength controller agents)
    (hentry : FixedMac macLength entry) (hrole : isController entry = false)
    (hgone : forall device, device ∈ controller :: agents ->
      entry.mac ≠ device.mac) :
    isOn (turnOff (controller :: agents)
      (refreshEntryList (controller :: agents) entry)) = false := by
  have hkept := refreshEntryList_keeps h hentry hrole
  have hfixed : FixedMac macLength
      (refreshEntryList (controller :: agents) entry) :=
    (processed_refreshEntryList h.macs hentry).fixed
  have hstatus := status_turnOff_of_gone h.macs hfixed hkept.2
    (by
      rw [hkept.1]
      exact hgone)
  unfold isOn
  rw [hstatus]
  decide

/-- What an entry adds to either side. -/
theorem count_entry (h : ControllerFirst macLength controller agents)
    (hentry : FixedMac macLength entry) :
    (isOn (turnOff (controller :: agents)
        (refreshEntryList (controller :: agents) entry))).toNat +
      (answersFor agents entry && entry.status = deviceDeleted).toNat =
    (isController entry).toNat +
      (isAgentEntry controller.mac entry && isOn entry).toNat +
      (answersFor agents entry).toNat := by
  cases hrole : isController entry with
  | true =>
      have hnone : answersFor agents entry = false := by
        simp [answersFor, isAgentEntry, hrole]
      simp [isOn_of_controller h hrole, hnone, isAgentEntry, hrole]
  | false =>
      by_cases hagents : exists agent, agent ∈ agents ∧ entry.mac = agent.mac
      · have hanswers := answersFor_iff.mpr ⟨hrole, hagents⟩
        rcases hagents with ⟨agent, hagent, hmac⟩
        have hother : isAgentEntry controller.mac entry = false := by
          rw [Bool.eq_false_iff]
          intro hsame
          exact h.mac_ne hagent ((isAgentEntry_iff.mp hsame).2.symm.trans hmac)
        rw [isOn_of_agent h hentry hrole hagent hmac, hanswers, hother]
        by_cases hdeleted : entry.status = deviceDeleted <;> simp [hdeleted]
      · have hanswers : answersFor agents entry = false := by
          rw [Bool.eq_false_iff]
          intro hanswers
          exact hagents (answersFor_iff.mp hanswers).2
        rw [hanswers]
        by_cases hmac : entry.mac = controller.mac
        · rw [isOn_of_disguised h hentry hrole hmac,
            isAgentEntry_iff.mpr ⟨hrole, hmac⟩]
          simp
        · have hgone : forall device, device ∈ controller :: agents ->
              entry.mac ≠ device.mac := by
            intro device hdevice heq
            cases List.mem_cons.mp hdevice with
            | inl hfirst =>
                rw [hfirst] at heq
                exact hmac heq
            | inr hagent => exact hagents ⟨device, hagent, heq⟩
          have hother : isAgentEntry controller.mac entry = false := by
            rw [Bool.eq_false_iff]
            intro hsame
            exact hmac (isAgentEntry_iff.mp hsame).2
          rw [isOn_of_gone h hentry hrole hgone, hother]
          rfl

/-!
## The whole list
-/

theorem countP_cons_toNat {α : Type} (p : α -> Bool) (value : α) (rest : List α) :
    (value :: rest).countP p = rest.countP p + (p value).toNat := by
  rw [List.countP_cons]
  cases p value <;> rfl

theorem countP_polled (h : ControllerFirst macLength controller agents)
    (hstored : forall entry, entry ∈ stored -> FixedMac macLength entry) :
    (stored.countP fun entry => isOn (turnOff (controller :: agents)
        (refreshEntryList (controller :: agents) entry))) +
      nbDeleted agents stored =
    nbController stored + nbDisguised controller stored +
      stored.countP (answersFor agents) := by
  unfold nbDeleted nbController nbDisguised
  induction stored with
  | nil => rfl
  | cons entry rest ih =>
      have hrest := ih fun other hother =>
        hstored other (List.mem_cons_of_mem entry hother)
      have hentry := count_entry h (hstored entry List.mem_cons_self)
      simp only [countP_cons_toNat]
      omega

/-- The macs of the entries that are no controller's. -/
def agentEntryMacs (stored : List DeviceInfo) : List (Option String) :=
  (stored.filter fun entry => !isController entry).map DeviceInfo.mac

theorem unmatchedAgents_cons (h : ControllerFirst macLength controller agents)
    (hstored : forall entry, entry ∈ stored -> FixedMac macLength entry) :
    unmatchedAgents (controller :: agents) stored =
      agents.filter fun agent => agent.mac ∉ agentEntryMacs stored := by
  have hedited : forall entry,
      entry ∈ stored.map (fun entry => refreshEntry entry controller) ->
        FixedMac macLength entry := by
    intro edited hedited
    rcases List.mem_map.mp hedited with ⟨entry, hentry, rfl⟩
    rw [refreshEntry_of_controller h.controller]
    unfold refreshController
    split
    · exact h.fixed_controller
    · exact hstored entry hentry
  have hfirst : unmatchedAgents (controller :: agents) stored =
      unmatchedAgents agents
        (stored.map fun entry => refreshEntry entry controller) := by
    conv => lhs; unfold unmatchedAgents
    rw [h.controller, Bool.true_or, if_pos rfl]
  rw [hfirst, unmatchedAgents_eq h.agents (fun agent hagent => h.fixed hagent)
    hedited]
  apply List.filter_congr
  intro agent hagent
  rw [decide_eq_decide, not_iff_not]
  unfold agentEntryMacs
  rw [List.mem_map, List.mem_map]
  constructor
  · intro hsome
    rcases hsome with ⟨edited, hmem, hmac⟩
    rcases List.mem_map.mp hmem with ⟨entry, hentry, rfl⟩
    rw [refreshEntry_of_controller h.controller] at hmac
    cases hrole : isController entry with
    | true =>
        apply absurd _ (h.mac_ne hagent)
        rw [← hmac]
        simp [refreshController, hrole, refresh]
    | false =>
        rw [refreshController_of_not hrole] at hmac
        exact ⟨entry, List.mem_filter.mpr ⟨hentry, by simp [hrole]⟩, hmac⟩
  · intro hsome
    rcases hsome with ⟨entry, hmem, hmac⟩
    rcases List.mem_filter.mp hmem with ⟨hentry, hrole⟩
    refine ⟨_, List.mem_map_of_mem hentry, ?_⟩
    rw [refreshEntry_of_controller h.controller,
      refreshController_of_not (by simpa using hrole)]
    exact hmac

theorem countP_answersFor (h : ControllerFirst macLength controller agents)
    (hstored : (stored.map DeviceInfo.mac).Nodup) :
    stored.countP (answersFor agents) =
      agents.countP fun agent => agent.mac ∈ agentEntryMacs stored := by
  have hagents : (agents.map DeviceInfo.mac).Nodup := by
    have hmacs := h.macs.macs
    rw [List.map_cons, List.nodup_cons] at hmacs
    exact hmacs.2
  have hentries : (agentEntryMacs stored).Nodup :=
    hstored.sublist (List.filter_sublist.map _)
  have hleft : stored.countP (answersFor agents) =
      (agentEntryMacs stored).countP fun mac => mac ∈ agents.map DeviceInfo.mac := by
    unfold agentEntryMacs
    rw [List.countP_map, List.countP_filter]
    apply List.countP_congr
    intro entry _
    rw [answersFor_iff, Function.comp_apply, Bool.and_eq_true,
      decide_eq_true_eq, List.mem_map, Bool.not_eq_true', and_comm]
    apply and_congr_left
    intro _
    apply exists_congr
    intro agent
    exact and_congr_right fun _ => eq_comm
  have hright : (agents.countP fun agent => agent.mac ∈ agentEntryMacs stored) =
      (agents.map DeviceInfo.mac).countP fun mac => mac ∈ agentEntryMacs stored := by
    rw [List.countP_map]
    rfl
  rw [hleft, hright, countP_mem_comm hentries hagents]

/-- The agents nobody answers for and the entries that answer are the agents. -/
theorem length_unmatchedAgents (h : ControllerFirst macLength controller agents)
    (hstored : DistinctMacs macLength stored) :
    (unmatchedAgents (controller :: agents) stored).length +
      stored.countP (answersFor agents) = agents.length := by
  rw [unmatchedAgents_cons h hstored.fixed, countP_answersFor h hstored.macs,
    ← List.countP_eq_length_filter, Nat.add_comm]
  have htotal := List.length_eq_countP_add_countP
    (l := agents) fun agent => decide (agent.mac ∈ agentEntryMacs stored)
  rw [htotal]
  simp

theorem nbOn_pollDeviceList (h : ControllerFirst macLength controller agents)
    (hstored : DistinctMacs macLength stored) :
    ((pollDeviceList (controller :: agents) stored).filter isOn).length +
      nbDeleted agents stored =
    nbController stored + nbDisguised controller stored + agents.length := by
  have hnew : forall agent, agent ∈ unmatchedAgents (controller :: agents) stored ->
      isOn (turnOff (controller :: agents) (newEntry agent)) = true := by
    intro agent hagent
    rw [turnOff_newEntry h.macs hagent]
    rfl
  have hkept := countP_polled h hstored.fixed
  have hadded := length_unmatchedAgents h hstored
  rw [pollDeviceList_eq h.macs.apart, ← List.countP_eq_length_filter,
    List.countP_append, List.countP_map, List.countP_map]
  have hall : (unmatchedAgents (controller :: agents) stored).countP
      (isOn ∘ fun agent => turnOff (controller :: agents) (newEntry agent)) =
        (unmatchedAgents (controller :: agents) stored).length :=
    List.countP_eq_length.mpr hnew
  rw [hall]
  have hsame : stored.countP (isOn ∘ fun entry => turnOff (controller :: agents)
      (refreshEntryList (controller :: agents) entry)) =
    stored.countP fun entry => isOn (turnOff (controller :: agents)
      (refreshEntryList (controller :: agents) entry)) := rfl
  omega

/-- The devices on after a poll are as many as those of the topology. -/
theorem nbOn_eq_iff (h : ControllerFirst macLength controller agents)
    (hstored : DistinctMacs macLength stored) :
    ((pollDeviceList (controller :: agents) stored).filter isOn).length =
        (controller :: agents).length <->
      nbController stored + nbDisguised controller stored =
        1 + nbDeleted agents stored := by
  have hcount := nbOn_pollDeviceList h hstored
  rw [List.length_cons]
  constructor
  · intro heq
    omega
  · intro heq
    omega

/-!
## Which macs the file holds afterwards
-/

/-- The device's mac contains that of an entry the poll leaves. -/
def remains (controller : DeviceInfo) (agents stored : List DeviceInfo)
    (device : DeviceInfo) : Bool :=
  stored.any (fun entry => !isController entry && matchesMac device entry) ||
    agents.any (matchesMac device) ||
    (stored.any isController && matchesMac device controller)

theorem matchesMac_congr {device other : DeviceInfo} (h : entry.mac = other.mac) :
    matchesMac device entry = matchesMac device other := by
  unfold matchesMac
  rw [h]

theorem any_matchesMac_pollDeviceList (h : ControllerFirst macLength controller agents)
    (hstored : forall entry, entry ∈ stored -> FixedMac macLength entry)
    (device : DeviceInfo) :
    (pollDeviceList (controller :: agents) stored).any (matchesMac device) =
      remains controller agents stored device := by
  have hreconciled := reconciled_pollDeviceList h.macs hstored
  have hagent : forall entry, entry ∈ stored -> isController entry = false ->
      (turnOff (controller :: agents)
        (refreshEntryList (controller :: agents) entry)).mac = entry.mac := by
    intro entry hentry hrole
    rw [turnOff_mac]
    exact (refreshEntryList_keeps h (hstored entry hentry) hrole).1
  have hcontroller : forall entry, entry ∈ stored -> isController entry = true ->
      (turnOff (controller :: agents)
        (refreshEntryList (controller :: agents) entry)).mac = controller.mac := by
    intro entry _ hrole
    rw [turnOff_mac, refreshEntryList_of_controller h hrole]
    rfl
  have hmem : forall entry, entry ∈ stored ->
      turnOff (controller :: agents)
        (refreshEntryList (controller :: agents) entry) ∈
          pollDeviceList (controller :: agents) stored := by
    intro entry hentry
    rw [pollDeviceList_eq h.macs.apart]
    exact List.mem_append_left _ (List.mem_map_of_mem hentry)
  unfold remains
  rw [Bool.eq_iff_iff, Bool.or_eq_true, Bool.or_eq_true, Bool.and_eq_true]
  simp only [List.any_eq_true, Bool.and_eq_true, Bool.not_eq_true']
  constructor
  · intro hfound
    rcases hfound with ⟨found, hfound, hmatch⟩
    rw [pollDeviceList_eq h.macs.apart] at hfound
    cases List.mem_append.mp hfound with
    | inl hkept =>
        rcases List.mem_map.mp hkept with ⟨entry, hentry, rfl⟩
        cases hrole : isController entry with
        | false =>
            rw [matchesMac_congr (hagent entry hentry hrole)] at hmatch
            exact Or.inl (Or.inl ⟨entry, hentry, hrole, hmatch⟩)
        | true =>
            rw [matchesMac_congr (hcontroller entry hentry hrole)] at hmatch
            exact Or.inr ⟨⟨entry, hentry, hrole⟩, hmatch⟩
    | inr hadded =>
        rcases List.mem_map.mp hadded with ⟨agent, hnew, rfl⟩
        rcases mem_of_mem_unmatchedAgents hnew with ⟨hpolled, hrole⟩
        cases List.mem_cons.mp hpolled with
        | inl heq =>
            rw [heq, h.controller] at hrole
            cases hrole
        | inr hagent =>
            rw [turnOff_newEntry h.macs hnew] at hmatch
            exact Or.inl (Or.inr ⟨agent, hagent, hmatch⟩)
  · intro hremains
    rcases hremains with (hentry | hagents) | hfirst
    · rcases hentry with ⟨entry, hentry, hrole, hmatch⟩
      refine ⟨_, hmem entry hentry, ?_⟩
      rw [matchesMac_congr (hagent entry hentry hrole)]
      exact hmatch
    · rcases hagents with ⟨agent, hagent, hmatch⟩
      rcases hreconciled.stands agent (List.mem_cons_of_mem controller hagent)
        (h.agents agent hagent) with ⟨entry, hentry, hmac⟩
      refine ⟨entry, hentry, ?_⟩
      rw [matchesMac_congr hmac]
      exact hmatch
    · rcases hfirst with ⟨⟨entry, hentry, hrole⟩, hmatch⟩
      refine ⟨_, hmem entry hentry, ?_⟩
      rw [matchesMac_congr (hcontroller entry hentry hrole)]
      exact hmatch

end

end Mesh
end Noc
