import Noc.Mesh.Reconciliation
import Noc.Mesh.TopologyBlocks

/-!
# Polling an unchanged mesh

What a second poll with the same devices does.  An agent without a mac finds no
entry and is appended by every poll, and an agent whose mac contains another
agent's takes that one's entry over, so that the next poll appends it again.
Without either, the first poll leaves an entry for every agent and nothing for
the second one to do.
-/

namespace Noc
namespace Mesh

open Foundation
open Foundation.Exec

/-- The second poll leaves the file the first one left. -/
def PollsOnce (polled : List DeviceInfo) (w : World) : Prop :=
  wp (updateDeviceListToFileFromEmtDevice polled)
    (fun _ once =>
      wp (updateDeviceListToFileFromEmtDevice polled)
        (fun _ twice =>
          twice.files.content .meshDevices = once.files.content .meshDevices)
        once)
    w

/-- Every agent has a mac, and none that contains another agent's mac. -/
structure Steady (polled : List DeviceInfo) : Prop where
  macs : forall agent, agent ∈ polled -> isController agent = false ->
    agent.mac ≠ none
  apart : forall agent, agent ∈ polled -> isController agent = false ->
    forall other, other ∈ polled -> isController other = false ->
      matchesMac agent other = true -> other.mac = agent.mac

section

variable {polled rest entries stored : List DeviceInfo}
variable {device agent entry : DeviceInfo} {w : World}

theorem pollsOnce_iff (h : Healthy w.files) (polled : List DeviceInfo) :
    PollsOnce polled w <->
      pollDeviceList polled (pollDeviceList polled (storedDevices w)) =
        pollDeviceList polled (storedDevices w) := by
  have honce := healthy_storeDevices h (pollDeviceList polled (storedDevices w))
  unfold PollsOnce
  rw [wp_of_run (run_updateDeviceListToFileFromEmtDevice h polled),
    wp_of_run (run_updateDeviceListToFileFromEmtDevice honce polled),
    storedDevices_storeDevices]
  constructor
  · intro hcontent
    have hjson := congrArg
      (fun body => cvtJsonToDeviceList (Option.bind body Utils.Body.parse)) hcontent
    exact (storedDevices_storeDevices _ _).symm.trans
      (hjson.trans (storedDevices_storeDevices _ _))
  · intro heq
    rw [heq]
    simp [storeDevices, World.storeJson, Utils.store]

/-!
## Macs along a poll

An entry that is no controller stays none, and its mac only grows.
-/

def Grows (mac mac' : Option String) : Prop :=
  mac = mac' ∨ appStrstr mac' mac = true

theorem Grows.trans {mac mac' mac'' : Option String} (h : Grows mac mac')
    (h' : Grows mac' mac'') : Grows mac mac'' := by
  cases h with
  | inl heq =>
      rw [heq]
      exact h'
  | inr hfound =>
      cases h' with
      | inl heq =>
          rw [← heq]
          exact Or.inr hfound
      | inr hfound' => exact Or.inr (appStrstr_trans hfound' hfound)

theorem Grows.antisymm {mac mac' : Option String} (h : Grows mac mac')
    (h' : Grows mac' mac) : mac = mac' := by
  cases h with
  | inl heq => exact heq
  | inr hfound =>
      cases h' with
      | inl heq => exact heq.symm
      | inr hfound' =>
          rcases appStrstr_eq_true.mp hfound with ⟨t, n, rfl, rfl, hoccurs⟩
          rcases appStrstr_eq_true.mp hfound' with ⟨_, _, hn, ht, hoccurs'⟩
          cases hn
          cases ht
          have hlength := strstr_length_le hoccurs
          have hlength' := strstr_length_le hoccurs'
          rw [(strstr_eq_of_length (by omega)).mp hoccurs]

theorem isController_refreshEntry (hentry : isController entry = false)
    (device : DeviceInfo) : isController (refreshEntry entry device) = false := by
  cases hrole : isController device with
  | true =>
      rw [refreshEntry_of_controller hrole, refreshController_of_not hentry]
      exact hentry
  | false =>
      rw [refreshEntry_of_agent hrole]
      exact isController_refreshAgent hrole hentry

theorem isController_refreshEntryList (hentry : isController entry = false)
    (polled : List DeviceInfo) :
    isController (refreshEntryList polled entry) = false := by
  induction polled generalizing entry with
  | nil => exact hentry
  | cons device rest ih => exact ih (isController_refreshEntry hentry device)

theorem grows_refreshEntry (hentry : isController entry = false)
    (device : DeviceInfo) : Grows entry.mac (refreshEntry entry device).mac := by
  cases hrole : isController device with
  | true =>
      rw [refreshEntry_of_controller hrole, refreshController_of_not hentry]
      exact Or.inl rfl
  | false =>
      rw [refreshEntry_of_agent hrole]
      cases hmatch : matchesMac device entry with
      | true =>
          rw [refreshAgent_of_matches hmatch]
          exact Or.inr hmatch
      | false =>
          rw [refreshAgent_of_not hmatch]
          exact Or.inl rfl

theorem grows_refreshEntryList (hentry : isController entry = false)
    (polled : List DeviceInfo) :
    Grows entry.mac (refreshEntryList polled entry).mac := by
  induction polled generalizing entry with
  | nil => exact Or.inl rfl
  | cons device rest ih =>
      exact (grows_refreshEntry hentry device).trans
        (ih (isController_refreshEntry hentry device))

/-!
## A poll that appends nothing
-/

/-- An entry an agent's mac is in already stays so. -/
theorem Steady.mac_refreshEntry (h : Steady polled) (hagent : agent ∈ polled)
    (hagentRole : isController agent = false) (hdevice : device ∈ polled)
    (hentry : isController entry = false) (hmac : entry.mac = agent.mac) :
    (refreshEntry entry device).mac = agent.mac := by
  cases hrole : isController device with
  | true =>
      rw [refreshEntry_of_controller hrole, refreshController_of_not hentry]
      exact hmac
  | false =>
      rw [refreshEntry_of_agent hrole]
      cases hmatch : matchesMac device entry with
      | true =>
          rw [refreshAgent_of_matches hmatch]
          unfold matchesMac at hmatch
          rw [hmac] at hmatch
          exact (h.apart device hdevice hrole agent hagent hagentRole hmatch).symm
      | false =>
          rw [refreshAgent_of_not hmatch]
          exact hmac

theorem Steady.mac_refreshEntryList (h : Steady polled) (hagent : agent ∈ polled)
    (hagentRole : isController agent = false) (hrest : rest ⊆ polled)
    (hentry : isController entry = false) (hmac : entry.mac = agent.mac) :
    (refreshEntryList rest entry).mac = agent.mac := by
  induction rest generalizing entry with
  | nil => exact hmac
  | cons device rest ih =>
      rw [List.cons_subset] at hrest
      exact ih hrest.2 (isController_refreshEntry hentry device)
        (h.mac_refreshEntry hagent hagentRole hrest.1 hentry hmac)

theorem matchesMac_of_mac (hmac : entry.mac = agent.mac) (hne : agent.mac ≠ none) :
    matchesMac agent entry = true := by
  unfold matchesMac
  rw [hmac]
  exact appStrstr_self hne

/-- Every agent has an entry that is no controller's. -/
def Answered (polled entries : List DeviceInfo) : Prop :=
  forall agent, agent ∈ polled -> isController agent = false ->
    exists entry, entry ∈ entries ∧ isController entry = false ∧
      entry.mac = agent.mac

theorem Answered.map_refreshEntry (h : Answered polled entries)
    (hsteady : Steady polled) (hdevice : device ∈ polled) :
    Answered polled (entries.map fun entry => refreshEntry entry device) := by
  intro agent hagent hrole
  rcases h agent hagent hrole with ⟨entry, hentry, hentryRole, hmac⟩
  exact ⟨_, List.mem_map_of_mem hentry, isController_refreshEntry hentryRole device,
    hsteady.mac_refreshEntry hagent hrole hdevice hentryRole hmac⟩

theorem Answered.any_matchesMac (h : Answered polled entries)
    (hsteady : Steady polled) (hagent : agent ∈ polled)
    (hrole : isController agent = false) :
    entries.any (matchesMac agent) = true := by
  rcases h agent hagent hrole with ⟨entry, hentry, _, hmac⟩
  rw [List.any_eq_true]
  exact ⟨entry, hentry, matchesMac_of_mac hmac (hsteady.macs agent hagent hrole)⟩

theorem foldl_pollDevice_of_answered (hsteady : Steady polled)
    (hrest : rest ⊆ polled) (h : Answered polled entries) :
    rest.foldl pollDevice entries = entries.map (refreshEntryList rest) := by
  induction rest generalizing entries with
  | nil => exact (List.map_id entries).symm
  | cons device rest ih =>
      rw [List.cons_subset] at hrest
      have hnone :
          (isController device || entries.any (matchesMac device)) = true := by
        cases hrole : isController device with
        | true => rfl
        | false => exact h.any_matchesMac hsteady hrest.1 hrole
      rw [List.foldl_cons, pollDevice_eq, hnone, if_pos rfl, List.append_nil,
        ih hrest.2 (h.map_refreshEntry hsteady hrest.1), List.map_map]
      rfl

/-!
## What the first poll leaves
-/

theorem Answered.pollDevice (h : Answered rest entries) (hsteady : Steady polled)
    (hrest : rest ⊆ polled) (hdevice : device ∈ polled) :
    Answered (rest ++ [device]) (Mesh.pollDevice entries device) := by
  rw [pollDevice_eq]
  intro agent hagent hrole
  cases List.mem_append.mp hagent with
  | inl hearlier =>
      rcases h agent hearlier hrole with ⟨entry, hentry, hentryRole, hmac⟩
      exact ⟨_, List.mem_append_left _ (List.mem_map_of_mem hentry),
        isController_refreshEntry hentryRole device,
        hsteady.mac_refreshEntry (hrest hearlier) hrole hdevice hentryRole hmac⟩
  | inr hlast =>
      rw [List.mem_singleton] at hlast
      subst hlast
      cases hany : entries.any (matchesMac agent) with
      | true =>
          rcases List.any_eq_true.mp hany with ⟨entry, hentry, hmatch⟩
          refine ⟨_, List.mem_append_left _ (List.mem_map_of_mem hentry), ?_⟩
          rw [refreshEntry_of_agent hrole, refreshAgent_of_matches hmatch]
          exact ⟨hrole, rfl⟩
      | false =>
          rw [hrole, if_neg (by decide)]
          exact ⟨newEntry agent, List.mem_append_right _ List.mem_cons_self, hrole,
            rfl⟩

theorem answered_foldl (hsteady : Steady polled) (hrest : rest ⊆ polled)
    (entries : List DeviceInfo) :
    Answered rest (rest.foldl pollDevice entries) := by
  induction rest using List.reverseRecOn with
  | nil =>
      intro agent hagent
      cases hagent
  | append_singleton rest device ih =>
      rw [List.append_subset, List.cons_subset] at hrest
      rw [List.foldl_append]
      exact (ih hrest.1).pollDevice hsteady hrest.1 hrest.2.1

/-- Of an entry with the agent's mac the agent leaves the same, whatever the
other agents did to it before. -/
theorem Steady.takeOver_refreshEntryList (h : Steady polled) (hagent : agent ∈ polled)
    (hagentRole : isController agent = false) (hrest : rest ⊆ polled)
    (hentry : isController entry = false) (hmac : entry.mac = agent.mac) :
    takeOver agent (refreshEntryList rest entry) = takeOver agent entry := by
  induction rest generalizing entry with
  | nil => rfl
  | cons device rest ih =>
      rw [List.cons_subset] at hrest
      have hnext := h.mac_refreshEntry hagent hagentRole hrest.1 hentry hmac
      have hstep :
          takeOver agent (refreshEntry entry device) = takeOver agent entry := by
        cases hrole : isController device with
        | true =>
            rw [refreshEntry_of_controller hrole, refreshController_of_not hentry]
        | false =>
            rw [refreshEntry_of_agent hrole]
            cases hmatch : matchesMac device entry with
            | true =>
                rw [refreshAgent_of_matches hmatch]
                by_cases hdeleted : entry.status = deviceDeleted
                · simp [takeOver, refresh, hdeleted]
                · simp [takeOver, refresh, hdeleted]
            | false => rw [refreshAgent_of_not hmatch]
      rw [← hstep]
      exact ih hrest.2 (isController_refreshEntry hentry device) hnext

/-- An entry these devices have nothing new to tell about. -/
def Unmoved (devices : List DeviceInfo) (entry : DeviceInfo) : Prop :=
  refreshEntryList devices entry = entry

theorem refreshEntryList_append (devices : List DeviceInfo)
    (device entry : DeviceInfo) :
    refreshEntryList (devices ++ [device]) entry =
      refreshEntry (refreshEntryList devices entry) device :=
  List.foldl_append

theorem Steady.unmoved_of_takeOver (h : Steady polled) (hrest : rest ⊆ polled)
    (hagent : agent ∈ polled) (hrole : isController agent = false)
    (hentry : isController entry = false) (hmac : entry.mac = agent.mac)
    (htaken : takeOver agent entry = entry) : Unmoved (rest ++ [agent]) entry := by
  have hkept := h.mac_refreshEntryList hagent hrole hrest hentry hmac
  have hmatch := matchesMac_of_mac hkept (h.macs agent hagent hrole)
  unfold Unmoved
  rw [refreshEntryList_append, refreshEntry_of_agent hrole,
    refreshAgent_of_matches hmatch,
    h.takeOver_refreshEntryList hagent hrole hrest hentry hmac, htaken]

theorem takeOver_takeOver (agent entry : DeviceInfo) :
    takeOver agent (takeOver agent entry) = takeOver agent entry := by
  by_cases hdeleted : entry.status = deviceDeleted
  · simp [takeOver, refresh, hdeleted]
  · simp [takeOver, refresh, hdeleted]

theorem takeOver_newEntry (agent : DeviceInfo) :
    takeOver agent (newEntry agent) = newEntry agent := rfl

theorem unmoved_pollDevice (hsteady : Steady polled) (hrest : rest ⊆ polled)
    (hagent : agent ∈ polled) (hrole : isController agent = false)
    (h : forall entry, entry ∈ entries -> Unmoved rest entry) :
    forall entry, entry ∈ pollDevice entries agent ->
      Unmoved (rest ++ [agent]) entry := by
  intro entry hentry
  rw [pollDevice_eq] at hentry
  cases List.mem_append.mp hentry with
  | inl hedited =>
      rcases List.mem_map.mp hedited with ⟨old, hold, rfl⟩
      rw [refreshEntry_of_agent hrole]
      cases hmatch : matchesMac agent old with
      | true =>
          rw [refreshAgent_of_matches hmatch]
          exact hsteady.unmoved_of_takeOver hrest hagent hrole hrole rfl
            (takeOver_takeOver agent old)
      | false =>
          rw [refreshAgent_of_not hmatch]
          unfold Unmoved
          rw [refreshEntryList_append, h old hold, refreshEntry_of_agent hrole,
            refreshAgent_of_not hmatch]
  | inr hadded =>
      split at hadded
      · cases hadded
      · rw [List.mem_singleton.mp hadded]
        exact hsteady.unmoved_of_takeOver hrest hagent hrole hrole rfl
          (takeOver_newEntry agent)

/-- A list that begins with a controller, and only begins with one. -/
def LedByController : List DeviceInfo -> Prop
  | [] => True
  | first :: agents =>
      isController first = true ∧
        forall agent, agent ∈ agents -> isController agent = false

theorem unmoved_refreshController (hrole : isController device = true)
    (entry : DeviceInfo) : Unmoved [device] (refreshController device entry) := by
  show refreshEntry (refreshController device entry) device = _
  rw [refreshEntry_of_controller hrole]
  cases hentry : isController entry with
  | true =>
      have hrefreshed : refreshController device entry =
          { refresh device entry with status := deviceOn } := if_pos hentry
      rw [hrefreshed]
      exact if_pos hentry
  | false => rw [refreshController_of_not hentry, refreshController_of_not hentry]

theorem unmoved_foldl (hsteady : Steady polled) (hfirst : LedByController polled)
    (stored : List DeviceInfo) :
    forall entry, entry ∈ polled.foldl pollDevice stored -> Unmoved polled entry := by
  cases polled with
  | nil => exact fun _ _ => rfl
  | cons first agents =>
      have hall : forall rest, rest ⊆ agents ->
          forall entry, entry ∈ (first :: rest).foldl pollDevice stored ->
            Unmoved (first :: rest) entry := by
        intro rest hrest
        induction rest using List.reverseRecOn with
        | nil =>
            intro entry hentry
            rw [List.foldl_cons, pollDevice, if_pos hfirst.1] at hentry
            rcases List.mem_map.mp hentry with ⟨old, _, rfl⟩
            exact unmoved_refreshController hfirst.1 old
        | append_singleton rest agent ih =>
            rw [List.append_subset, List.cons_subset] at hrest
            rw [← List.cons_append, List.foldl_append]
            exact unmoved_pollDevice hsteady
              (List.cons_subset_cons first hrest.1)
              (List.mem_cons_of_mem first hrest.2.1) (hfirst.2 agent hrest.2.1)
              (ih hrest.1)
      exact hall agents (List.Subset.refl agents)

/-!
## The second loop

What it turns off no agent took over, so that the second poll leaves it alone.
-/

theorem turnOff_turnOff (polled : List DeviceInfo) (entry : DeviceInfo) :
    turnOff polled (turnOff polled entry) = turnOff polled entry := by
  cases hrole : isController entry with
  | true => simp [turnOff, hrole]
  | false =>
      cases hany : polled.any (fun device => matchesMac entry device) with
      | true => simp [turnOff, hrole, hany]
      | false =>
          have hoff : turnOff polled entry = { entry with status := deviceOff } := by
            simp [turnOff, hrole, hany]
          rw [hoff]
          simp [turnOff, isController, matchesMac]

/-- An entry that some agent takes over ends with the mac of an agent. -/
theorem Steady.mac_of_matched (h : Steady polled) (hrest : rest ⊆ polled)
    (hentry : isController entry = false)
    (hmatched : exists agent, agent ∈ rest ∧ isController agent = false ∧
      matchesMac agent entry = true) :
    exists agent, agent ∈ rest ∧ isController agent = false ∧
      (refreshEntryList rest entry).mac = agent.mac := by
  induction rest generalizing entry with
  | nil =>
      rcases hmatched with ⟨agent, hagent, _⟩
      cases hagent
  | cons device rest ih =>
      rw [List.cons_subset] at hrest
      have hnext := isController_refreshEntry hentry device
      by_cases htaken : isController device = false ∧ matchesMac device entry = true
      · -- The first agent that takes it over leaves its mac for good.
        have hmac : (refreshEntry entry device).mac = device.mac := by
          rw [refreshEntry_of_agent htaken.1, refreshAgent_of_matches htaken.2]
          rfl
        have hkept : (refreshEntryList rest (refreshEntry entry device)).mac =
            device.mac :=
          h.mac_refreshEntryList hrest.1 htaken.1 hrest.2 hnext hmac
        exact ⟨device, List.mem_cons_self, htaken.1, hkept⟩
      · have hsame : refreshEntry entry device = entry := by
          cases hrole : isController device with
          | true =>
              rw [refreshEntry_of_controller hrole, refreshController_of_not hentry]
          | false =>
              rw [refreshEntry_of_agent hrole]
              apply refreshAgent_of_not
              rw [← Bool.not_eq_true]
              exact fun hmatch => htaken ⟨hrole, hmatch⟩
        have hlater : exists agent, agent ∈ rest ∧ isController agent = false ∧
            matchesMac agent (refreshEntry entry device) = true := by
          rw [hsame]
          rcases hmatched with ⟨agent, hagent, hrole, hmatch⟩
          cases List.mem_cons.mp hagent with
          | inl heq =>
              rw [heq] at hrole hmatch
              exact absurd ⟨hrole, hmatch⟩ htaken
          | inr hmem => exact ⟨agent, hmem, hrole, hmatch⟩
        rcases ih hrest.2 hnext hlater with ⟨agent, hagent, hrole, hmac⟩
        exact ⟨agent, List.mem_cons_of_mem device hagent, hrole, hmac⟩

theorem Steady.untouched_of_turnedOff (h : Steady polled) (hunmoved : Unmoved polled entry)
    (hentry : isController entry = false)
    (hnone : polled.any (fun device => matchesMac entry device) = false) :
    Untouched polled entry := by
  refine ⟨hentry, ?_⟩
  intro agent hagent hrole
  rw [← Bool.not_eq_true]
  intro hmatch
  rcases h.mac_of_matched (List.Subset.refl polled) hentry
    ⟨agent, hagent, hrole, hmatch⟩ with ⟨other, hother, hotherRole, hmac⟩
  rw [show refreshEntryList polled entry = entry from hunmoved] at hmac
  have hne := h.macs other hother hotherRole
  rw [List.any_eq_false] at hnone
  apply hnone other hother
  unfold matchesMac
  rw [hmac]
  exact appStrstr_self hne

theorem Steady.unmoved_turnOff (h : Steady polled) (hunmoved : Unmoved polled entry) :
    Unmoved polled (turnOff polled entry) := by
  cases hrole : isController entry with
  | true =>
      rw [show turnOff polled entry = entry by simp [turnOff, hrole]]
      exact hunmoved
  | false =>
      cases hany : polled.any (fun device => matchesMac entry device) with
      | true =>
          rw [show turnOff polled entry = entry by simp [turnOff, hrole, hany]]
          exact hunmoved
      | false =>
          have huntouched := h.untouched_of_turnedOff hunmoved hrole hany
          rw [show turnOff polled entry = { entry with status := deviceOff } by
            simp [turnOff, hrole, hany]]
          exact refreshEntryList_of_untouched ⟨huntouched.1, huntouched.2⟩

theorem Answered.map_turnOff (h : Answered polled entries) :
    Answered polled (entries.map (turnOff polled)) := by
  intro agent hagent hrole
  rcases h agent hagent hrole with ⟨entry, hentry, hentryRole, hmac⟩
  refine ⟨_, List.mem_map_of_mem hentry, ?_, ?_⟩
  · rw [isController_turnOff]
    exact hentryRole
  · rw [turnOff_mac]
    exact hmac

theorem pollDeviceList_of_steady (h : Steady polled) (hfirst : LedByController polled)
    (stored : List DeviceInfo) :
    pollDeviceList polled (pollDeviceList polled stored) =
      pollDeviceList polled stored := by
  have hself := List.Subset.refl polled
  have hanswered := (answered_foldl h hself stored).map_turnOff
  have hunmoved := unmoved_foldl h hfirst stored
  have hsame : forall entry, entry ∈ pollDeviceList polled stored ->
      turnOff polled (refreshEntryList polled entry) = entry := by
    intro entry hentry
    rcases List.mem_map.mp hentry with ⟨left, hleft, rfl⟩
    rw [show refreshEntryList polled (turnOff polled left) = turnOff polled left from
      h.unmoved_turnOff (hunmoved left hleft), turnOff_turnOff]
  calc pollDeviceList polled (pollDeviceList polled stored)
      = ((pollDeviceList polled stored).map (refreshEntryList polled)).map
          (turnOff polled) := by
        unfold pollDeviceList
        rw [foldl_pollDevice_of_answered h hself hanswered]
    _ = pollDeviceList polled stored := by
        rw [List.map_map]
        exact (List.map_congr_left hsame).trans (List.map_id _)

/-!
## What a second poll shows

A poll that changes nothing appends nothing, so every agent of it took over an
entry, which had the agent's mac before.
-/

theorem foldl_pollDevice_length_le (polled entries : List DeviceInfo) :
    entries.length <= (polled.foldl pollDevice entries).length := by
  induction polled generalizing entries with
  | nil => exact Nat.le_refl _
  | cons device rest ih =>
      have hstep : entries.length <= (pollDevice entries device).length := by
        rw [pollDevice_eq]
        simp
      exact hstep.trans (ih _)

theorem matchesMac_of_grows (hgrows : Grows entry.mac device.mac)
    (hmatch : matchesMac agent device = true) : matchesMac agent entry = true := by
  unfold matchesMac at hmatch ⊢
  cases hgrows with
  | inl heq =>
      rw [heq]
      exact hmatch
  | inr hfound => exact appStrstr_trans hmatch hfound

/-- A poll that appends nothing edits the entries where they stand, and each
agent takes one over. -/
theorem takenOver_of_length
    (h : (polled.foldl pollDevice entries).length = entries.length) :
    polled.foldl pollDevice entries = entries.map (refreshEntryList polled) ∧
      forall agent, agent ∈ polled -> isController agent = false ->
        exists entry, entry ∈ entries ∧
          isController (refreshEntryList polled entry) = false ∧
          (isController entry = false -> matchesMac agent entry = true) := by
  induction polled generalizing entries with
  | nil =>
      refine ⟨(List.map_id entries).symm, ?_⟩
      intro agent hagent
      cases hagent
  | cons device rest ih =>
      have hle := foldl_pollDevice_length_le rest (pollDevice entries device)
      rw [List.foldl_cons] at h ⊢
      rw [h] at hle
      have hnone :
          (isController device || entries.any (matchesMac device)) = true := by
        cases hcond : isController device || entries.any (matchesMac device) with
        | true => rfl
        | false =>
            rw [pollDevice_eq, hcond, if_neg Bool.false_ne_true, List.length_append,
              List.length_map, List.length_singleton] at hle
            omega
      have hstep : pollDevice entries device =
          entries.map fun entry => refreshEntry entry device := by
        rw [pollDevice_eq, hnone, if_pos rfl, List.append_nil]
      rw [hstep] at h ⊢
      rcases ih (h.trans (List.length_map _).symm) with ⟨hmap, htaken⟩
      constructor
      · rw [hmap, List.map_map]
        rfl
      · intro agent hagent hrole
        cases List.mem_cons.mp hagent with
        | inl heq =>
            subst heq
            rw [hrole, Bool.false_or, List.any_eq_true] at hnone
            rcases hnone with ⟨entry, hentry, hmatch⟩
            refine ⟨entry, hentry, ?_, fun _ => hmatch⟩
            have htakenRole : isController (refreshEntry entry agent) = false := by
              rw [refreshEntry_of_agent hrole, refreshAgent_of_matches hmatch]
              exact hrole
            exact isController_refreshEntryList htakenRole rest
        | inr hlater =>
            rcases htaken agent hlater hrole with ⟨edited, hedited, hend, hmatch⟩
            rcases List.mem_map.mp hedited with ⟨entry, hentry, rfl⟩
            refine ⟨entry, hentry, hend, ?_⟩
            intro hentryRole
            exact matchesMac_of_grows (grows_refreshEntry hentryRole device)
              (hmatch (isController_refreshEntry hentryRole device))

/-- An entry that keeps its mac has the mac of every agent that takes it over. -/
theorem mac_of_fixed (hentry : isController entry = false)
    (hfixed : (refreshEntryList polled entry).mac = entry.mac)
    (hagent : agent ∈ polled) (hrole : isController agent = false)
    (hmatch : matchesMac agent entry = true) : agent.mac = entry.mac := by
  induction polled generalizing entry with
  | nil => cases hagent
  | cons device rest ih =>
      have hnext := isController_refreshEntry hentry device
      have hlater : Grows (refreshEntry entry device).mac entry.mac := by
        rw [← hfixed]
        exact grows_refreshEntryList hnext rest
      have hmac := (grows_refreshEntry hentry device).antisymm hlater
      cases List.mem_cons.mp hagent with
      | inl heq =>
          subst heq
          rw [hmac, refreshEntry_of_agent hrole, refreshAgent_of_matches hmatch]
          rfl
      | inr hmem =>
          have hmatchNext : matchesMac agent (refreshEntry entry device) = true := by
            unfold matchesMac
            rw [← hmac]
            exact hmatch
          rw [hmac]
          exact ih hnext (hfixed.trans hmac) hmem hmatchNext

theorem steady_of_fixed (h : pollDeviceList polled entries = entries) :
    Steady polled := by
  have hlength : (polled.foldl pollDevice entries).length = entries.length := by
    have hall := congrArg List.length h
    unfold pollDeviceList at hall
    rw [List.length_map] at hall
    exact hall
  rcases takenOver_of_length hlength with ⟨hmap, htaken⟩
  have hfixed : forall entry, entry ∈ entries ->
      turnOff polled (refreshEntryList polled entry) = entry := by
    unfold pollDeviceList at h
    rw [hmap, List.map_map] at h
    exact List.map_inj_left.mp (h.trans (List.map_id entries).symm)
  -- The entry of an agent has its mac before and after.
  have hentry : forall agent, agent ∈ polled -> isController agent = false ->
      exists entry, matchesMac agent entry = true ∧
        forall other, other ∈ polled -> isController other = false ->
          matchesMac other entry = true -> other.mac = entry.mac := by
    intro agent hagent hrole
    rcases htaken agent hagent hrole with ⟨entry, hmem, hend, hmatch⟩
    have hentryRole : isController entry = false := by
      rw [← hfixed entry hmem, isController_turnOff]
      exact hend
    have hmac : (refreshEntryList polled entry).mac = entry.mac := by
      conv_rhs => rw [← hfixed entry hmem]
      rw [turnOff_mac]
    exact ⟨entry, hmatch hentryRole, fun other hother hotherRole hmatchOther =>
      mac_of_fixed hentryRole hmac hother hotherRole hmatchOther⟩
  constructor
  · intro agent hagent hrole hnone
    rcases hentry agent hagent hrole with ⟨entry, hmatch, _⟩
    unfold matchesMac at hmatch
    rw [hnone, appStrstr_none_left] at hmatch
    cases hmatch
  · intro agent hagent hrole other hother hotherRole hmatch
    rcases hentry other hother hotherRole with ⟨entry, hmatchEntry, hsame⟩
    have hmac := hsame other hother hotherRole hmatchEntry
    rw [hmac]
    apply (hsame agent hagent hrole _).symm
    unfold matchesMac
    rw [← hmac]
    exact hmatch

theorem LedByController.of_rolesInOrder {s : HandlerState} (h : RolesInOrder s) :
    LedByController s.deviceList := by
  unfold RolesInOrder at h
  cases hdevices : s.deviceList with
  | nil => exact trivial
  | cons first agents =>
      rw [hdevices] at h
      cases hcount : s.numberDevice with
      | zero =>
          rw [hcount] at h
          cases h
      | succ count =>
          rw [hcount, List.map_cons, roles, List.cons.injEq] at h
          constructor
          · unfold isController
            rw [h.1]
            decide
          · intro agent hagent
            have hrole : agent.role ∈ List.replicate count (some "agent") := by
              rw [← h.2]
              exact List.mem_map_of_mem hagent
            unfold isController
            rw [List.eq_of_mem_replicate hrole]
            decide

end

/-- Polling twice is polling once, whatever was stored, when every agent of the
answer has a mac that contains no other agent's. -/
theorem pollsOnce_iff_steady {w : World} (h : Healthy w.files)
    {startRecord5g startRecord2g : Bool} {topologyStr : Option String}
    {s : HandlerState}
    (hanswer : topologyHandler startRecord5g startRecord2g topologyStr = some s) :
    PollsOnce s.deviceList w <-> Steady s.deviceList := by
  rw [pollsOnce_iff h]
  constructor
  · exact steady_of_fixed
  · intro hsteady
    exact pollDeviceList_of_steady hsteady
      (LedByController.of_rolesInOrder (rolesInOrder_topologyHandler hanswer)) _

/-!
## A whole mesh and an answer that is cut off
-/

/-- The gateway and two agents with different macs. -/
theorem pollsOnce_iff_steady_meshAnswer :
    PollsOnce (gatewayTold :: agentsTold) pairedWorld := by
  have hsteady := pollsOnce_iff_steady healthy_pairedWorld topologyHandler_meshAnswer
  apply hsteady.mpr
  have hmacs : (gatewayTold :: agentsTold).all
      (fun agent => agent.mac.isSome) = true := by
    decide +kernel
  have hapart : (gatewayTold :: agentsTold).all (fun agent =>
      (gatewayTold :: agentsTold).all fun other =>
        !matchesMac agent other || other.mac == agent.mac) = true := by
    decide +kernel
  constructor
  · intro agent hagent _
    exact Option.isSome_iff_ne_none.mp (List.all_eq_true.mp hmacs agent hagent)
  · intro agent hagent _ other hother _ hmatches
    have hboth := List.all_eq_true.mp (List.all_eq_true.mp hapart agent hagent) other hother
    rw [hmatches] at hboth
    exact beq_iff_eq.mp hboth

def cutOffAnswer : String :=
  String.ofList (gatewayBlock.text ++ "QCA IEEE 1905.1 device: 02:00:00".toList)

theorem topologyHandler_cutOffAnswer :
    topologyHandler false false (some cutOffAnswer) =
      some ⟨[gatewayTold, { role := some "agent" }], 2, false, false⟩ := by
  have hround := topologyLoop_gatewayBlock "QCA IEEE 1905.1 device: 02:00:00".toList
  have hend : readFields devicePatternEntry ⟨[gatewayTold], 1, false, false⟩
      ('\n' :: "QCA IEEE 1905.1 device: 02:00:00".toList) =
        .returned ⟨[gatewayTold, { role := some "agent" }], 2, false, false⟩ := by
    decide +kernel
  rw [topologyHandler_some, cutOffAnswer, String.toList_ofList, hround]
  exact topologyLoop_of_returned hend

/-- The agent whose mac is cut off is appended by every poll. -/
theorem not_pollsOnce_of_cutOffAnswer :
    ¬ forall (w : World) (startRecord5g startRecord2g : Bool)
      (topologyStr : Option String) (s : HandlerState), Healthy w.files ->
        topologyHandler startRecord5g startRecord2g topologyStr = some s ->
          PollsOnce s.deviceList w := by
  intro hall
  have honce := hall pairedWorld false false _ _ healthy_pairedWorld
    topologyHandler_cutOffAnswer
  rw [pollsOnce_iff healthy_pairedWorld] at honce
  have hsteady := steady_of_fixed honce
  exact hsteady.macs { role := some "agent" } (by simp) (by decide) rfl

end Mesh
end Noc
