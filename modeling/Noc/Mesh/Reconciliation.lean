import Noc.Mesh.Requests

/-!
# Reconciling the device file with a topology

What one poll leaves in the device file.  Each polled device edits the stored
entries one by one and may append an entry of its own, so a poll is a map over
the stored entries followed by the agents none of them answered for.
-/

namespace Noc
namespace Mesh

open Foundation
open Foundation.Exec

/-!
## One entry
-/

/-- What a polled device does to one stored entry. -/
def refreshEntry (entry polled : DeviceInfo) : DeviceInfo :=
  if isController polled then refreshController polled entry
  else refreshAgent polled entry

def refreshEntryList (polled : List DeviceInfo) (entry : DeviceInfo) :
    DeviceInfo :=
  polled.foldl refreshEntry entry

/-- An agent's word on an entry with its mac. -/
def takeOver (agent entry : DeviceInfo) : DeviceInfo :=
  { refresh agent entry with
    role := agent.role
    status := if entry.status ≠ deviceDeleted then deviceOn else entry.status }

def newEntry (agent : DeviceInfo) : DeviceInfo :=
  { deviceInfoCopy agent with status := deviceOn }

/-- The agents that no entry matches when they are processed. -/
def unmatchedAgents : List DeviceInfo -> List DeviceInfo -> List DeviceInfo
  | [], _ => []
  | device :: rest, entries =>
      let later :=
        unmatchedAgents rest (entries.map fun entry => refreshEntry entry device)
      if isController device || entries.any (matchesMac device) then later
      else device :: later

/-- An entry none of these devices has anything to say about. -/
def Untouched (polled : List DeviceInfo) (entry : DeviceInfo) : Prop :=
  isController entry = false ∧
    forall device, device ∈ polled -> isController device = false ->
      matchesMac device entry = false

section

variable {polled rest entries stored : List DeviceInfo}
variable {device agent entry : DeviceInfo}

theorem refreshEntry_of_controller (h : isController device = true) :
    refreshEntry entry device = refreshController device entry := by
  simp [refreshEntry, h]

theorem refreshEntry_of_agent (h : isController device = false) :
    refreshEntry entry device = refreshAgent device entry := by
  simp [refreshEntry, h]

theorem refreshAgent_of_matches (h : matchesMac device entry = true) :
    refreshAgent device entry = takeOver device entry := by
  simp [refreshAgent, takeOver, h]

theorem isController_refreshAgent (hagent : isController device = false)
    (hentry : isController entry = false) :
    isController (refreshAgent device entry) = false := by
  unfold refreshAgent
  split
  · exact hagent
  · exact hentry

theorem Untouched.refreshEntry (h : Untouched (device :: rest) entry) :
    Mesh.refreshEntry entry device = entry := by
  cases hrole : isController device with
  | true =>
      rw [refreshEntry_of_controller hrole]
      exact refreshController_of_not h.1
  | false =>
      rw [refreshEntry_of_agent hrole]
      exact refreshAgent_of_not (h.2 device List.mem_cons_self hrole)

theorem Untouched.tail (h : Untouched (device :: rest) entry) :
    Untouched rest entry :=
  ⟨h.1, fun other hother => h.2 other (List.mem_cons_of_mem device hother)⟩

theorem refreshEntryList_of_untouched (h : Untouched polled entry) :
    refreshEntryList polled entry = entry := by
  unfold refreshEntryList
  induction polled with
  | nil => rfl
  | cons device rest ih =>
      rw [List.foldl_cons, h.refreshEntry]
      exact ih h.tail

/-!
## The whole loop
-/

/-- One step: every entry is edited where it stands, and an agent nobody answers
for goes to the end. -/
theorem pollDevice_eq (device : DeviceInfo) (entries : List DeviceInfo) :
    pollDevice entries device =
      entries.map (fun entry => refreshEntry entry device) ++
        if isController device || entries.any (matchesMac device) then []
        else [newEntry device] := by
  unfold pollDevice
  cases hrole : isController device with
  | true => simp [refreshEntry, hrole]
  | false =>
      cases hany : entries.any (matchesMac device) with
      | true => simp [refreshEntry, hrole]
      | false =>
          have hsame : entries.map (fun entry => refreshEntry entry device) =
              entries := by
            apply (List.map_congr_left _).trans (List.map_id entries)
            intro entry hentry
            rw [refreshEntry_of_agent hrole]
            have hnone : forall other, other ∈ entries ->
                matchesMac device other = false := by
              simpa using hany
            exact refreshAgent_of_not (hnone entry hentry)
          rw [hsame]
          simp [newEntry]

/-- No agent speaks for an earlier agent's entry. -/
def Apart (polled : List DeviceInfo) : Prop :=
  polled.Pairwise fun earlier later =>
    isController earlier = false -> isController later = false ->
      matchesMac later earlier = false

theorem untouched_newEntry (hagent : isController device = false)
    (hapart : Apart (device :: rest)) : Untouched rest (newEntry device) :=
  ⟨hagent, fun other hother hrole =>
    (List.pairwise_cons.mp hapart).1 other hother hagent hrole⟩

/-- The stored entries keep their places, the entries appended so far stay as
they are, and the agents still unanswered follow. -/
theorem foldl_pollDevice_append {added : List DeviceInfo} (hapart : Apart polled)
    (hadded : forall entry, entry ∈ added -> Untouched polled entry) :
    polled.foldl pollDevice (stored ++ added) =
      stored.map (refreshEntryList polled) ++ added ++
        (unmatchedAgents polled stored).map newEntry := by
  induction polled generalizing stored added with
  | nil =>
      have hsame : stored.map (refreshEntryList []) = stored := List.map_id stored
      rw [hsame]
      simp [unmatchedAgents]
  | cons device rest ih =>
      have hrest := (List.pairwise_cons.mp hapart).2
      have hlater : forall entry, entry ∈ added -> Untouched rest entry :=
        fun entry hentry => (hadded entry hentry).tail
      have hkept : added.map (fun entry => refreshEntry entry device) = added := by
        apply (List.map_congr_left _).trans (List.map_id added)
        intro entry hentry
        exact (hadded entry hentry).refreshEntry
      have hstored : stored.map (refreshEntryList (device :: rest)) =
          (stored.map fun entry => refreshEntry entry device).map
            (refreshEntryList rest) := by
        rw [List.map_map]
        rfl
      rw [List.foldl_cons, pollDevice_eq, List.map_append, hkept, hstored]
      unfold unmatchedAgents
      cases hrole : isController device with
      | true =>
          rw [Bool.true_or, Bool.true_or, if_pos rfl, if_pos rfl, List.append_nil]
          exact ih hrest hlater
      | false =>
          -- An entry appended earlier never answers.
          have hnone : added.any (matchesMac device) = false := by
            rw [List.any_eq_false]
            intro entry hentry
            simp [(hadded entry hentry).2 device List.mem_cons_self hrole]
          rw [List.any_append, hnone, Bool.or_false, Bool.false_or]
          cases hany : stored.any (matchesMac device) with
          | true =>
              rw [if_pos rfl, if_pos rfl, List.append_nil]
              exact ih hrest hlater
          | false =>
              rw [if_neg Bool.false_ne_true, if_neg Bool.false_ne_true,
                List.append_assoc, ih hrest]
              · simp
              · intro entry hentry
                cases List.mem_append.mp hentry with
                | inl hold => exact hlater entry hold
                | inr hlast =>
                    rw [List.mem_singleton.mp hlast]
                    exact untouched_newEntry hrole hapart

theorem pollDeviceList_eq (hapart : Apart polled) :
    pollDeviceList polled stored =
      stored.map (fun entry => turnOff polled (refreshEntryList polled entry)) ++
        (unmatchedAgents polled stored).map
          (fun agent => turnOff polled (newEntry agent)) := by
  have hloop : polled.foldl pollDevice (stored ++ []) = _ :=
    foldl_pollDevice_append hapart fun entry hentry => absurd hentry List.not_mem_nil
  rw [List.append_nil, List.append_nil] at hloop
  unfold pollDeviceList
  rw [hloop, List.map_append, List.map_map, List.map_map]
  rfl

theorem mem_of_mem_unmatchedAgents (h : agent ∈ unmatchedAgents polled stored) :
    agent ∈ polled ∧ isController agent = false := by
  induction polled generalizing stored with
  | nil => cases h
  | cons device rest ih =>
      unfold unmatchedAgents at h
      split at h
      · exact ⟨List.mem_cons_of_mem device (ih h).1, (ih h).2⟩
      · rename_i hnew
        cases List.mem_cons.mp h with
        | inl heq =>
            rw [Bool.not_eq_true, Bool.or_eq_false_iff] at hnew
            rw [heq]
            exact ⟨List.mem_cons_self, hnew.1⟩
        | inr hlater => exact ⟨List.mem_cons_of_mem device (ih hlater).1, (ih hlater).2⟩

/-- Each agent is appended or takes over a stored entry for good. -/
theorem unmatched_or_takesOver (hapart : Apart polled)
    (hagent : agent ∈ polled) (hrole : isController agent = false) :
    agent ∈ unmatchedAgents polled stored ∨
      exists entry old, entry ∈ stored ∧
        refreshEntryList polled entry = takeOver agent old := by
  induction polled generalizing stored with
  | nil => cases hagent
  | cons device rest ih =>
      have hrest := (List.pairwise_cons.mp hapart).2
      unfold unmatchedAgents
      cases List.mem_cons.mp hagent with
      | inl heq =>
          rw [← heq, hrole, Bool.false_or]
          cases hany : stored.any (matchesMac agent) with
          | false =>
              left
              rw [if_neg Bool.false_ne_true]
              exact List.mem_cons_self
          | true =>
              right
              cases List.any_eq_true.mp hany with
              | intro entry hentry =>
                  have huntouched : Untouched rest (takeOver agent entry) := by
                    rw [← heq] at hapart
                    exact untouched_newEntry hrole hapart
                  refine ⟨entry, entry, hentry.1, ?_⟩
                  unfold refreshEntryList
                  rw [List.foldl_cons, refreshEntry_of_agent hrole,
                    refreshAgent_of_matches hentry.2]
                  exact refreshEntryList_of_untouched huntouched
      | inr hlater =>
          have hih : agent ∈ unmatchedAgents rest
              (stored.map fun entry => refreshEntry entry device) ∨ _ :=
            ih hrest hlater
          cases hih with
          | inl hnew =>
              left
              split
              · exact hnew
              · exact List.mem_cons_of_mem device hnew
          | inr hsome =>
              right
              rcases hsome with ⟨edited, old, hedited, htaken⟩
              rcases List.mem_map.mp hedited with ⟨entry, hentry, rfl⟩
              exact ⟨entry, old, hentry, htaken⟩

end

/-!
## Distinct macs of one length

Under these a match is an equality of macs.
-/

def FixedMac (macLength : Nat) (device : DeviceInfo) : Prop :=
  exists mac, device.mac = some mac ∧ mac.length = macLength

structure DistinctMacs (macLength : Nat) (polled : List DeviceInfo) : Prop where
  macs : (polled.map DeviceInfo.mac).Nodup
  fixed : forall device, device ∈ polled -> FixedMac macLength device

section

variable {macLength : Nat} {polled before : List DeviceInfo}
variable {device agent old entry : DeviceInfo}

theorem matchesMac_iff_of_fixedMac (hdevice : FixedMac macLength device)
    (hentry : FixedMac macLength entry) :
    matchesMac device entry = true <-> entry.mac = device.mac := by
  rcases hdevice with ⟨mac, hmac, hlength⟩
  rcases hentry with ⟨other, hother, hotherLength⟩
  unfold matchesMac
  rw [hmac, hother]
  constructor
  · intro hmatch
    have htext : forall text, some mac = some text -> text.length = macLength := by
      intro text htext
      cases htext
      exact hlength
    have hneedle : forall text, some other = some text ->
        text.length = macLength := by
      intro text htext
      cases htext
      exact hotherLength
    exact eq_of_appStrstr htext hneedle hmatch
  · intro heq
    rw [heq]
    exact strstr_self mac

theorem DistinctMacs.apart (h : DistinctMacs macLength polled) : Apart polled := by
  have hmacs := List.pairwise_map.mp h.macs
  apply hmacs.imp_of_mem
  intro earlier later hearlier hlater hne _ _
  rw [Bool.eq_false_iff]
  intro hmatch
  exact hne ((matchesMac_iff_of_fixedMac (h.fixed later hlater)
    (h.fixed earlier hearlier)).mp hmatch)

/-- What the devices processed so far leave of a stored entry: the names, and
for each agent the agent's word on an entry that was its own. -/
structure Processed (macLength : Nat) (before : List DeviceInfo)
    (old entry : DeviceInfo) : Prop where
  hubId : entry.hubId = old.hubId
  ezmId : entry.ezmId = old.ezmId
  ezmVersion : entry.ezmVersion = old.ezmVersion
  ezmName : entry.ezmName = old.ezmName
  fixed : FixedMac macLength entry
  taken : forall agent, agent ∈ before -> isController agent = false ->
    entry.mac = agent.mac -> entry = takeOver agent old
  untold : entry.mac ∉ before.map DeviceInfo.mac -> entry = old

theorem processed_nil (h : FixedMac macLength old) : Processed macLength [] old old where
  hubId := rfl
  ezmId := rfl
  ezmVersion := rfl
  ezmName := rfl
  fixed := h
  taken := fun _ hagent => absurd hagent List.not_mem_nil
  untold := fun _ => rfl

/-- A device that leaves the entry as it is. -/
theorem Processed.skip (h : Processed macLength before old entry)
    (hother : isController device = false -> entry.mac ≠ device.mac) :
    Processed macLength (before ++ [device]) old entry where
  hubId := h.hubId
  ezmId := h.ezmId
  ezmVersion := h.ezmVersion
  ezmName := h.ezmName
  fixed := h.fixed
  taken := by
    intro agent hagent hrole hmac
    cases List.mem_append.mp hagent with
    | inl hearlier => exact h.taken agent hearlier hrole hmac
    | inr hlast =>
        rw [List.mem_singleton.mp hlast] at hrole hmac
        exact absurd hmac (hother hrole)
  untold := by
    intro hnone
    apply h.untold
    intro hmem
    apply hnone
    rw [List.map_append]
    exact List.mem_append_left _ hmem

theorem Processed.refreshController (h : Processed macLength before old entry)
    (hdevice : FixedMac macLength device)
    (hnew : device.mac ∉ before.map DeviceInfo.mac)
    (hrole : isController device = true) :
    Processed macLength (before ++ [device]) old
      { refresh device entry with status := deviceOn } where
  hubId := h.hubId
  ezmId := h.ezmId
  ezmVersion := h.ezmVersion
  ezmName := h.ezmName
  fixed := hdevice
  taken := by
    intro agent hagent hagentRole hmac
    cases List.mem_append.mp hagent with
    | inl hearlier =>
        apply absurd _ hnew
        rw [show device.mac = agent.mac from hmac]
        exact List.mem_map_of_mem hearlier
    | inr hlast =>
        rw [List.mem_singleton.mp hlast, hrole] at hagentRole
        cases hagentRole
  untold := by
    intro hnone
    apply absurd _ hnone
    rw [List.map_append]
    exact List.mem_append_right _ List.mem_cons_self

theorem Processed.refreshAgent (h : Processed macLength before old entry)
    (hdevice : FixedMac macLength device)
    (hnew : device.mac ∉ before.map DeviceInfo.mac)
    (hmac : entry.mac = device.mac) :
    Processed macLength (before ++ [device]) old (takeOver device entry) := by
  -- No device processed so far has this mac, so the entry is as it was stored.
  have hsame : entry = old := by
    apply h.untold
    rw [hmac]
    exact hnew
  rw [hsame]
  constructor
  · rfl
  · rfl
  · rfl
  · rfl
  · exact hdevice
  · intro agent hagent hagentRole hagentMac
    cases List.mem_append.mp hagent with
    | inl hearlier =>
        apply absurd _ hnew
        rw [show device.mac = agent.mac from hagentMac]
        exact List.mem_map_of_mem hearlier
    | inr hlast => rw [List.mem_singleton.mp hlast]
  · intro hnone
    apply absurd _ hnone
    rw [List.map_append]
    exact List.mem_append_right _ List.mem_cons_self

theorem Processed.step (h : Processed macLength before old entry)
    (hdevice : FixedMac macLength device)
    (hnew : device.mac ∉ before.map DeviceInfo.mac) :
    Processed macLength (before ++ [device]) old (refreshEntry entry device) := by
  cases hrole : isController device with
  | true =>
      rw [refreshEntry_of_controller hrole]
      unfold Mesh.refreshController
      split
      · exact h.refreshController hdevice hnew hrole
      · apply h.skip
        intro hagent
        rw [hrole] at hagent
        cases hagent
  | false =>
      rw [refreshEntry_of_agent hrole]
      have hiff := matchesMac_iff_of_fixedMac hdevice h.fixed
      cases hmatch : matchesMac device entry with
      | true =>
          rw [refreshAgent_of_matches hmatch]
          exact h.refreshAgent hdevice hnew (hiff.mp hmatch)
      | false =>
          rw [refreshAgent_of_not hmatch]
          apply h.skip
          intro _ hmac
          rw [hiff.mpr hmac] at hmatch
          cases hmatch

theorem processed_refreshEntryList (hpolled : DistinctMacs macLength polled)
    (hold : FixedMac macLength old) :
    Processed macLength polled old (refreshEntryList polled old) := by
  induction polled using List.reverseRecOn with
  | nil => exact processed_nil hold
  | append_singleton before device ih =>
      have hmacs := hpolled.macs
      rw [List.map_append, List.nodup_append] at hmacs
      have hbefore : DistinctMacs macLength before :=
        ⟨hmacs.1, fun other hother =>
          hpolled.fixed other (List.mem_append_left _ hother)⟩
      unfold refreshEntryList
      rw [List.foldl_append]
      apply (ih hbefore).step
      · exact hpolled.fixed device (List.mem_append_right _ List.mem_cons_self)
      · intro hmem
        exact hmacs.2.2 _ hmem _ List.mem_cons_self rfl

/-!
## The second loop
-/

theorem turnOff_of_reported (hdevice : device ∈ polled)
    (hfixed : FixedMac macLength device) (hmac : entry.mac = device.mac) :
    turnOff polled entry = entry := by
  rcases hfixed with ⟨mac, hdeviceMac, _⟩
  have hany : (polled.any fun other => matchesMac entry other) = true := by
    rw [List.any_eq_true]
    refine ⟨device, hdevice, ?_⟩
    unfold matchesMac
    rw [hmac, hdeviceMac]
    exact strstr_self mac
  simp [turnOff, hany]

theorem turnOff_eq_or (polled : List DeviceInfo) (entry : DeviceInfo) :
    turnOff polled entry = entry ∨
      turnOff polled entry = { entry with status := deviceOff } := by
  unfold turnOff
  split
  · exact Or.inl rfl
  · split
    · exact Or.inl rfl
    · exact Or.inr rfl

theorem turnOff_mac (polled : List DeviceInfo) (entry : DeviceInfo) :
    (turnOff polled entry).mac = entry.mac := by
  cases turnOff_eq_or polled entry with
  | inl hsame => rw [hsame]
  | inr hoff => rw [hoff]

theorem turnOff_role (polled : List DeviceInfo) (entry : DeviceInfo) :
    (turnOff polled entry).role = entry.role := by
  cases turnOff_eq_or polled entry with
  | inl hsame => rw [hsame]
  | inr hoff => rw [hoff]

theorem isController_turnOff (polled : List DeviceInfo) (entry : DeviceInfo) :
    isController (turnOff polled entry) = isController entry := by
  unfold isController
  rw [turnOff_role]

theorem status_turnOff_of_gone (hpolled : DistinctMacs macLength polled)
    (hentry : FixedMac macLength entry) (hrole : isController entry = false)
    (hgone : forall device, device ∈ polled -> entry.mac ≠ device.mac) :
    (turnOff polled entry).status = deviceOff := by
  have hnone : (polled.any fun device => matchesMac entry device) = false := by
    rw [List.any_eq_false]
    intro device hdevice hmatch
    exact hgone device hdevice ((matchesMac_iff_of_fixedMac hentry
      (hpolled.fixed device hdevice)).mp hmatch).symm
  simp [turnOff, hrole, hnone]

end

/-!
## What a poll leaves
-/

/-- The entry tells of the agent what the topology tells. -/
structure Reflects (agent entry : DeviceInfo) : Prop where
  mac : entry.mac = agent.mac
  role : entry.role = agent.role
  ip : entry.ip = agent.ip
  parentMac : entry.parentMac = agent.parentMac
  channelSelection5g : entry.channelSelection5g = agent.channelSelection5g
  channelSelection2g : entry.channelSelection2g = agent.channelSelection2g

/-- A stored entry keeps its names; with an agent's mac it is on unless it was
deleted. -/
structure Kept (polled : List DeviceInfo) (old entry : DeviceInfo) : Prop where
  hubId : entry.hubId = old.hubId
  ezmId : entry.ezmId = old.ezmId
  ezmVersion : entry.ezmVersion = old.ezmVersion
  ezmName : entry.ezmName = old.ezmName
  status : forall agent, agent ∈ polled -> isController agent = false ->
    entry.mac = agent.mac ->
      entry.status = if old.status = deviceDeleted then deviceDeleted else deviceOn

structure Reconciled (polled stored written : List DeviceInfo) : Prop where
  entries : exists kept,
    written = kept ++ (unmatchedAgents polled stored).map newEntry ∧
      List.Forall₂ (Kept polled) stored kept
  stands : forall agent, agent ∈ polled -> isController agent = false ->
    exists entry, entry ∈ written ∧ entry.mac = agent.mac
  reflects : forall agent, agent ∈ polled -> isController agent = false ->
    forall entry, entry ∈ written -> entry.mac = agent.mac -> Reflects agent entry
  gone : forall entry, entry ∈ written -> isController entry = false ->
    (forall device, device ∈ polled -> entry.mac ≠ device.mac) ->
      entry.status = deviceOff

section

variable {macLength : Nat} {polled stored : List DeviceInfo}
variable {agent old entry : DeviceInfo}

theorem reflects_takeOver (agent old : DeviceInfo) :
    Reflects agent (takeOver agent old) :=
  ⟨rfl, rfl, rfl, rfl, rfl, rfl⟩

theorem reflects_newEntry (agent : DeviceInfo) : Reflects agent (newEntry agent) :=
  ⟨rfl, rfl, rfl, rfl, rfl, rfl⟩

/-- A stored entry that ends with an agent's mac. -/
theorem turnOff_refreshEntryList_of_mac (hpolled : DistinctMacs macLength polled)
    (hold : FixedMac macLength old) (hagent : agent ∈ polled)
    (hrole : isController agent = false)
    (hmac : (turnOff polled (refreshEntryList polled old)).mac = agent.mac) :
    turnOff polled (refreshEntryList polled old) = takeOver agent old := by
  rw [turnOff_mac] at hmac
  rw [turnOff_of_reported hagent (hpolled.fixed agent hagent) hmac]
  exact (processed_refreshEntryList hpolled hold).taken agent hagent hrole hmac

theorem kept_turnOff (hpolled : DistinctMacs macLength polled)
    (hold : FixedMac macLength old) :
    Kept polled old (turnOff polled (refreshEntryList polled old)) := by
  have hprocessed := processed_refreshEntryList hpolled hold
  have hnames := turnOff_eq_or polled (refreshEntryList polled old)
  constructor
  · cases hnames with
    | inl hsame => rw [hsame, hprocessed.hubId]
    | inr hoff => rw [hoff, hprocessed.hubId]
  · cases hnames with
    | inl hsame => rw [hsame, hprocessed.ezmId]
    | inr hoff => rw [hoff, hprocessed.ezmId]
  · cases hnames with
    | inl hsame => rw [hsame, hprocessed.ezmVersion]
    | inr hoff => rw [hoff, hprocessed.ezmVersion]
  · cases hnames with
    | inl hsame => rw [hsame, hprocessed.ezmName]
    | inr hoff => rw [hoff, hprocessed.ezmName]
  · intro agent hagent hrole hmac
    rw [turnOff_refreshEntryList_of_mac hpolled hold hagent hrole hmac]
    by_cases hdeleted : old.status = deviceDeleted
    · simp [takeOver, hdeleted]
    · simp [takeOver, hdeleted]

theorem turnOff_newEntry (hpolled : DistinctMacs macLength polled)
    (hnew : agent ∈ unmatchedAgents polled stored) :
    turnOff polled (newEntry agent) = newEntry agent := by
  have hagent := (mem_of_mem_unmatchedAgents hnew).1
  exact turnOff_of_reported hagent (hpolled.fixed agent hagent) rfl

theorem reconciled_pollDeviceList (hpolled : DistinctMacs macLength polled)
    (hstored : forall entry, entry ∈ stored -> FixedMac macLength entry) :
    Reconciled polled stored (pollDeviceList polled stored) := by
  have hnew : (unmatchedAgents polled stored).map
      (fun agent => turnOff polled (newEntry agent)) =
      (unmatchedAgents polled stored).map newEntry := by
    apply List.map_congr_left
    intro agent hagent
    exact turnOff_newEntry hpolled hagent
  rw [pollDeviceList_eq hpolled.apart, hnew]
  constructor
  · refine ⟨_, rfl, ?_⟩
    rw [List.forall₂_map_right_iff, List.forall₂_same]
    intro old hold
    exact kept_turnOff hpolled (hstored old hold)
  · intro agent hagent hrole
    have htold : agent ∈ unmatchedAgents polled stored ∨ _ :=
      unmatched_or_takesOver hpolled.apart hagent hrole
    cases htold with
    | inl hunmatched =>
        exact ⟨newEntry agent,
          List.mem_append_right _ (List.mem_map_of_mem hunmatched), rfl⟩
    | inr htaken =>
        rcases htaken with ⟨entry, old, hentry, htaken⟩
        refine ⟨_, List.mem_append_left _ (List.mem_map_of_mem hentry), ?_⟩
        rw [turnOff_mac, htaken]
        rfl
  · intro agent hagent hrole entry hentry hmac
    cases List.mem_append.mp hentry with
    | inl hkept =>
        rcases List.mem_map.mp hkept with ⟨old, hold, rfl⟩
        rw [turnOff_refreshEntryList_of_mac hpolled (hstored old hold) hagent
          hrole hmac]
        exact reflects_takeOver agent old
    | inr hadded =>
        rcases List.mem_map.mp hadded with ⟨other, hother, rfl⟩
        have hmem := (mem_of_mem_unmatchedAgents hother).1
        rw [List.inj_on_of_nodup_map hpolled.macs hmem hagent hmac]
        exact reflects_newEntry agent
  · intro entry hentry hrole hgone
    cases List.mem_append.mp hentry with
    | inl hkept =>
        rcases List.mem_map.mp hkept with ⟨old, hold, rfl⟩
        rw [isController_turnOff] at hrole
        rw [turnOff_mac] at hgone
        exact status_turnOff_of_gone hpolled
          (processed_refreshEntryList hpolled (hstored old hold)).fixed hrole hgone
    | inr hadded =>
        rcases List.mem_map.mp hadded with ⟨other, hother, rfl⟩
        exact absurd rfl (hgone other (mem_of_mem_unmatchedAgents hother).1)

end

/-- A poll reconciles the device file with the topology. -/
theorem reconciled_updateDeviceListToFileFromEmtDevice {macLength : Nat}
    {polled : List DeviceInfo} {w : World} (h : Healthy w.files)
    (hpolled : DistinctMacs macLength polled)
    (hstored : forall entry, entry ∈ storedDevices w -> FixedMac macLength entry) :
    wp (updateDeviceListToFileFromEmtDevice polled)
      (fun _ w' => Reconciled polled (storedDevices w) (storedDevices w')) w := by
  rw [wp_of_run (run_updateDeviceListToFileFromEmtDevice h polled),
    storedDevices_storeDevices]
  exact reconciled_pollDeviceList hpolled hstored

theorem distinctMacs_kitchen : DistinctMacs 17 [kitchen, gateway] := by
  constructor
  · decide
  · intro device hdevice
    cases List.mem_cons.mp hdevice with
    | inl heq => exact ⟨_, by rw [heq]; rfl, by decide⟩
    | inr hlast =>
        rw [List.mem_singleton.mp hlast]
        exact ⟨_, rfl, by decide⟩

/-- The kitchen joins while the hallway is away. -/
theorem reconciled_updateDeviceListToFileFromEmtDevice_kitchen :
    wp (updateDeviceListToFileFromEmtDevice [kitchen, gateway])
      (fun _ w' => Reconciled [kitchen, gateway] (storedDevices pairedWorld)
        (storedDevices w')) pairedWorld := by
  apply reconciled_updateDeviceListToFileFromEmtDevice healthy_pairedWorld
    distinctMacs_kitchen
  rw [storedDevices_pairedWorld]
  intro entry hentry
  cases List.mem_cons.mp hentry with
  | inl heq => exact ⟨_, by rw [heq]; rfl, by decide⟩
  | inr hlast =>
      rw [List.mem_singleton.mp hlast]
      exact ⟨_, rfl, by decide⟩

end Mesh
end Noc
