import Noc.Foundation.Runs
import Noc.Mesh.Requests

/-!
# Every device listed once

The macs of the device file are pairwise distinct, and so are the `ezm_id`s
that are there.  Marking and renaming keep both.  Setting keeps them when a
device matches at most one entry, and polling when no agent matches two entries
or brings the `ezm_id` of another one, and no controller takes over the mac of
another entry.
-/

namespace Noc
namespace Mesh

open Foundation
open Foundation.Exec
open Utils

structure ListedOnce (devices : List DeviceInfo) : Prop where
  macs : (devices.map DeviceInfo.mac).Nodup
  present : forall device, device ∈ devices -> device.mac ≠ none
  ezmIds : (devices.filterMap DeviceInfo.ezmId).Nodup

/-- The devices of a request have macs of one length and `ezm_id`s of one
length, so that one is part of another only by being equal to it. -/
def FixedLength (devices : List DeviceInfo) : Prop :=
  exists macLength ezmIdLength, 0 < macLength ∧
    forall device, device ∈ devices ->
      (forall mac, device.mac = some mac -> mac.length = macLength) ∧
        forall ezmId, device.ezmId = some ezmId -> ezmId.length = ezmIdLength

/-- The entry has a key of the device. -/
def Names (device stored : DeviceInfo) : Prop :=
  stored.mac = device.mac ∨
    (device.ezmId ≠ none ∧ stored.ezmId = device.ezmId)

/-!
## Matching
-/

theorem matchesMac_of_eq {device stored : DeviceInfo}
    (hpresent : device.mac ≠ none) (h : stored.mac = device.mac) :
    matchesMac device stored = true := by
  unfold matchesMac
  rw [h]
  exact appStrstr_self hpresent

theorem matchesKey_of_names {device stored : DeviceInfo}
    (hpresent : device.mac ≠ none) (h : Names device stored) :
    matchesKey device stored = true := by
  rw [matchesKey, Bool.or_eq_true]
  rcases h with hmac | ⟨hezmId, hsame⟩
  · left
    exact matchesMac_of_eq hpresent hmac
  · right
    unfold matchesEzmId
    rw [hsame]
    exact appStrstr_self hezmId

namespace FixedLength

variable {devices : List DeviceInfo} {first second : DeviceInfo}

theorem mac_eq (h : FixedLength devices) (hfirst : first ∈ devices)
    (hsecond : second ∈ devices) (hmatch : matchesMac first second = true) :
    second.mac = first.mac := by
  rcases h with ⟨macLength, _, -, hlength⟩
  exact eq_of_appStrstr (hlength first hfirst).1 (hlength second hsecond).1
    hmatch

/-- Within one request a match is an equality of keys. -/
theorem names (h : FixedLength devices) (hfirst : first ∈ devices)
    (hsecond : second ∈ devices) (hmatch : matchesKey first second = true) :
    Names first second := by
  rw [matchesKey, Bool.or_eq_true] at hmatch
  rcases hmatch with hmac | hezmId
  · left
    exact h.mac_eq hfirst hsecond hmac
  · right
    rcases h with ⟨_, ezmIdLength, -, hlength⟩
    refine ⟨?_, eq_of_appStrstr (hlength first hfirst).2
      (hlength second hsecond).2 hezmId⟩
    intro hnull
    unfold matchesEzmId at hezmId
    rw [hnull] at hezmId
    cases hezmId

theorem tail (h : FixedLength (first :: devices)) : FixedLength devices := by
  rcases h with ⟨macLength, ezmIdLength, hpos, hlength⟩
  exact ⟨macLength, ezmIdLength, hpos, fun device hmem =>
    hlength device (List.mem_cons_of_mem first hmem)⟩

end FixedLength

/-!
## Lists split at an entry
-/

theorem mem_append_cons {α : Type} {value other : α} {front back : List α} :
    other ∈ front ++ value :: back <-> other = value ∨ other ∈ front ++ back := by
  simp only [List.mem_append, List.mem_cons]
  constructor
  · rintro (h | h | h)
    · exact Or.inr (Or.inl h)
    · exact Or.inl h
    · exact Or.inr (Or.inr h)
  · rintro (h | h | h)
    · exact Or.inr (Or.inl h)
    · exact Or.inl h
    · exact Or.inr (Or.inr h)

theorem listedOnce_append_cons {device : DeviceInfo}
    {front back : List DeviceInfo} :
    ListedOnce (front ++ device :: back) <->
      ListedOnce (front ++ back) ∧ device.mac ≠ none ∧
        forall other, other ∈ front ++ back -> ¬ Names device other := by
  have hmacs : ((front ++ device :: back).map DeviceInfo.mac).Nodup <->
      device.mac ∉ (front ++ back).map DeviceInfo.mac ∧
        ((front ++ back).map DeviceInfo.mac).Nodup := by
    rw [List.map_append, List.map_cons, List.nodup_middle, List.nodup_cons,
      List.map_append]
  have hezmIds : ((front ++ device :: back).filterMap DeviceInfo.ezmId).Nodup <->
      (forall other, other ∈ front ++ back ->
        ¬ (device.ezmId ≠ none ∧ other.ezmId = device.ezmId)) ∧
        ((front ++ back).filterMap DeviceInfo.ezmId).Nodup := by
    cases hezmId : device.ezmId with
    | none => simp [hezmId]
    | some ezmId =>
        rw [List.filterMap_append, List.filterMap_cons_some hezmId,
          List.nodup_middle, List.nodup_cons, ← List.filterMap_append,
          List.mem_filterMap]
        simp only [not_exists, ne_eq, not_and, reduceCtorEq, not_false_eq_true,
          true_implies]
  constructor
  · intro h
    refine ⟨⟨(hmacs.mp h.macs).2, ?_, (hezmIds.mp h.ezmIds).2⟩, ?_, ?_⟩
    · intro other hother
      exact h.present other (mem_append_cons.mpr (Or.inr hother))
    · exact h.present device (mem_append_cons.mpr (Or.inl rfl))
    · rintro other hother (hmac | hezmId)
      · apply (hmacs.mp h.macs).1
        rw [← hmac]
        exact List.mem_map_of_mem hother
      · exact (hezmIds.mp h.ezmIds).1 other hother hezmId
  · rintro ⟨hrest, hpresent, hothers⟩
    refine ⟨hmacs.mpr ⟨?_, hrest.macs⟩, ?_, hezmIds.mpr ⟨?_, hrest.ezmIds⟩⟩
    · intro hmem
      rcases List.mem_map.mp hmem with ⟨other, hother, hmac⟩
      exact hothers other hother (Or.inl hmac)
    · intro other hother
      rcases mem_append_cons.mp hother with heq | hother
      · rw [heq]
        exact hpresent
      · exact hrest.present other hother
    · intro other hother hezmId
      exact hothers other hother (Or.inr hezmId)

/-- Both properties only look at the keys. -/
theorem ListedOnce.of_keys {devices edited : List DeviceInfo}
    (h : ListedOnce devices)
    (hmacs : edited.map DeviceInfo.mac = devices.map DeviceInfo.mac)
    (hezmIds : edited.map DeviceInfo.ezmId = devices.map DeviceInfo.ezmId) :
    ListedOnce edited where
  macs := by
    rw [hmacs]
    exact h.macs
  present := by
    intro device hmem hnull
    have hmac : none ∈ devices.map DeviceInfo.mac := by
      rw [← hmacs, ← hnull]
      exact List.mem_map_of_mem hmem
    rcases List.mem_map.mp hmac with ⟨stored, hstored, hstoredNull⟩
    exact h.present stored hstored hstoredNull
  ezmIds := by
    have hids : edited.filterMap DeviceInfo.ezmId =
        devices.filterMap DeviceInfo.ezmId := by
      calc
        edited.filterMap DeviceInfo.ezmId =
            (edited.map DeviceInfo.ezmId).filterMap id := by
              rw [List.filterMap_map]
              rfl
        _ = (devices.map DeviceInfo.ezmId).filterMap id := by rw [hezmIds]
        _ = devices.filterMap DeviceInfo.ezmId := by
            rw [List.filterMap_map]
            rfl
    rw [hids]
    exact h.ezmIds

/-!
## Requests

The devices of one request are told apart by their keys, so none of them
matches another.
-/

/-- What a request may carry. -/
structure Distinguished (devices : List DeviceInfo) : Prop where
  once : ListedOnce devices
  fixed : FixedLength devices

namespace Distinguished

variable {device other : DeviceInfo} {rest : List DeviceInfo}

theorem tail (h : Distinguished (device :: rest)) : Distinguished rest where
  once := (listedOnce_append_cons.mp
    (show ListedOnce ([] ++ device :: rest) from h.once)).1
  fixed := h.fixed.tail

theorem mac_ne_none (h : Distinguished (device :: rest)) : device.mac ≠ none :=
  h.once.present device List.mem_cons_self

theorem not_names (h : Distinguished (device :: rest)) (hother : other ∈ rest) :
    ¬ Names other device := by
  have hsplit : ListedOnce ([] ++ device :: rest) := h.once
  rcases listedOnce_append_cons.mp hsplit with ⟨-, -, hothers⟩
  rintro (hmac | ⟨hpresent, hezmId⟩)
  · exact hothers other hother (Or.inl hmac.symm)
  · apply hothers other hother
    right
    rw [hezmId]
    exact ⟨hpresent, rfl⟩

theorem mac_ne (h : Distinguished (device :: rest)) (hother : other ∈ rest) :
    device.mac ≠ other.mac :=
  fun hmac => h.not_names hother (Or.inl hmac)

theorem not_matchesKey (h : Distinguished (device :: rest))
    (hother : other ∈ rest) : ¬ matchesKey other device = true :=
  fun hmatch => h.not_names hother
    (h.fixed.names (List.mem_cons_of_mem device hother) List.mem_cons_self
      hmatch)

/-- An entry with this device's mac is not matched by the mac of another. -/
theorem not_matchesMac (h : Distinguished (device :: rest))
    (hother : other ∈ rest) {stored : DeviceInfo}
    (hmac : stored.mac = device.mac) : ¬ matchesMac other stored = true := by
  intro hmatch
  apply h.mac_ne hother
  apply h.fixed.mac_eq (List.mem_cons_of_mem device hother) List.mem_cons_self
  unfold matchesMac
  rw [← hmac]
  exact hmatch

/-- This device does not match an entry that has the mac of another. -/
theorem not_matchesMac_of_mem (h : Distinguished (device :: rest))
    (hother : other ∈ rest) {stored : DeviceInfo}
    (hmac : stored.mac = other.mac) : ¬ matchesMac device stored = true := by
  intro hmatch
  apply h.mac_ne hother
  apply Eq.symm
  apply h.fixed.mac_eq List.mem_cons_self (List.mem_cons_of_mem device hother)
  unfold matchesMac
  rw [← hmac]
  exact hmatch

end Distinguished

/-!
## Setting
-/

/-- Each device given matches at most one stored entry. -/
def SetFits (devices stored : List DeviceInfo) : Prop :=
  forall device, device ∈ devices ->
    forall first, first ∈ stored -> forall second, second ∈ stored ->
      matchesKey device first = true -> matchesKey device second = true ->
      first = second

/-- What an edit has to keep while the devices of a request are worked off. -/
structure SetReached (rest current : List DeviceInfo) : Prop where
  once : ListedOnce current
  given : Distinguished rest
  fits : SetFits rest current

section

variable {current rest : List DeviceInfo} {device : DeviceInfo}

/-- Putting the device among entries it does not match. -/
theorem setReached_of_split (h : SetReached (device :: rest) current)
    {front back : List DeviceInfo}
    (hsub : forall other, other ∈ front ++ back -> other ∈ current)
    (honce : ListedOnce (front ++ back))
    (hunmatched : forall other, other ∈ front ++ back ->
      ¬ matchesKey device other = true) :
    SetReached rest (front ++ device :: back) where
  once := listedOnce_append_cons.mpr ⟨honce, h.given.mac_ne_none,
    fun other hother hnamed => hunmatched other hother
      (matchesKey_of_names h.given.mac_ne_none hnamed)⟩
  given := h.given.tail
  fits := by
    intro later hlater first hfirst second hsecond hmatch hmatch'
    -- A later device does not match this one, so it matches old entries only.
    have hold : forall entry, entry ∈ front ++ device :: back ->
        matchesKey later entry = true -> entry ∈ current := by
      intro entry hentry hfound
      rcases mem_append_cons.mp hentry with heq | hentry
      · rw [heq] at hfound
        exact absurd hfound (h.given.not_matchesKey hlater)
      · exact hsub entry hentry
    exact h.fits later (List.mem_cons_of_mem device hlater)
      first (hold first hfirst hmatch) second (hold second hsecond hmatch')
      hmatch hmatch'

theorem setReached_setDevice (h : SetReached (device :: rest) current) :
    SetReached rest (setDevice current device) := by
  unfold setDevice
  rcases scan_cases (matchesKey device) current with
    hnone | ⟨front, found, back, hsplit, hfront, hfound⟩
  · have hany : current.any (matchesKey device) = false := by
      simpa using hnone
    rw [hany]
    apply setReached_of_split h
    · simp
    · simpa using h.once
    · intro other hother
      rw [List.append_nil] at hother
      simp [hnone other hother]
  · have hmem : found ∈ current := by
      rw [hsplit]
      simp
    have hany : current.any (matchesKey device) = true := by
      rw [List.any_eq_true]
      exact ⟨found, hmem, hfound⟩
    have hsub : forall other, other ∈ front ++ back -> other ∈ current := by
      intro other hother
      rw [hsplit]
      exact mem_append_cons.mpr (Or.inr hother)
    have honce := h.once
    rw [hsplit] at honce
    rcases listedOnce_append_cons.mp honce with ⟨hrest, -, hothers⟩
    rw [hany, hsplit, if_pos rfl, updateFirst_append_cons hfront hfound]
    apply setReached_of_split h hsub hrest
    intro other hother hmatch
    have heq := h.fits device List.mem_cons_self other (hsub other hother)
      found hmem hmatch hfound
    apply hothers other hother
    left
    rw [heq]

theorem setReached_setDeviceList {devices : List DeviceInfo}
    (h : SetReached devices current) :
    SetReached [] (setDeviceList devices current) := by
  unfold setDeviceList
  induction devices generalizing current with
  | nil => exact h
  | cons device rest ih => exact ih (setReached_setDevice h)

end

/-!
## Polling
-/

/-- No polled agent matches two entries, and an entry that has the `ezm_id` of
a polled agent is that agent's.  When a controller is polled, at most one
controller entry is stored and no other entry has the polled mac. -/
structure PollFits (polled stored : List DeviceInfo) : Prop where
  agents : forall device, device ∈ polled -> isController device = false ->
    forall first, first ∈ stored -> forall second, second ∈ stored ->
      matchesMac device first = true -> matchesMac device second = true ->
      first = second
  ezmIds : forall device, device ∈ polled -> isController device = false ->
    forall entry, entry ∈ stored -> device.ezmId ≠ none ->
      entry.ezmId = device.ezmId ->
      entry.mac = device.mac ∧ isController entry = false
  controllers : forall device, device ∈ polled -> isController device = true ->
    forall entry, entry ∈ stored -> isController entry = true ->
      forall other, other ∈ stored -> other ≠ entry ->
        isController other = false ∧ other.mac ≠ device.mac

structure PollReached (rest current : List DeviceInfo) : Prop where
  once : ListedOnce current
  given : Distinguished rest
  fits : PollFits rest current

theorem PollFits.tail {device : DeviceInfo} {rest stored : List DeviceInfo}
    (h : PollFits (device :: rest) stored) : PollFits rest stored where
  agents := fun later hlater => h.agents later (List.mem_cons_of_mem device hlater)
  ezmIds := fun later hlater => h.ezmIds later (List.mem_cons_of_mem device hlater)
  controllers := fun later hlater =>
    h.controllers later (List.mem_cons_of_mem device hlater)

theorem refreshAgent_ezmId (polled stored : DeviceInfo) :
    (refreshAgent polled stored).ezmId = stored.ezmId := by
  unfold refreshAgent
  split <;> rfl

theorem refreshController_ezmId (polled stored : DeviceInfo) :
    (refreshController polled stored).ezmId = stored.ezmId := by
  unfold refreshController
  split <;> rfl

/-- An edit that only touches one entry. -/
theorem map_append_cons_of_kept {edit : DeviceInfo -> DeviceInfo}
    {front back : List DeviceInfo}
    (hkept : forall other, other ∈ front ++ back -> edit other = other)
    (entry : DeviceInfo) :
    (front ++ entry :: back).map edit = front ++ edit entry :: back := by
  have hpart : forall part : List DeviceInfo,
      (forall other, other ∈ part -> other ∈ front ++ back) ->
      part.map edit = part := by
    intro part hsub
    calc
      part.map edit = part.map id :=
        List.map_congr_left fun other hother => hkept other (hsub other hother)
      _ = part := List.map_id part
  rw [List.map_append, List.map_cons,
    hpart front fun other hother => List.mem_append_left back hother,
    hpart back fun other hother => List.mem_append_right front hother]

section

variable {current rest front back : List DeviceInfo}
  {device entry edited : DeviceInfo}

/-- One entry takes over the polled mac and keeps its `ezm_id`; it may become a
controller only if it was one. -/
theorem pollReached_of_taken
    (h : PollReached (device :: rest) (front ++ entry :: back))
    (hmac : edited.mac = device.mac) (hezmId : edited.ezmId = entry.ezmId)
    (hrole : isController edited = true -> isController entry = true)
    (halone : forall other, other ∈ front ++ back -> other.mac ≠ device.mac)
    (hkeptAgent : forall later, later ∈ rest -> entry.mac = later.mac ->
      isController entry = false -> False) :
    PollReached rest (front ++ edited :: back) := by
  rcases listedOnce_append_cons.mp h.once with ⟨hrest, -, hothers⟩
  have hmem : entry ∈ front ++ entry :: back := mem_append_cons.mpr (Or.inl rfl)
  have hold : forall other, other ∈ front ++ back ->
      other ∈ front ++ entry :: back ∧ other ≠ entry := by
    intro other hother
    refine ⟨mem_append_cons.mpr (Or.inr hother), ?_⟩
    intro heq
    exact hothers other hother (Or.inl (by rw [heq]))
  have hfits := h.fits.tail
  refine ⟨?_, h.given.tail, ?_, ?_, ?_⟩
  · rw [listedOnce_append_cons]
    refine ⟨hrest, ?_, ?_⟩
    · rw [hmac]
      exact h.given.mac_ne_none
    · rintro other hother (hsame | ⟨hpresent, hsame⟩)
      · rw [hmac] at hsame
        exact halone other hother hsame
      · rw [hezmId] at hpresent hsame
        exact hothers other hother (Or.inr ⟨hpresent, hsame⟩)
  · intro later hlater hagent first hfirst second hsecond hmatch hmatch'
    -- The edited entry has the polled mac, which no later device matches.
    have hkept : forall stored, stored ∈ front ++ edited :: back ->
        matchesMac later stored = true -> stored ∈ front ++ entry :: back := by
      intro stored hstored hfound
      rcases mem_append_cons.mp hstored with heq | hstored
      · rw [heq] at hfound
        exact absurd hfound (h.given.not_matchesMac hlater hmac)
      · exact (hold stored hstored).1
    exact hfits.agents later hlater hagent first (hkept first hfirst hmatch)
      second (hkept second hsecond hmatch') hmatch hmatch'
  · intro later hlater hagent stored hstored hpresent hsame
    rcases mem_append_cons.mp hstored with heq | hstored
    · rw [heq, hezmId] at hsame
      have hentry := hfits.ezmIds later hlater hagent entry hmem hpresent hsame
      exact (hkeptAgent later hlater hentry.1 hentry.2).elim
    · exact hfits.ezmIds later hlater hagent stored (hold stored hstored).1
        hpresent hsame
  · intro later hlater hcontroller first hfirst hfirstController other hother hne
    have hall := hfits.controllers later hlater hcontroller
    rcases mem_append_cons.mp hfirst with heq | hfirst
    · rw [heq] at hfirstController hne
      rcases mem_append_cons.mp hother with heq' | hother
      · exact absurd heq' hne
      · exact hall entry hmem (hrole hfirstController) other
          (hold other hother).1 (hold other hother).2
    · rcases mem_append_cons.mp hother with heq' | hother
      · rw [heq'] at hne ⊢
        have hentry := hall first (hold first hfirst).1 hfirstController entry
          hmem (hold first hfirst).2.symm
        constructor
        · cases hagent : isController edited with
          | false => rfl
          | true =>
              rw [hrole hagent] at hentry
              exact hentry.1
        · rw [hmac]
          exact h.given.mac_ne hlater
      · exact hall first (hold first hfirst).1 hfirstController other
          (hold other hother).1 hne

/-- A controller takes over the one controller entry. -/
theorem pollReached_of_controller (h : PollReached (device :: rest) current)
    (hcontroller : isController device = true) :
    PollReached rest (current.map (refreshController device)) := by
  have hfits := h.fits.controllers device List.mem_cons_self hcontroller
  rcases scan_cases isController current with
    hnone | ⟨front, entry, back, hsplit, -, hentry⟩
  · have hsame : current.map (refreshController device) = current := by
      calc
        current.map (refreshController device) = current.map id :=
          List.map_congr_left fun other hother =>
            refreshController_of_not (hnone other hother)
        _ = current := List.map_id current
    rw [hsame]
    exact ⟨h.once, h.given.tail, h.fits.tail⟩
  · subst hsplit
    rcases listedOnce_append_cons.mp h.once with ⟨-, -, hothers⟩
    have halone : forall other, other ∈ front ++ back ->
        isController other = false ∧ other.mac ≠ device.mac := by
      intro other hother
      apply hfits entry (mem_append_cons.mpr (Or.inl rfl)) hentry other
        (mem_append_cons.mpr (Or.inr hother))
      intro heq
      exact hothers other hother (Or.inl (by rw [heq]))
    rw [map_append_cons_of_kept fun other hother =>
      refreshController_of_not (halone other hother).1]
    apply pollReached_of_taken h
    · simp [refreshController, hentry, refresh]
    · exact refreshController_ezmId device entry
    · exact fun _ => hentry
    · exact fun other hother => (halone other hother).2
    · intro later _ _ hagent
      rw [hentry] at hagent
      cases hagent

/-- An agent with a matching entry refreshes it. -/
theorem pollReached_of_matched_agent
    (h : PollReached (device :: rest) current)
    (hagent : isController device = false)
    (hfound : exists entry, entry ∈ current ∧ matchesMac device entry = true) :
    PollReached rest (current.map (refreshAgent device)) := by
  rcases hfound with ⟨entry, hentry, hmatch⟩
  rcases List.append_of_mem hentry with ⟨front, back, rfl⟩
  rcases listedOnce_append_cons.mp h.once with ⟨-, -, hothers⟩
  have hunmatched : forall other, other ∈ front ++ back ->
      ¬ matchesMac device other = true := by
    intro other hother hfound
    have heq := h.fits.agents device List.mem_cons_self hagent other
      (mem_append_cons.mpr (Or.inr hother)) entry hentry hfound hmatch
    exact hothers other hother (Or.inl (by rw [heq]))
  have hrole : isController (refreshAgent device entry) = false := by
    unfold refreshAgent
    rw [if_pos hmatch]
    exact hagent
  rw [map_append_cons_of_kept fun other hother =>
    refreshAgent_of_not (Bool.not_eq_true _ ▸ hunmatched other hother)]
  apply pollReached_of_taken h
  · simp [refreshAgent, hmatch, refresh]
  · exact refreshAgent_ezmId device entry
  · intro hcontroller
    rw [hrole] at hcontroller
    cases hcontroller
  · intro other hother hmac
    exact hunmatched other hother (matchesMac_of_eq h.given.mac_ne_none hmac)
  · intro later hlater hmac _
    exact h.given.not_matchesMac_of_mem hlater hmac hmatch

/-- An agent without a matching entry is appended. -/
theorem pollReached_of_new_agent (h : PollReached (device :: rest) current)
    (hagent : isController device = false)
    (hnone : forall stored, stored ∈ current ->
      matchesMac device stored = false) :
    PollReached rest (current ++ [{ device with status := deviceOn }]) := by
  have hnew : forall stored, stored ∈ current -> stored.mac ≠ device.mac := by
    intro stored hstored hsame
    have hmatch := matchesMac_of_eq h.given.mac_ne_none hsame
    rw [hnone stored hstored] at hmatch
    cases hmatch
  have hfits := h.fits.tail
  have hcases : forall stored,
      stored ∈ current ++ [{ device with status := deviceOn }] ->
      stored ∈ current ∨ stored = { device with status := deviceOn } := by
    intro stored hstored
    rcases List.mem_append.mp hstored with hold | hlast
    · exact Or.inl hold
    · exact Or.inr (List.mem_singleton.mp hlast)
  refine ⟨?_, h.given.tail, ?_, ?_, ?_⟩
  · rw [listedOnce_append_cons, List.append_nil]
    refine ⟨h.once, h.given.mac_ne_none, ?_⟩
    rintro other hother (hsame | ⟨hpresent, hezmId⟩)
    · exact hnew other hother hsame
    · exact hnew other hother (h.fits.ezmIds device List.mem_cons_self hagent
        other hother hpresent hezmId).1
  · intro later hlater hlaterAgent first hfirst second hsecond hmatch hmatch'
    have hold : forall stored,
        stored ∈ current ++ [{ device with status := deviceOn }] ->
        matchesMac later stored = true -> stored ∈ current := by
      intro stored hstored hfound
      rcases hcases stored hstored with hold | hlast
      · exact hold
      · exact absurd hfound
          (h.given.not_matchesMac hlater (by rw [hlast]))
    exact hfits.agents later hlater hlaterAgent first (hold first hfirst hmatch)
      second (hold second hsecond hmatch') hmatch hmatch'
  · intro later hlater hlaterAgent stored hstored hpresent hezmId
    rcases hcases stored hstored with hold | hlast
    · exact hfits.ezmIds later hlater hlaterAgent stored hold hpresent hezmId
    · rw [hlast] at hezmId
      exact absurd (Or.inr ⟨hpresent, hezmId⟩) (h.given.not_names hlater)
  · intro later hlater hcontroller first hfirst hfirstController other hother hne
    rcases hcases first hfirst with hfirst | hlast
    · rcases hcases other hother with hother | hlast
      · exact hfits.controllers later hlater hcontroller first hfirst
          hfirstController other hother hne
      · rw [hlast]
        exact ⟨hagent, h.given.mac_ne hlater⟩
    · have hrole : isController device = true := by
        rw [hlast] at hfirstController
        exact hfirstController
      rw [hagent] at hrole
      cases hrole

theorem pollReached_pollDevice (h : PollReached (device :: rest) current) :
    PollReached rest (pollDevice current device) := by
  unfold pollDevice
  cases hrole : isController device with
  | true => exact pollReached_of_controller h hrole
  | false =>
      cases hany : current.any (matchesMac device) with
      | true =>
          exact pollReached_of_matched_agent h hrole (List.any_eq_true.mp hany)
      | false => exact pollReached_of_new_agent h hrole (by simpa using hany)

theorem turnOff_keys (polled : List DeviceInfo) (stored : DeviceInfo) :
    (turnOff polled stored).mac = stored.mac ∧
      (turnOff polled stored).ezmId = stored.ezmId := by
  unfold turnOff
  split
  · exact ⟨rfl, rfl⟩
  · split <;> exact ⟨rfl, rfl⟩

theorem listedOnce_pollDeviceList {polled : List DeviceInfo}
    (h : PollReached polled current) :
    ListedOnce (pollDeviceList polled current) := by
  have hloop : forall (devices entries : List DeviceInfo),
      PollReached devices entries ->
      PollReached [] (devices.foldl pollDevice entries) := by
    intro devices
    induction devices with
    | nil =>
        intro entries hentries
        exact hentries
    | cons first others ih =>
        intro entries hentries
        exact ih _ (pollReached_pollDevice hentries)
  unfold pollDeviceList
  apply (hloop polled current h).once.of_keys
  · rw [List.map_map]
    exact List.map_congr_left fun stored _ => (turnOff_keys polled stored).1
  · rw [List.map_map]
    exact List.map_congr_left fun stored _ => (turnOff_keys polled stored).2

end

/-!
## Runs
-/

def DeviceRequest.Fits (stored : List DeviceInfo) : DeviceRequest -> Prop
  | .set devices => SetFits devices stored
  | .poll devices => PollFits devices stored
  | .rename _ => True
  | .delete _ => True

theorem listedOnce_edit {current : List DeviceInfo} {request : DeviceRequest}
    (honce : ListedOnce current) (hgiven : Distinguished request.devices)
    (hfits : request.Fits current) : ListedOnce (request.edit current) := by
  cases request with
  | set devices => exact (setReached_setDeviceList ⟨honce, hgiven, hfits⟩).once
  | poll devices => exact listedOnce_pollDeviceList ⟨honce, hgiven, hfits⟩
  | rename devices =>
      exact honce.of_keys (map_renameDeviceList (fun _ _ => rfl) devices current)
        (map_renameDeviceList (fun _ _ => rfl) devices current)
  | delete devices =>
      exact honce.of_keys (map_deleteDeviceList (fun _ => rfl) devices current)
        (map_deleteDeviceList (fun _ => rfl) devices current)

/-- One completed call with devices that are told apart by their keys. -/
def DeviceStep (w : World) (request : DeviceRequest) (w' : World) : Prop :=
  Distinguished request.devices ∧ request.exec w = .ok ((), w')

/-- In a run whose calls all fit the list they work on, every device is listed
at most once in the end. -/
theorem listedOnce_of_run {w w' : World} {requests : List DeviceRequest}
    (h : Healthy w.files) (honce : ListedOnce (storedDevices w))
    (hrun : Runs (fun s request s' => DeviceStep s request s' ∧
      request.Fits (storedDevices s)) w requests w') :
    ListedOnce (storedDevices w') := by
  have hinv := hrun.invariant
    (fun s => Healthy s.files ∧ ListedOnce (storedDevices s))
    (by
      rintro s request s' ⟨hhealthy, hs⟩ ⟨⟨hgiven, hexec⟩, hfits⟩
      rw [DeviceRequest.run_exec hhealthy] at hexec
      cases hexec
      rw [storedDevices_storeDevices]
      exact ⟨healthy_storeDevices hhealthy _, listedOnce_edit hs hgiven hfits⟩)
    ⟨h, honce⟩
  exact hinv.2

/-!
## A run, and a request that lists a device twice
-/

theorem listedOnce_pairedWorld : ListedOnce (storedDevices pairedWorld) := by
  rw [storedDevices_pairedWorld]
  constructor <;> decide

/-- A poll that reports a further agent keeps the list in order. -/
theorem listedOnce_of_run_kitchen :
    exists w', DeviceStep pairedWorld (.poll [gateway, hallway, kitchen]) w' ∧
      ListedOnce (storedDevices w') := by
  have hgiven : Distinguished
      (DeviceRequest.poll [gateway, hallway, kitchen]).devices := by
    refine ⟨⟨?_, ?_, ?_⟩, 17, 5, ?_, ?_⟩ <;> decide
  have hfits : PollFits [gateway, hallway, kitchen]
      (storedDevices pairedWorld) := by
    rw [storedDevices_pairedWorld]
    constructor <;> decide
  exact ⟨_, ⟨hgiven, rfl⟩, listedOnce_of_run healthy_pairedWorld
    listedOnce_pairedWorld (Runs.cons ⟨⟨hgiven, rfl⟩, hfits⟩ (Runs.nil _))⟩

/-- Pairing a device that has the mac of one entry and the `ezm_id` of another
replaces the first and leaves the second. -/
theorem not_listedOnce_of_two_matches :
    ¬ forall (w : World) (requests : List DeviceRequest) (w' : World),
      Healthy w.files -> ListedOnce (storedDevices w) ->
      Runs DeviceStep w requests w' -> ListedOnce (storedDevices w') := by
  intro hclaim
  let swapped : DeviceInfo := { hallway with mac := gateway.mac }
  have hstep : DeviceStep pairedWorld (.set [swapped])
      (storeDevices [swapped, hallway] pairedWorld) := by
    refine ⟨⟨⟨?_, ?_, ?_⟩, 17, 5, ?_, ?_⟩, rfl⟩ <;> decide
  have hfinal := hclaim pairedWorld _ _ healthy_pairedWorld
    listedOnce_pairedWorld (Runs.cons hstep (Runs.nil _))
  rw [storedDevices_storeDevices] at hfinal
  have hezmIds := hfinal.ezmIds
  revert hezmIds
  decide

end Mesh
end Noc
