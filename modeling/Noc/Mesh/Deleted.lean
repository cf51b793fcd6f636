import Noc.Foundation.Runs
import Noc.Mesh.Requests

/-!
# Deleted devices

An agent that was deleted keeps its entry, marked as deleted.  A poll that
reports the agent leaves the mark, a poll that does not overwrites it.  So the
agent stays out as long as no poll reports it again after one that did not.
-/

namespace Noc
namespace Mesh

open Foundation
open Foundation.Exec
open Utils

section

variable {mac : String} {ezmId : Option String}

/-!
## Entries

Before a poll misses the agent its entries are marked; from then on they are
only known not to be on.
-/

/-- An entry with the agent's mac is the agent's own; all macs are as long as
the agent's. -/
structure Told (mac : String) (ezmId : Option String) (entry : DeviceInfo) :
    Prop where
  fixed : forall other, entry.mac = some other -> other.length = mac.length
  agent : entry.mac = some mac -> isController entry = false
  own : entry.mac = some mac -> entry.ezmId = ezmId

structure Marked (mac : String) (ezmId : Option String) (entry : DeviceInfo) :
    Prop extends Told mac ezmId entry where
  deleted : entry.mac = some mac -> entry.status = deviceDeleted

/-- No agent with this mac is on. -/
def KeptOut (mac : String) (entry : DeviceInfo) : Prop :=
  entry.mac = some mac -> isController entry = true ∨ entry.status ≠ deviceOn

theorem Marked.keptOut {entry : DeviceInfo} (h : Marked mac ezmId entry) :
    KeptOut mac entry := by
  intro hmac
  right
  rw [h.deleted hmac]
  decide

/-- An entry of another device. -/
theorem Marked.of_ne {entry : DeviceInfo}
    (hfixed : forall other, entry.mac = some other -> other.length = mac.length)
    (hne : entry.mac ≠ some mac) : Marked mac ezmId entry where
  fixed := hfixed
  deleted := fun hmac => absurd hmac hne
  agent := fun hmac => absurd hmac hne
  own := fun hmac => absurd hmac hne

theorem Told.matchesMac_iff {device entry : DeviceInfo}
    (h : Told mac ezmId entry) {deviceMac : String}
    (hdevice : device.mac = some deviceMac)
    (hlength : deviceMac.length = mac.length) :
    matchesMac device entry = true <-> entry.mac = some deviceMac := by
  constructor
  · intro hmatch
    unfold matchesMac at hmatch
    rw [← hdevice]
    apply eq_of_appStrstr _ h.fixed hmatch
    intro other hother
    rw [hdevice] at hother
    cases hother
    exact hlength
  · intro hmac
    unfold matchesMac
    rw [hdevice, hmac]
    exact strstr_self deviceMac

/-- All entries are marked, and the agent has one. -/
structure AllMarked (mac : String) (ezmId : Option String)
    (devices : List DeviceInfo) : Prop where
  marked : forall entry, entry ∈ devices -> Marked mac ezmId entry
  stored : some mac ∈ devices.map DeviceInfo.mac

def AllKeptOut (mac : String) (devices : List DeviceInfo) : Prop :=
  forall entry, entry ∈ devices -> KeptOut mac entry

theorem AllMarked.allKeptOut {devices : List DeviceInfo}
    (h : AllMarked mac ezmId devices) : AllKeptOut mac devices :=
  fun entry hentry => (h.marked entry hentry).keptOut

/-!
## Topologies
-/

/-- The controller first, then agents, with distinct macs of one length. -/
structure WellFormed (macLength : Nat) (polled : List DeviceInfo) : Prop where
  roles : exists controller agents, polled = controller :: agents ∧
    isController controller = true ∧
    forall agent, agent ∈ agents -> isController agent = false
  macs : (polled.map DeviceInfo.mac).Nodup
  fixed : forall device, device ∈ polled ->
    exists other, device.mac = some other ∧ other.length = macLength

/-- The topology reports the mac as an agent's. -/
def Reports (mac : String) (polled : List DeviceInfo) : Prop :=
  exists device, device ∈ polled ∧ device.mac = some mac ∧
    isController device = false

theorem WellFormed.eq_of_mac {macLength : Nat} {polled : List DeviceInfo}
    (h : WellFormed macLength polled) {first second : DeviceInfo}
    (hfirst : first ∈ polled) (hsecond : second ∈ polled)
    (hmac : first.mac = second.mac) : first = second :=
  List.inj_on_of_nodup_map h.macs hfirst hsecond hmac

/-!
## Polling
-/

theorem forall_pollDevice {q : DeviceInfo -> Prop} {current : List DeviceInfo}
    {polled : DeviceInfo} (h : forall entry, entry ∈ current -> q entry)
    (hcontroller : isController polled = true ->
      forall entry, entry ∈ current -> q (refreshController polled entry))
    (hagent : isController polled = false ->
      forall entry, entry ∈ current -> q (refreshAgent polled entry))
    (hnew : isController polled = false ->
      (forall entry, entry ∈ current -> matchesMac polled entry = false) ->
      q { polled with status := deviceOn }) :
    forall entry, entry ∈ pollDevice current polled -> q entry := by
  intro entry hentry
  unfold pollDevice at hentry
  cases hrole : isController polled with
  | true =>
      rw [hrole, if_pos rfl] at hentry
      rcases List.mem_map.mp hentry with ⟨stored, hstored, rfl⟩
      exact hcontroller hrole stored hstored
  | false =>
      rw [hrole, if_neg Bool.false_ne_true] at hentry
      cases hany : current.any (matchesMac polled) with
      | true =>
          rw [hany, if_pos rfl] at hentry
          rcases List.mem_map.mp hentry with ⟨stored, hstored, rfl⟩
          exact hagent hrole stored hstored
      | false =>
          rw [hany, if_neg Bool.false_ne_true] at hentry
          rcases List.mem_append.mp hentry with hold | hlast
          · exact h entry hold
          · rw [List.mem_singleton.mp hlast]
            exact hnew hrole (by simpa using hany)

/-- A controller's poll leaves a marked entry marked. -/
theorem Marked.refreshController {polled entry : DeviceInfo}
    (h : Marked mac ezmId entry)
    (hfixed : forall other, polled.mac = some other -> other.length = mac.length)
    (hne : polled.mac ≠ some mac) :
    Marked mac ezmId (Mesh.refreshController polled entry) := by
  cases hrole : isController entry with
  | true =>
      have hmac : (Mesh.refreshController polled entry).mac = polled.mac := by
        simp [Mesh.refreshController, hrole, refresh]
      apply Marked.of_ne
      · rw [hmac]
        exact hfixed
      · rw [hmac]
        exact hne
  | false =>
      have hkept : Mesh.refreshController polled entry = entry := by
        simp [Mesh.refreshController, hrole]
      rw [hkept]
      exact h

/-- An agent's poll leaves a marked entry marked, also the agent's own. -/
theorem Marked.refreshAgent {polled entry : DeviceInfo}
    (h : Marked mac ezmId entry) {polledMac : String}
    (hpolled : polled.mac = some polledMac)
    (hlength : polledMac.length = mac.length)
    (hagent : isController polled = false) :
    Marked mac ezmId (Mesh.refreshAgent polled entry) := by
  cases hmatch : matchesMac polled entry with
  | true =>
      have hentry := (h.matchesMac_iff hpolled hlength).mp hmatch
      have hmac : (Mesh.refreshAgent polled entry).mac = entry.mac := by
        simp [Mesh.refreshAgent, hmatch, refresh, hpolled, hentry]
      refine ⟨⟨?_, ?_, ?_⟩, ?_⟩
      · rw [hmac]
        exact h.fixed
      · intro _
        unfold Mesh.refreshAgent
        rw [if_pos hmatch]
        exact hagent
      · intro hsame
        rw [hmac] at hsame
        rw [← h.own hsame]
        simp [Mesh.refreshAgent, hmatch, refresh]
      · intro hsame
        rw [hmac] at hsame
        simp [Mesh.refreshAgent, hmatch, h.deleted hsame]
  | false =>
      have hkept : Mesh.refreshAgent polled entry = entry := by
        simp [Mesh.refreshAgent, hmatch]
      rw [hkept]
      exact h

/-- One polled device that is not the controller with the agent's mac. -/
theorem allMarked_pollDevice {current : List DeviceInfo} {polled : DeviceInfo}
    (h : AllMarked mac ezmId current)
    (hfixed : exists other, polled.mac = some other ∧ other.length = mac.length)
    (hrole : polled.mac = some mac -> isController polled = false) :
    AllMarked mac ezmId (pollDevice current polled) := by
  rcases hfixed with ⟨polledMac, hpolled, hlength⟩
  have hpolledFixed : forall other, polled.mac = some other ->
      other.length = mac.length := by
    intro other hother
    rw [hpolled] at hother
    cases hother
    exact hlength
  rcases List.mem_map.mp h.stored with ⟨own, hown, hownMac⟩
  refine ⟨forall_pollDevice h.marked ?_ ?_ ?_, ?_⟩
  · intro hcontroller entry hentry
    apply (h.marked entry hentry).refreshController hpolledFixed
    intro hmac
    rw [hrole hmac] at hcontroller
    cases hcontroller
  · intro hagent entry hentry
    exact (h.marked entry hentry).refreshAgent hpolled hlength hagent
  · intro _ hnone
    refine Marked.of_ne hpolledFixed ?_
    intro hmac
    change polled.mac = some mac at hmac
    have hmatch := ((h.marked own hown).matchesMac_iff hpolled hlength).mpr
    rw [hnone own hown, hownMac, ← hmac] at hmatch
    cases hmatch hpolled
  · unfold pollDevice
    cases hcontroller : isController polled with
    | true =>
        refine List.mem_map.mpr ⟨own, List.mem_map.mpr ⟨own, hown, ?_⟩, hownMac⟩
        simp [Mesh.refreshController, (h.marked own hown).agent hownMac]
    | false =>
        cases hany : current.any (matchesMac polled) with
        | true =>
            refine List.mem_map.mpr
              ⟨_, List.mem_map.mpr ⟨own, hown, rfl⟩, ?_⟩
            unfold Mesh.refreshAgent
            split
            · rename_i hmatch
              have hsame := ((h.marked own hown).matchesMac_iff hpolled
                hlength).mp hmatch
              rw [hownMac] at hsame
              rw [hsame]
              exact hpolled
            · exact hownMac
        | false =>
            rw [if_neg Bool.false_ne_true, if_neg Bool.false_ne_true,
              List.map_append]
            exact List.mem_append_left _ h.stored

/-- A poll that reports the agent leaves its mark. -/
theorem allMarked_pollDeviceList {current polled : List DeviceInfo}
    (h : AllMarked mac ezmId current) (hpolled : WellFormed mac.length polled)
    (hreports : Reports mac polled) :
    AllMarked mac ezmId (pollDeviceList polled current) := by
  rcases hreports with ⟨device, hdevice, hdeviceMac, hagent⟩
  have hloop : AllMarked mac ezmId (polled.foldl pollDevice current) := by
    refine foldl_invariant (AllMarked mac ezmId) ?_ h
    intro entries other hother hentries
    apply allMarked_pollDevice hentries (hpolled.fixed other hother)
    intro hmac
    rw [hpolled.eq_of_mac hother hdevice (hmac.trans hdeviceMac.symm)]
    exact hagent
  have hkept : forall entry, Marked mac ezmId entry -> entry.mac = some mac ->
      turnOff polled entry = entry := by
    intro entry hentry hmac
    have hany : polled.any (fun other => matchesMac entry other) = true := by
      rw [List.any_eq_true]
      refine ⟨device, hdevice, ?_⟩
      unfold matchesMac
      rw [hmac, hdeviceMac]
      exact strstr_self mac
    simp [turnOff, hany]
  unfold pollDeviceList
  constructor
  · intro edited hedited
    rcases List.mem_map.mp hedited with ⟨entry, hentry, rfl⟩
    have hmarked := hloop.marked entry hentry
    by_cases hmac : entry.mac = some mac
    · rw [hkept entry hmarked hmac]
      exact hmarked
    · have hsame : (turnOff polled entry).mac = entry.mac := by
        unfold turnOff
        split
        · rfl
        · split <;> rfl
      apply Marked.of_ne
      · rw [hsame]
        exact hmarked.fixed
      · rw [hsame]
        exact hmac
  · rcases List.mem_map.mp hloop.stored with ⟨own, hown, hownMac⟩
    refine List.mem_map.mpr ⟨own, List.mem_map.mpr ⟨own, hown, ?_⟩, hownMac⟩
    exact hkept own (hloop.marked own hown) hownMac

/-- A poll that does not report the agent turns none of its entries on. -/
theorem allKeptOut_pollDeviceList {current polled : List DeviceInfo}
    (h : AllKeptOut mac current) (homits : ¬ Reports mac polled) :
    AllKeptOut mac (pollDeviceList polled current) := by
  have hloop : AllKeptOut mac (polled.foldl pollDevice current) := by
    refine foldl_invariant (AllKeptOut mac) ?_ h
    intro entries device hdevice hentries
    have hne : isController device = false -> device.mac ≠ some mac :=
      fun hagent hmac => homits ⟨device, hdevice, hmac, hagent⟩
    apply forall_pollDevice hentries
    · intro _ entry hentry
      unfold refreshController
      split
      · rename_i hrole
        exact fun _ => Or.inl hrole
      · exact hentries entry hentry
    · intro hagent entry hentry
      unfold refreshAgent
      split
      · exact fun hmac => absurd hmac (hne hagent)
      · exact hentries entry hentry
    · intro hagent _ hmac
      exact absurd hmac (hne hagent)
  unfold pollDeviceList
  intro edited hedited
  rcases List.mem_map.mp hedited with ⟨entry, hentry, rfl⟩
  unfold turnOff
  split
  · exact hloop entry hentry
  · split
    · exact hloop entry hentry
    · intro _
      right
      show deviceOff ≠ deviceOn
      decide

/-!
## Setting, marking and renaming
-/

theorem forall_setDevice {q : DeviceInfo -> Prop} {current : List DeviceInfo}
    {device : DeviceInfo} (h : forall entry, entry ∈ current -> q entry)
    (hdevice : q device) :
    forall entry, entry ∈ setDevice current device -> q entry := by
  unfold setDevice
  split
  · exact forall_updateFirst h fun _ _ _ => hdevice
  · intro entry hentry
    rcases List.mem_append.mp hentry with hold | hlast
    · exact h entry hold
    · rw [List.mem_singleton.mp hlast]
      exact hdevice

/-- A device of another mac whose `ezm_id` does not contain the agent's. -/
theorem allMarked_setDevice {current : List DeviceInfo} {device : DeviceInfo}
    (h : AllMarked mac ezmId current)
    (hfixed : forall other, device.mac = some other ->
      other.length = mac.length)
    (hne : device.mac ≠ some mac)
    (hspared : appStrstr device.ezmId ezmId = false) :
    AllMarked mac ezmId (setDevice current device) := by
  refine ⟨forall_setDevice h.marked (Marked.of_ne hfixed hne), ?_⟩
  rcases List.mem_map.mp h.stored with ⟨own, hown, hownMac⟩
  have hunmatched : matchesKey device own = false := by
    have hmarked := h.marked own hown
    rw [matchesKey, Bool.or_eq_false_iff]
    constructor
    · rw [Bool.eq_false_iff]
      intro hmatch
      unfold matchesMac at hmatch
      have heq := eq_of_appStrstr hfixed hmarked.fixed hmatch
      exact hne (heq.symm.trans hownMac)
    · unfold matchesEzmId
      rw [hmarked.own hownMac]
      exact hspared
  have hmem : own ∈ setDevice current device := by
    unfold setDevice
    split
    · rcases scan_cases (matchesKey device) current with
        hnone | ⟨front, found, back, hsplit, hfront, hfound⟩
      · rw [updateFirst_of_forall_not hnone]
        exact hown
      · rw [hsplit] at hown ⊢
        rw [updateFirst_append_cons hfront hfound]
        simp only [List.mem_append, List.mem_cons] at hown ⊢
        rcases hown with hleft | heq | hright
        · exact Or.inl hleft
        · rw [heq, hfound] at hunmatched
          cases hunmatched
        · exact Or.inr (Or.inr hright)
    · exact List.mem_append_left _ hown
  exact List.mem_map.mpr ⟨own, hmem, hownMac⟩

theorem Marked.delete {entry : DeviceInfo} (h : Told mac ezmId entry) :
    Marked mac ezmId { entry with status := deviceDeleted } where
  fixed := h.fixed
  agent := h.agent
  own := h.own
  deleted := fun _ => rfl

theorem allMarked_deleteDeviceList {current devices : List DeviceInfo}
    (h : AllMarked mac ezmId current) :
    AllMarked mac ezmId (deleteDeviceList devices current) := by
  constructor
  · unfold deleteDeviceList
    apply foldl_invariant
      (fun entries => forall entry, entry ∈ entries -> Marked mac ezmId entry)
    · intro entries device _ hentries
      apply forall_updateFirst hentries
      intro entry hentry _
      exact Marked.delete (hentries entry hentry).toTold
    · exact h.marked
  · rw [map_deleteDeviceList fun _ => rfl]
    exact h.stored

theorem allMarked_renameDeviceList {current devices : List DeviceInfo}
    (h : AllMarked mac ezmId current) :
    AllMarked mac ezmId (renameDeviceList devices current) := by
  constructor
  · unfold renameDeviceList
    apply foldl_invariant
      (fun entries => forall entry, entry ∈ entries -> Marked mac ezmId entry)
    · intro entries device _ hentries
      apply forall_updateFirst hentries
      intro entry hentry _
      have hmarked := hentries entry hentry
      exact ⟨⟨hmarked.fixed, hmarked.agent, hmarked.own⟩, hmarked.deleted⟩
    · exact h.marked
  · rw [map_renameDeviceList fun _ _ => rfl]
    exact h.stored

theorem allKeptOut_deleteDeviceList {current devices : List DeviceInfo}
    (h : AllKeptOut mac current) :
    AllKeptOut mac (deleteDeviceList devices current) := by
  unfold deleteDeviceList
  refine foldl_invariant (AllKeptOut mac) ?_ h
  intro entries device _ hentries
  apply forall_updateFirst hentries
  intro entry _ _ _
  right
  show deviceDeleted ≠ deviceOn
  decide

theorem allKeptOut_renameDeviceList {current devices : List DeviceInfo}
    (h : AllKeptOut mac current) :
    AllKeptOut mac (renameDeviceList devices current) := by
  unfold renameDeviceList
  refine foldl_invariant (AllKeptOut mac) ?_ h
  intro entries device _ hentries
  apply forall_updateFirst hentries
  intro entry hentry _
  exact hentries entry hentry

/-- One record of a deletion, when one entry has the agent's mac. -/
theorem allMarked_deleteDevice {entries : List DeviceInfo} {device : DeviceInfo}
    (hmacs : (entries.map DeviceInfo.mac).Nodup)
    (htold : forall entry, entry ∈ entries -> Told mac ezmId entry)
    (hstored : some mac ∈ entries.map DeviceInfo.mac)
    (hdevice : device.mac = some mac) :
    AllMarked mac ezmId (deleteDevice entries device) := by
  have hmatch : forall entry, entry ∈ entries ->
      (matchesMac device entry = true <-> entry.mac = some mac) :=
    fun entry hentry => (htold entry hentry).matchesMac_iff hdevice rfl
  unfold deleteDevice
  rcases scan_cases (matchesMac device) entries with
    hnone | ⟨front, found, back, rfl, hfront, hfound⟩
  · rcases List.mem_map.mp hstored with ⟨own, hown, hownMac⟩
    have hownMatch := (hmatch own hown).mpr hownMac
    rw [hnone own hown] at hownMatch
    cases hownMatch
  · have hmem : found ∈ front ++ found :: back := by
      simp
    have hfoundMac := (hmatch found hmem).mp hfound
    rw [updateFirst_append_cons hfront hfound]
    rw [List.map_append, List.map_cons, List.nodup_middle, List.nodup_cons,
      hfoundMac, ← List.map_append] at hmacs
    constructor
    · intro entry hentry
      rcases List.mem_append.mp hentry with hleft | hright
      · exact Marked.of_ne
          (htold entry (List.mem_append_left _ hleft)).fixed
          fun hmac => hmacs.1 (hmac ▸ List.mem_map_of_mem
            (List.mem_append_left back hleft))
      · rcases List.mem_cons.mp hright with heq | hright
        · rw [heq]
          exact Marked.delete (htold found hmem)
        · exact Marked.of_ne
            (htold entry (List.mem_append_right _
              (List.mem_cons_of_mem _ hright))).fixed
            fun hmac => hmacs.1 (hmac ▸ List.mem_map_of_mem
              (List.mem_append_right front hright))
    · rw [List.map_append, List.map_cons]
      exact List.mem_append_right _ (hfoundMac ▸ List.mem_cons_self)

/-- Deleting the agent marks it. -/
theorem allMarked_of_delete {current devices : List DeviceInfo}
    {agent device : DeviceInfo}
    (hmacs : (current.map DeviceInfo.mac).Nodup)
    (hfixed : forall entry, entry ∈ current -> forall other,
      entry.mac = some other -> other.length = mac.length)
    (hagent : agent ∈ current) (hagentMac : agent.mac = some mac)
    (hrole : isController agent = false)
    (hdevice : device ∈ devices) (hdeviceMac : device.mac = some mac) :
    AllMarked mac agent.ezmId (deleteDeviceList devices current) := by
  rcases List.append_of_mem hdevice with ⟨before, after, rfl⟩
  have hsplit : deleteDeviceList (before ++ device :: after) current =
      deleteDeviceList after
        (deleteDevice (deleteDeviceList before current) device) := by
    unfold deleteDeviceList
    rw [List.foldl_append, List.foldl_cons]
  rw [hsplit]
  apply allMarked_deleteDeviceList
  -- The records before this one leave the macs and what the entries tell.
  apply allMarked_deleteDevice
  · rw [map_deleteDeviceList fun _ => rfl]
    exact hmacs
  · unfold deleteDeviceList
    apply foldl_invariant
      (fun entries => forall entry, entry ∈ entries ->
        Told mac agent.ezmId entry)
    · intro entries other _ hentries
      apply forall_updateFirst hentries
      intro entry hentry _
      exact (Marked.delete (hentries entry hentry)).toTold
    · intro entry hentry
      have hown : entry.mac = some mac -> entry = agent := fun hmac =>
        List.inj_on_of_nodup_map hmacs hentry hagent (hmac.trans hagentMac.symm)
      refine ⟨hfixed entry hentry, ?_, ?_⟩
      · intro hmac
        rw [hown hmac]
        exact hrole
      · intro hmac
        rw [hown hmac]
  · rw [map_deleteDeviceList fun _ => rfl, ← hagentMac]
    exact List.mem_map_of_mem hagent
  · exact hdeviceMac

/-!
## Runs
-/

/-- What may follow the deletion: topologies that are well formed, devices set
with neither key of the agent, any renaming and any deletion. -/
def Follows (mac : String) (ezmId : Option String) : DeviceRequest -> Prop
  | .poll polled => WellFormed mac.length polled
  | .set devices => forall device, device ∈ devices ->
      (forall other, device.mac = some other -> other.length = mac.length) ∧
        device.mac ≠ some mac ∧ (device.ezmId ≠ none -> device.ezmId ≠ ezmId)
  | .rename _ => True
  | .delete _ => True

/-- One completed call after the deletion. -/
def FollowingStep (mac : String) (ezmId : Option String) (w : World)
    (request : DeviceRequest) (w' : World) : Prop :=
  Follows mac ezmId request ∧ request.exec w = .ok ((), w')

/-- Before the first poll that misses the agent. -/
def KeepsMark (mac : String) (ezmId : Option String) : DeviceRequest -> Prop
  | .poll polled => Reports mac polled
  | .set devices => forall device, device ∈ devices ->
      appStrstr device.ezmId ezmId = false
  | .rename _ => True
  | .delete _ => True

/-- From then on. -/
def KeepsOut (mac : String) : DeviceRequest -> Prop
  | .poll polled => ¬ Reports mac polled
  | _ => True

/-- The polls that report the agent all come before those that do not. -/
def ReportedFirst (mac : String) (ezmId : Option String)
    (requests : List DeviceRequest) : Prop :=
  exists early late, requests = early ++ late ∧
    (forall request, request ∈ early -> KeepsMark mac ezmId request) ∧
    forall request, request ∈ late -> KeepsOut mac request

theorem allMarked_edit {current : List DeviceInfo} {request : DeviceRequest}
    (h : AllMarked mac ezmId current) (hfollows : Follows mac ezmId request)
    (hkeeps : KeepsMark mac ezmId request) :
    AllMarked mac ezmId (request.edit current) := by
  cases request with
  | set devices =>
      refine foldl_invariant (AllMarked mac ezmId) ?_ h
      intro entries device hdevice hentries
      rcases hfollows device hdevice with ⟨hfixed, hne, -⟩
      exact allMarked_setDevice hentries hfixed hne (hkeeps device hdevice)
  | poll polled => exact allMarked_pollDeviceList h hfollows hkeeps
  | rename devices => exact allMarked_renameDeviceList h
  | delete devices => exact allMarked_deleteDeviceList h

theorem allKeptOut_edit {current : List DeviceInfo} {request : DeviceRequest}
    (h : AllKeptOut mac current) (hfollows : Follows mac ezmId request)
    (hkeeps : KeepsOut mac request) : AllKeptOut mac (request.edit current) := by
  cases request with
  | set devices =>
      refine foldl_invariant (AllKeptOut mac) ?_ h
      intro entries device hdevice hentries
      apply forall_setDevice hentries
      intro hmac
      exact absurd hmac (hfollows device hdevice).2.1
  | poll polled => exact allKeptOut_pollDeviceList h hkeeps
  | rename devices => exact allKeptOut_renameDeviceList h
  | delete devices => exact allKeptOut_deleteDeviceList h

/-- Asking for the devices that are on does not return the agent. -/
def NotReturned (mac : String) (w : World) : Prop :=
  forall devices w', requestDeviceListFromFileByStatus deviceOn w =
      .ok (devices, w') ->
    forall device, device ∈ devices -> device.mac = some mac ->
      isController device = true

theorem notReturned_of_allKeptOut {w : World} (h : Healthy w.files)
    (hkept : AllKeptOut mac (storedDevices w)) : NotReturned mac w := by
  intro devices w' hrun device hdevice hmac
  rw [run_requestDeviceListFromFileByStatus h] at hrun
  cases hrun
  rcases List.mem_filter.mp hdevice with ⟨hmem, hon⟩
  rcases hkept device hmem hmac with hrole | hoff
  · exact hrole
  · exact absurd (of_decide_eq_true hon) hoff

theorem allKeptOut_of_run {w w' : World} {requests : List DeviceRequest}
    (h : Healthy w.files) (hmarked : AllMarked mac ezmId (storedDevices w))
    (hrun : Runs (FollowingStep mac ezmId) w requests w')
    (hfirst : ReportedFirst mac ezmId requests) :
    Healthy w'.files ∧ AllKeptOut mac (storedDevices w') := by
  rcases hfirst with ⟨early, late, rfl, hearly, hlate⟩
  rcases hrun.split with ⟨s, hrunEarly, hrunLate⟩
  have hmissed := (hrunEarly.restrict hearly).invariant
    (fun s => Healthy s.files ∧ AllMarked mac ezmId (storedDevices s))
    (by
      rintro t request t' ⟨hhealthy, ht⟩ ⟨⟨hfollows, hexec⟩, hkeeps⟩
      rw [DeviceRequest.run_exec hhealthy] at hexec
      cases hexec
      rw [storedDevices_storeDevices]
      exact ⟨healthy_storeDevices hhealthy _,
        allMarked_edit ht hfollows hkeeps⟩)
    ⟨h, hmarked⟩
  exact (hrunLate.restrict hlate).invariant
    (fun s => Healthy s.files ∧ AllKeptOut mac (storedDevices s))
    (by
      rintro t request t' ⟨hhealthy, ht⟩ ⟨⟨hfollows, hexec⟩, hkeeps⟩
      rw [DeviceRequest.run_exec hhealthy] at hexec
      cases hexec
      rw [storedDevices_storeDevices]
      exact ⟨healthy_storeDevices hhealthy _,
        allKeptOut_edit ht hfollows hkeeps⟩)
    ⟨hmissed.1, hmissed.2.allKeptOut⟩

end

/-- An agent of the device file that a deletion names. -/
structure Deletes (w : World) (devices : List DeviceInfo) (agent : DeviceInfo)
    (mac : String) : Prop where
  macs : ((storedDevices w).map DeviceInfo.mac).Nodup
  fixed : forall entry, entry ∈ storedDevices w -> forall other,
    entry.mac = some other -> other.length = mac.length
  stored : agent ∈ storedDevices w
  key : agent.mac = some mac
  role : isController agent = false
  named : exists device, device ∈ devices ∧ device.mac = some mac

/-- A deleted agent is not returned after any run in which it is reported
before it is missed. -/
theorem notReturned_of_run {w deleted w' : World} {devices : List DeviceInfo}
    {agent : DeviceInfo} {mac : String} {requests : List DeviceRequest}
    (h : Healthy w.files) (hagent : Deletes w devices agent mac)
    (hdelete : (DeviceRequest.delete devices).exec w = .ok ((), deleted))
    (hrun : Runs (FollowingStep mac agent.ezmId) deleted requests w')
    (hfirst : ReportedFirst mac agent.ezmId requests) : NotReturned mac w' := by
  rw [DeviceRequest.run_exec h] at hdelete
  cases hdelete
  rcases hagent.named with ⟨device, hdevice, hdeviceMac⟩
  have hmarked := allMarked_of_delete hagent.macs hagent.fixed hagent.stored
    hagent.key hagent.role hdevice hdeviceMac
  have hend := allKeptOut_of_run (healthy_storeDevices h _)
    (by
      rw [storedDevices_storeDevices]
      exact hmarked)
    hrun hfirst
  exact notReturned_of_allKeptOut hend.1 hend.2

/-!
## A run, and an agent that comes back
-/

theorem deletes_hallway :
    Deletes pairedWorld [hallway] hallway "02:00:00:00:00:02" := by
  constructor
  · rw [storedDevices_pairedWorld]
    decide
  · rw [storedDevices_pairedWorld]
    decide
  · rw [storedDevices_pairedWorld]
    decide
  · rfl
  · decide
  · exact ⟨hallway, List.mem_cons_self, rfl⟩

theorem follows_gateway : Follows "02:00:00:00:00:02" hallway.ezmId
    (.poll [gateway]) where
  roles := ⟨gateway, [], rfl, by decide, by decide⟩
  macs := by decide
  fixed := by
    intro device hdevice
    rw [List.mem_singleton.mp hdevice]
    exact ⟨_, rfl, by decide⟩

theorem follows_both : Follows "02:00:00:00:00:02" hallway.ezmId
    (.poll [gateway, hallway]) where
  roles := ⟨gateway, [hallway], rfl, by decide, by decide⟩
  macs := by decide
  fixed := by
    intro device hdevice
    rcases List.mem_cons.mp hdevice with rfl | hdevice
    · exact ⟨_, rfl, by decide⟩
    · rw [List.mem_singleton.mp hdevice]
      exact ⟨_, rfl, by decide⟩

/-- The agent is deleted, reported once more, then missed. -/
theorem notReturned_of_run_hallway :
    exists deleted polled missed,
      (DeviceRequest.delete [hallway]).exec pairedWorld = .ok ((), deleted) ∧
      (DeviceRequest.poll [gateway, hallway]).exec deleted = .ok ((), polled) ∧
      (DeviceRequest.poll [gateway]).exec polled = .ok ((), missed) ∧
      NotReturned "02:00:00:00:00:02" missed := by
  refine ⟨_, _, _, rfl, rfl, rfl,
    notReturned_of_run healthy_pairedWorld deletes_hallway rfl
      (Runs.cons ⟨follows_both, rfl⟩
        (Runs.cons ⟨follows_gateway, rfl⟩ (Runs.nil _)))
      ⟨[.poll [gateway, hallway]], [.poll [gateway]], rfl, ?_, ?_⟩⟩
  · intro request hrequest
    rw [List.mem_singleton.mp hrequest]
    exact ⟨hallway, by simp, rfl, by decide⟩
  · intro request hrequest
    rw [List.mem_singleton.mp hrequest]
    rintro ⟨device, hdevice, hmac, -⟩
    rw [List.mem_singleton.mp hdevice] at hmac
    revert hmac
    decide

/-- One poll that misses the agent overwrites its mark, and the next poll that
reports it turns it on. -/
theorem not_notReturned_of_reported_again :
    ¬ forall (w deleted w' : World) (devices : List DeviceInfo)
      (agent : DeviceInfo) (mac : String) (requests : List DeviceRequest),
      Healthy w.files -> Deletes w devices agent mac ->
      (DeviceRequest.delete devices).exec w = .ok ((), deleted) ->
      Runs (FollowingStep mac agent.ezmId) deleted requests w' ->
      NotReturned mac w' := by
  intro hclaim
  have hreturned := hclaim pairedWorld _ _ [hallway] hallway "02:00:00:00:00:02"
    [.poll [gateway], .poll [gateway, hallway]]
    healthy_pairedWorld deletes_hallway rfl
    (Runs.cons ⟨follows_gateway, rfl⟩
      (Runs.cons ⟨follows_both, rfl⟩ (Runs.nil _)))
  have hrole := hreturned _ _ rfl hallway
  revert hrole
  decide

end Mesh
end Noc
