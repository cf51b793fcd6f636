import Noc.Mesh.ListedOnce

/-!
# Entries taken over

A device that is stored takes over the first entry it matches, be it one that
the same list has just stored.  What a list stores is there at its end unless
a later device of the list takes it over.
-/

namespace Noc
namespace Mesh

open Foundation

def paired (device : DeviceInfo) : DeviceInfo :=
  { device with status := devicePairing }

/-- None of the later devices takes over the only entry of a device. -/
def Remains (device : DeviceInfo) : List DeviceInfo -> List DeviceInfo -> Prop
  | _, [] => True
  | entries, next :: later =>
      (entries.find? (matchesKey next) = some device ->
        1 < entries.count device) ∧
      Remains device (setDevice entries next) later

/-- No device of the list is taken over by the devices behind it. -/
def EachRemains (stored devices : List DeviceInfo) : Prop :=
  forall before device after, devices = before ++ device :: after ->
    device ∉ after ->
      Remains device (setDeviceList (before ++ [device]) stored) after

section

variable {device next : DeviceInfo}
variable {entries stored devices later : List DeviceInfo}

/-- A device is appended or takes the place of the first entry it matches. -/
theorem setDevice_cases (entries : List DeviceInfo) (next : DeviceInfo) :
    (entries.find? (matchesKey next) = none ∧
      setDevice entries next = entries ++ [next]) ∨
    exists front found back, entries = front ++ found :: back ∧
      entries.find? (matchesKey next) = some found ∧
      setDevice entries next = front ++ next :: back := by
  unfold setDevice
  rcases scan_cases (matchesKey next) entries with
    hnone | ⟨front, found, back, hsplit, hfront, hfound⟩
  · left
    have hany : entries.any (matchesKey next) = false := by
      simpa using hnone
    rw [hany, if_neg Bool.false_ne_true]
    refine ⟨List.find?_eq_none.mpr ?_, rfl⟩
    intro entry hentry
    simp [hnone entry hentry]
  · right
    have hany : entries.any (matchesKey next) = true := by
      rw [List.any_eq_true]
      exact ⟨found, by rw [hsplit]; simp, hfound⟩
    rw [hany, if_pos rfl, hsplit, updateFirst_append_cons hfront hfound]
    exact ⟨front, found, back, rfl, find?_append_cons hfront hfound back, rfl⟩

theorem mem_setDevice_self (entries : List DeviceInfo) (device : DeviceInfo) :
    device ∈ setDevice entries device := by
  rcases setDevice_cases entries device with
    ⟨_, hset⟩ | ⟨front, found, back, _, _, hset⟩
  · rw [hset]
    exact List.mem_append_right entries List.mem_cons_self
  · rw [hset]
    exact List.mem_append_right front List.mem_cons_self

/-- A stored device is there after another one unless that one takes over its
only entry. -/
theorem mem_setDevice_iff (hmem : device ∈ entries) (hne : next ≠ device) :
    device ∈ setDevice entries next <->
      (entries.find? (matchesKey next) = some device ->
        1 < entries.count device) := by
  rcases setDevice_cases entries next with
    ⟨hfind, hset⟩ | ⟨front, found, back, hsplit, hfind, hset⟩
  · rw [hset, hfind]
    exact iff_of_true (List.mem_append_left [next] hmem) fun heq => by cases heq
  · rw [hset, hfind, Option.some_inj, mem_append_cons,
      or_iff_right fun heq => hne heq.symm]
    by_cases hsame : found = device
    · have hcount : entries.count device = (front ++ back).count device + 1 := by
        rw [hsplit, hsame, List.count_append, List.count_cons_self,
          List.count_append, Nat.add_assoc]
      rw [imp_iff_right hsame, hcount, ← List.count_pos_iff]
      omega
    · rw [hsplit, mem_append_cons] at hmem
      exact iff_of_true (hmem.resolve_left fun heq => hsame heq.symm)
        fun heq => absurd heq hsame

theorem not_mem_setDevice (hnot : device ∉ entries) (hne : next ≠ device) :
    device ∉ setDevice entries next := by
  rcases setDevice_cases entries next with
    ⟨_, hset⟩ | ⟨front, found, back, hsplit, _, hset⟩
  · rw [hset, List.mem_append, List.mem_singleton, not_or]
    exact ⟨hnot, fun heq => hne heq.symm⟩
  · rw [hsplit, mem_append_cons, not_or] at hnot
    rw [hset, mem_append_cons, not_or]
    exact ⟨fun heq => hne heq.symm, hnot.2⟩

theorem not_mem_setDeviceList (hnot : device ∉ entries) (hlater : device ∉ later) :
    device ∉ setDeviceList later entries := by
  unfold setDeviceList
  induction later generalizing entries with
  | nil => exact hnot
  | cons next rest ih =>
      rw [List.mem_cons, not_or] at hlater
      exact ih (not_mem_setDevice hnot fun heq => hlater.1 heq.symm) hlater.2

theorem mem_setDeviceList_iff (hmem : device ∈ entries) (hlater : device ∉ later) :
    device ∈ setDeviceList later entries <-> Remains device entries later := by
  induction later generalizing entries with
  | nil => exact iff_of_true hmem trivial
  | cons next rest ih =>
      rw [List.mem_cons, not_or] at hlater
      have hne : next ≠ device := fun heq => hlater.1 heq.symm
      show device ∈ setDeviceList rest (setDevice entries next) <-> _
      unfold Remains
      rw [← mem_setDevice_iff hmem hne]
      by_cases hkept : device ∈ setDevice entries next
      · rw [and_iff_right hkept]
        exact ih hkept hlater.2
      · exact iff_of_false (not_mem_setDeviceList hkept hlater.2)
          fun h => hkept h.1

theorem remains_of_unmatched
    (h : forall next, next ∈ later -> matchesKey next device = false) :
    Remains device entries later := by
  induction later generalizing entries with
  | nil => trivial
  | cons next rest ih =>
      constructor
      · intro hfind
        have hmatch := List.find?_some hfind
        rw [h next List.mem_cons_self] at hmatch
        cases hmatch
      · exact ih fun other hother => h other (List.mem_cons_of_mem next hother)

/-- The devices of a list stay stored when none matches one before it. -/
theorem eachRemains_of_pairwise
    (h : devices.Pairwise fun device later => matchesKey later device = false) :
    EachRemains stored devices := by
  intro before device after hdevices _
  rw [hdevices] at h
  have hafter := (List.pairwise_cons.mp (List.pairwise_append.mp h).2.1).1
  exact remains_of_unmatched hafter

/-- A list splits at the last place of a member. -/
theorem exists_last_of_mem (h : device ∈ devices) :
    exists before after, devices = before ++ device :: after ∧ device ∉ after := by
  have hreverse : device ∈ devices.reverse := List.mem_reverse.mpr h
  rcases List.eq_append_cons_of_mem hreverse with ⟨front, back, hsplit, hfront⟩
  refine ⟨back.reverse, front.reverse, ?_, ?_⟩
  · rw [← List.reverse_reverse devices, hsplit]
    simp
  · intro hmem
    exact hfront (List.mem_reverse.mp hmem)

/-- Every device of a list is stored at its end if none is taken over. -/
theorem forall_mem_setDeviceList_iff :
    (forall device, device ∈ devices -> device ∈ setDeviceList devices stored) <->
      EachRemains stored devices := by
  have hsplit : forall before device after, device ∉ after ->
      (device ∈ setDeviceList (before ++ device :: after) stored <->
        Remains device (setDeviceList (before ++ [device]) stored) after) := by
    intro before device after hafter
    have hplaced : device ∈ setDeviceList (before ++ [device]) stored := by
      unfold setDeviceList
      rw [List.foldl_append]
      exact mem_setDevice_self _ device
    rw [← mem_setDeviceList_iff hplaced hafter]
    unfold setDeviceList
    rw [← List.foldl_append, List.append_assoc, List.singleton_append]
  constructor
  · intro hall before device after hdevices hafter
    have hmem : device ∈ devices := by
      rw [hdevices]
      exact List.mem_append_right before List.mem_cons_self
    have hstored := hall device hmem
    rw [hdevices] at hstored
    exact (hsplit before device after hafter).mp hstored
  · intro hremains device hmem
    rcases exists_last_of_mem hmem with ⟨before, after, hdevices, hafter⟩
    have hremains := hremains before device after hdevices hafter
    rw [hdevices]
    exact (hsplit before device after hafter).mpr hremains

end

end Mesh
end Noc
