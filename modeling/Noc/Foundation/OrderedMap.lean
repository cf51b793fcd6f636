import Mathlib.Data.List.Nodup

/-!
# Finite ordered maps

A map from keys to values whose entries stand in a row: new entries go to the
end, a replaced one keeps its place and what is left after a removal keeps its
order.  Keys are distinct by construction.
-/

namespace Noc
namespace Foundation

structure OrderedMap (κ β : Type) where
  entries : List (κ × β)
  nodup : (entries.map Prod.fst).Nodup

namespace OrderedMap

variable {κ β : Type}

theorem ext {m m' : OrderedMap κ β} (h : m.entries = m'.entries) : m = m' := by
  cases m
  cases m'
  cases h
  rfl

def keys (m : OrderedMap κ β) : List κ :=
  m.entries.map Prod.fst

def empty : OrderedMap κ β where
  entries := []
  nodup := List.nodup_nil

def append (m : OrderedMap κ β) (new : List (κ × β))
    (hnew : ((m.entries ++ new).map Prod.fst).Nodup) : OrderedMap κ β where
  entries := m.entries ++ new
  nodup := hnew

variable [DecidableEq κ]

/-!
## One key
-/

def replaceEntry (key : κ) (value : β) (entry : κ × β) : κ × β :=
  if entry.1 = key then (key, value) else entry

theorem replaceEntry_fst (key : κ) (value : β) (entry : κ × β) :
    (replaceEntry key value entry).1 = entry.1 := by
  unfold replaceEntry
  split
  · rename_i hkey
    exact hkey.symm
  · rfl

theorem map_fst_replaceEntry (key : κ) (value : β) (entries : List (κ × β)) :
    (entries.map (replaceEntry key value)).map Prod.fst =
      entries.map Prod.fst := by
  rw [List.map_map]
  exact List.map_congr_left fun entry _ => replaceEntry_fst key value entry

def replace (m : OrderedMap κ β) (key : κ) (value : β) : OrderedMap κ β where
  entries := m.entries.map (replaceEntry key value)
  nodup := by
    rw [map_fst_replaceEntry]
    exact m.nodup

def remove (m : OrderedMap κ β) (key : κ) : OrderedMap κ β where
  entries := m.entries.filter fun entry => entry.1 ≠ key
  nodup := (List.filter_sublist.map Prod.fst).nodup m.nodup

theorem keys_replace (m : OrderedMap κ β) (key : κ) (value : β) :
    (m.replace key value).keys = m.keys :=
  map_fst_replaceEntry key value m.entries

theorem mem_keys_remove {m : OrderedMap κ β} {key other : κ} :
    other ∈ (m.remove key).keys <-> other ∈ m.keys ∧ other ≠ key := by
  unfold keys remove
  simp only [List.mem_map, List.mem_filter, decide_eq_true_eq]
  constructor
  · rintro ⟨entry, ⟨hmem, hne⟩, rfl⟩
    exact ⟨⟨entry, hmem, rfl⟩, hne⟩
  · rintro ⟨⟨entry, hmem, rfl⟩, hne⟩
    exact ⟨entry, ⟨hmem, hne⟩, rfl⟩

/-- Erasing the first entry with a key erases all there are. -/
theorem eraseP_eq_filter {entries : List (κ × β)} {p : κ × β -> Bool} {key : κ}
    (h : (entries.map Prod.fst).Nodup)
    (hp : forall entry, entry ∈ entries -> (p entry = true <-> entry.1 = key)) :
    entries.eraseP p = entries.filter fun entry => entry.1 ≠ key := by
  induction entries with
  | nil => rfl
  | cons entry rest ih =>
      rw [List.map_cons, List.nodup_cons] at h
      have hrest := fun other hmem => hp other (List.mem_cons_of_mem entry hmem)
      by_cases hkey : entry.1 = key
      · have hothers : forall other, other ∈ rest -> other.1 ≠ key := by
          intro other hmem hother
          apply h.1
          rw [hkey, ← hother]
          exact List.mem_map_of_mem hmem
        rw [List.eraseP_cons_of_pos ((hp entry List.mem_cons_self).mpr hkey),
          List.filter_cons_of_neg (by simpa using hkey)]
        refine (List.filter_eq_self.mpr ?_).symm
        intro other hmem
        simpa using hothers other hmem
      · rw [List.eraseP_cons_of_neg fun hfound =>
            hkey ((hp entry List.mem_cons_self).mp hfound),
          List.filter_cons_of_pos (by simpa using hkey), ih h.2 hrest]

/-!
## Many keys

Of several values for one key the last one stays.
-/

def lastValue (requests : List (κ × β)) (key : κ) : Option β :=
  (requests.reverse.find? fun request => request.1 = key).map Prod.snd

theorem lastValue_cons (request : κ × β) (requests : List (κ × β)) (key : κ) :
    lastValue (request :: requests) key =
      (lastValue requests key).or
        (if request.1 = key then some request.2 else none) := by
  unfold lastValue
  rw [List.reverse_cons, List.find?_append]
  cases requests.reverse.find? fun request => request.1 = key with
  | some found => rfl
  | none => by_cases hkey : request.1 = key <;> simp [hkey]

theorem lastValue_of_absent {requests : List (κ × β)} {key : κ}
    (h : key ∉ requests.map Prod.fst) : lastValue requests key = none := by
  unfold lastValue
  rw [Option.map_eq_none_iff, List.find?_eq_none]
  intro request hmem hkey
  apply h
  rw [← of_decide_eq_true hkey]
  exact List.mem_map_of_mem (List.mem_reverse.mp hmem)

def replaceAll (m : OrderedMap κ β) (requests : List (κ × β)) :
    OrderedMap κ β where
  entries := m.entries.map fun entry =>
    (entry.1, (lastValue requests entry.1).getD entry.2)
  nodup := by
    rw [List.map_map]
    exact m.nodup

def removeAll (m : OrderedMap κ β) (removed : List κ) : OrderedMap κ β where
  entries := m.entries.filter fun entry => entry.1 ∉ removed
  nodup := (List.filter_sublist.map Prod.fst).nodup m.nodup

/-- Replacing one request after the other. -/
theorem foldl_replace (m : OrderedMap κ β) (requests : List (κ × β)) :
    requests.foldl (fun m request => m.replace request.1 request.2) m =
      m.replaceAll requests := by
  induction requests generalizing m with
  | nil =>
      apply ext
      exact (List.map_id' m.entries).symm
  | cons request rest ih =>
      rw [List.foldl_cons, ih]
      apply ext
      show (m.entries.map (replaceEntry request.1 request.2)).map _ =
        m.entries.map _
      rw [List.map_map]
      apply List.map_congr_left
      intro entry _
      show (_, (lastValue rest _).getD _) = (_, (lastValue _ entry.1).getD _)
      rw [lastValue_cons, replaceEntry_fst]
      unfold replaceEntry
      by_cases hkey : entry.1 = request.1
      · rw [if_pos hkey, if_pos hkey.symm]
        cases lastValue rest entry.1 <;> rfl
      · rw [if_neg hkey, if_neg fun h => hkey h.symm, Option.or_none]

/-- Removing one key after the other. -/
theorem foldl_remove (m : OrderedMap κ β) (removed : List κ) :
    removed.foldl remove m = m.removeAll removed := by
  induction removed generalizing m with
  | nil =>
      apply ext
      exact (List.filter_eq_self.mpr fun _ _ => rfl).symm
  | cons key rest ih =>
      rw [List.foldl_cons, ih]
      apply ext
      show (m.entries.filter _).filter _ = m.entries.filter _
      rw [List.filter_filter]
      apply List.filter_congr
      intro entry _
      simp [Bool.and_comm]

theorem replaceAll_of_absent {m : OrderedMap κ β} {requests : List (κ × β)}
    (h : forall request, request ∈ requests -> request.1 ∉ m.keys) :
    m.replaceAll requests = m := by
  apply ext
  show m.entries.map _ = m.entries
  conv_rhs => rw [← List.map_id' m.entries]
  apply List.map_congr_left
  intro entry hentry
  have habsent : entry.1 ∉ requests.map Prod.fst := by
    intro hmem
    rcases List.mem_map.mp hmem with ⟨request, hrequest, hkey⟩
    apply h request hrequest
    rw [hkey]
    exact List.mem_map_of_mem hentry
  rw [lastValue_of_absent habsent]
  rfl

theorem removeAll_of_absent {m : OrderedMap κ β} {removed : List κ}
    (h : forall key, key ∈ removed -> key ∉ m.keys) : m.removeAll removed = m := by
  apply ext
  refine List.filter_eq_self.mpr ?_
  intro entry hentry
  have hkey : entry.1 ∉ removed := fun hmem =>
    h entry.1 hmem (List.mem_map_of_mem hentry)
  simpa using hkey

end OrderedMap
end Foundation
end Noc
