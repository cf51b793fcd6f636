import Noc.Foundation.OrderedMap
import Noc.Foundation.Runs
import Noc.Network.Iptables.Store

/-!
# The forwarding list as an ordered map

With identifiers of one length a stored profile is found by its own identifier
only.  The three operations on the forwarding list are then those of a finite
ordered map from identifiers to profiles.
-/

namespace Noc
namespace Network

open Api
open Foundation
open Foundation.Exec

/-!
## Calls

What the model says of a call: the map it leaves and the code it returns.
-/

abbrev ForwardingMap := OrderedMap String Iptable

inductive ForwardingCall where
  | create (uuid : Nat -> String) (creates : List Iptable)
  | update (updates : List Iptable)
  | delete (deletes : List Iptable)

/-- The records of a request that carry an identifier, with it. -/
def keyed (requests : List Iptable) : List (String × Iptable) :=
  requests.filterMap fun request => request.id.map fun id => (id, request)

def requestedIds (requests : List Iptable) : List String :=
  (keyed requests).map Prod.fst

namespace ForwardingCall

def exec : ForwardingCall -> Daemon (ErrorCode × List Iptable)
  | create uuid creates => iptablesDnatForwardingCreate uuid creates
  | update updates => iptablesDnatForwardingUpdate updates
  | delete deletes => iptablesDnatForwardingDelete deletes

/-- The entries a call leaves. -/
def entriesAfter (m : ForwardingMap) : ForwardingCall -> List (String × Iptable)
  | create uuid creates => m.entries ++ keyed (createdProfiles uuid creates)
  | update updates => (m.replaceAll (keyed updates)).entries
  | delete deletes => (m.removeAll (requestedIds deletes)).entries

/-- Whether a request names an entry. -/
def Finds (m : ForwardingMap) (requests : List Iptable) : Prop :=
  exists id, id ∈ requestedIds requests ∧ id ∈ m.keys

instance (m : ForwardingMap) (requests : List Iptable) :
    Decidable (Finds m requests) :=
  inferInstanceAs (Decidable (exists id, id ∈ requestedIds requests ∧ id ∈ m.keys))

def codeOf (m : ForwardingMap) : ForwardingCall -> ErrorCode
  | create _ _ => .success
  | update updates => if Finds m updates then .success else .idMismatched
  | delete deletes => if Finds m deletes then .success else .idMismatched

/-- A requested identifier is stored or contains no stored one. -/
def Separate (stored requests : List Iptable) : Prop :=
  forall id, id ∈ requestedIds requests ->
    some id ∈ stored.map Iptable.id ∨
      forall other, some other ∈ stored.map Iptable.id -> strstr id other = false

/-- New identifiers are fresh and of the one length. -/
def Admitted (length : Nat) (stored : List Iptable) : ForwardingCall -> Prop
  | create uuid creates =>
      ((stored ++ createdProfiles uuid creates).map Iptable.id).Nodup ∧
        forall id, id ∈ requestedIds (createdProfiles uuid creates) ->
          id.length = length
  | update updates => Separate stored updates
  | delete deletes => Separate stored deletes

end ForwardingCall

/-- The code a call returns; `none` is a call that stops at a NULL pointer. -/
def resultCode : Except (Fault × World) ((ErrorCode × List Iptable) × World) ->
    Option ErrorCode
  | .ok ((err, _), _) => some err
  | .error _ => none

structure ForwardingStep (length : Nat) (w : World)
    (label : ForwardingCall × Option ErrorCode) (w' : World) : Prop where
  admitted : label.1.Admitted length (storedForwarding w)
  code : label.2 = resultCode (label.1.exec w)
  ends : w' = final label.1.exec w

structure MapStep (m : ForwardingMap)
    (label : ForwardingCall × Option ErrorCode) (m' : ForwardingMap) : Prop where
  entries : m'.entries = label.1.entriesAfter m
  code : forall err, label.2 = some err -> err = label.1.codeOf m
  unchanged : label.1.codeOf m = .idMismatched -> m' = m

/-!
## Representing a list
-/

/-- All identifiers are there, distinct and of one length. -/
structure Keyed (length : Nat) (stored : List Iptable) : Prop where
  present : forall iptables, iptables ∈ stored -> exists id,
    iptables.id = some id ∧ id.length = length
  distinct : (stored.map Iptable.id).Nodup

structure Represents (length : Nat) (stored : List Iptable)
    (m : ForwardingMap) : Prop where
  values : stored = m.entries.map Prod.snd
  ids : forall entry, entry ∈ m.entries -> entry.2.id = some entry.1
  lengths : forall id, id ∈ m.keys -> id.length = length

section

variable {length : Nat} {stored : List Iptable} {m : ForwardingMap}

theorem Represents.map_id (h : Represents length stored m) :
    stored.map Iptable.id = m.keys.map some := by
  unfold OrderedMap.keys
  rw [h.values, List.map_map, List.map_map]
  exact List.map_congr_left h.ids

theorem Represents.some_mem_iff (h : Represents length stored m) (id : String) :
    some id ∈ stored.map Iptable.id <-> id ∈ m.keys := by
  rw [h.map_id]
  simp

theorem exists_represents (h : Keyed length stored) :
    exists m, Represents length stored m := by
  let entries := stored.map fun iptables => (iptables.id.getD "", iptables)
  have hids : forall entry, entry ∈ entries ->
      entry.2.id = some entry.1 ∧ entry.1.length = length := by
    intro entry hmem
    rcases List.mem_map.mp hmem with ⟨iptables, hstored, rfl⟩
    rcases h.present iptables hstored with ⟨id, hid, hlength⟩
    simp [hid, hlength]
  have hkeys : (entries.map Prod.fst).map some = stored.map Iptable.id := by
    rw [List.map_map, List.map_map]
    apply List.map_congr_left
    intro iptables hstored
    exact (hids _ (List.mem_map_of_mem hstored)).1.symm
  have hnodup : (entries.map Prod.fst).Nodup := by
    apply List.Nodup.of_map some
    rw [hkeys]
    exact h.distinct
  refine ⟨⟨entries, hnodup⟩, ?_, fun entry hmem => (hids entry hmem).1, ?_⟩
  · rw [List.map_map]
    exact (List.map_id' stored).symm
  · intro id hmem
    rcases List.mem_map.mp hmem with ⟨entry, hentry, rfl⟩
    exact (hids entry hentry).2

/-- A record finds at most the entry with its own identifier. -/
def Exact (m : ForwardingMap) (request : Iptable) : Prop :=
  forall id, request.id = some id -> forall other, other ∈ m.keys ->
    strstr id other = true -> other = id

theorem mem_requestedIds {requests : List Iptable} {id : String} :
    id ∈ requestedIds requests <->
      exists request, request ∈ requests ∧ request.id = some id := by
  unfold requestedIds keyed
  simp only [List.mem_map, List.mem_filterMap, Option.map_eq_some_iff]
  constructor
  · rintro ⟨_, ⟨request, hmem, other, hid, rfl⟩, rfl⟩
    exact ⟨request, hmem, hid⟩
  · rintro ⟨request, hmem, hid⟩
    exact ⟨(id, request), ⟨request, hmem, id, hid, rfl⟩, rfl⟩

theorem exact_of_separate (h : Represents length stored m)
    {requests : List Iptable} (hseparate : ForwardingCall.Separate stored requests)
    {request : Iptable} (hmem : request ∈ requests) : Exact m request := by
  intro id hid other hother hfound
  cases hseparate id (mem_requestedIds.mpr ⟨request, hmem, hid⟩) with
  | inl hstored =>
      have hlength : id.length = other.length := by
        rw [h.lengths id ((h.some_mem_iff id).mp hstored), h.lengths other hother]
      exact (strstr_eq_of_length hlength).mp hfound
  | inr hnone =>
      have hmiss := hnone other ((h.some_mem_iff other).mpr hother)
      rw [hfound] at hmiss
      cases hmiss

theorem matchesProfile_iff (h : Represents length stored m) {request : Iptable}
    (hexact : Exact m request) {id : String} (hid : request.id = some id)
    {entry : String × Iptable} (hentry : entry ∈ m.entries) :
    matchesProfile request entry.2 = true <-> entry.1 = id := by
  unfold matchesProfile
  rw [hid, h.ids entry hentry]
  constructor
  · exact hexact id hid entry.1 (List.mem_map_of_mem hentry)
  · intro hsame
    rw [hsame]
    exact strstr_self id

theorem matchesProfile_of_none {request : Iptable} (hid : request.id = none)
    (iptables : Iptable) : matchesProfile request iptables = false := by
  unfold matchesProfile
  rw [hid]
  rfl

/-!
## One record
-/

def replaceRecord (m : ForwardingMap) (request : Iptable) : ForwardingMap :=
  match request.id with
  | some id => m.replace id request
  | none => m

def removeRecord (m : ForwardingMap) (request : Iptable) : ForwardingMap :=
  match request.id with
  | some id => m.remove id
  | none => m

theorem represents_updateProfile (h : Represents length stored m)
    {request : Iptable} (hexact : Exact m request) :
    Represents length (updateProfile stored request)
      (replaceRecord m request) := by
  unfold replaceRecord updateProfile
  cases hid : request.id with
  | none =>
      have hsame : (stored.map fun iptables =>
          if matchesProfile request iptables then request else iptables) =
            stored := by
        conv_rhs => rw [← List.map_id' stored]
        apply List.map_congr_left
        intro iptables _
        rw [matchesProfile_of_none hid, if_neg Bool.false_ne_true]
      rw [hsame]
      exact h
  | some id =>
      have hvalues : forall entry, entry ∈ m.entries ->
          (if matchesProfile request entry.2 then request else entry.2) =
            (OrderedMap.replaceEntry id request entry).2 := by
        intro entry hentry
        unfold OrderedMap.replaceEntry
        by_cases hkey : entry.1 = id
        · rw [if_pos ((matchesProfile_iff h hexact hid hentry).mpr hkey),
            if_pos hkey]
        · rw [if_neg fun hmatch => hkey
            ((matchesProfile_iff h hexact hid hentry).mp hmatch), if_neg hkey]
      constructor
      · show _ = (m.entries.map (OrderedMap.replaceEntry id request)).map Prod.snd
        rw [h.values, List.map_map, List.map_map]
        exact List.map_congr_left hvalues
      · intro entry hentry
        rcases List.mem_map.mp hentry with ⟨old, hold, rfl⟩
        unfold OrderedMap.replaceEntry
        split
        · exact hid
        · exact h.ids old hold
      · intro key hkey
        rw [OrderedMap.keys_replace] at hkey
        exact h.lengths key hkey

theorem represents_deleteProfile (h : Represents length stored m)
    {request : Iptable} (hexact : Exact m request) :
    Represents length (deleteProfile stored request)
      (removeRecord m request) := by
  unfold removeRecord deleteProfile
  cases hid : request.id with
  | none =>
      have hsame : stored.eraseP (matchesProfile request) = stored := by
        rw [List.eraseP_eq_self_iff]
        intro iptables _
        rw [matchesProfile_of_none hid]
        exact Bool.false_ne_true
      rw [hsame]
      exact h
  | some id =>
      have herased : stored.eraseP (matchesProfile request) =
          (m.remove id).entries.map Prod.snd := by
        have hentries : m.entries.eraseP (matchesProfile request ∘ Prod.snd) =
            (m.remove id).entries :=
          OrderedMap.eraseP_eq_filter m.nodup fun entry hentry =>
            matchesProfile_iff h hexact hid hentry
        rw [h.values, List.eraseP_map, hentries]
      constructor
      · exact herased
      · intro entry hentry
        exact h.ids entry (List.mem_of_mem_filter hentry)
      · intro key hkey
        exact h.lengths key (OrderedMap.mem_keys_remove.mp hkey).1

/-!
## A whole request
-/

theorem Exact.mono {m' : ForwardingMap} {request : Iptable}
    (hkeys : forall id, id ∈ m'.keys -> id ∈ m.keys) (h : Exact m request) :
    Exact m' request :=
  fun id hid other hother => h id hid other (hkeys other hother)

theorem keys_replaceRecord (m : ForwardingMap) (request : Iptable) :
    (replaceRecord m request).keys = m.keys := by
  unfold replaceRecord
  cases request.id with
  | none => rfl
  | some id => exact OrderedMap.keys_replace m id request

theorem mem_keys_removeRecord {request : Iptable} {id : String} :
    id ∈ (removeRecord m request).keys <->
      id ∈ m.keys ∧ request.id ≠ some id := by
  unfold removeRecord
  cases hid : request.id with
  | none => simp
  | some requested =>
      rw [OrderedMap.mem_keys_remove]
      simp [eq_comm]

/-- The edit for one record is a step of the map. -/
structure Simulates (length : Nat)
    (edit : List Iptable -> Iptable -> List Iptable)
    (record : ForwardingMap -> Iptable -> ForwardingMap) : Prop where
  represents : forall stored m request, Represents length stored m ->
    Exact m request -> Represents length (edit stored request) (record m request)
  keys : forall m request id, id ∈ (record m request).keys -> id ∈ m.keys
  kept : forall m request id, id ∈ m.keys -> request.id ≠ some id ->
    id ∈ (record m request).keys

theorem simulates_updateProfile :
    Simulates length updateProfile replaceRecord where
  represents := fun _ _ _ h hexact => represents_updateProfile h hexact
  keys := fun m request id hmem => by rwa [keys_replaceRecord] at hmem
  kept := fun m request id hmem _ => by rwa [keys_replaceRecord]

theorem simulates_deleteProfile :
    Simulates length deleteProfile removeRecord where
  represents := fun _ _ _ h hexact => represents_deleteProfile h hexact
  keys := fun _ _ _ hmem => (mem_keys_removeRecord.mp hmem).1
  kept := fun _ _ _ hmem hne => mem_keys_removeRecord.mpr ⟨hmem, hne⟩

section

variable {edit : List Iptable -> Iptable -> List Iptable}
  {record : ForwardingMap -> Iptable -> ForwardingMap} {requests : List Iptable}

/-- What one record of a request does to the map, the whole request does in
turn. -/
theorem represents_foldl (hsim : Simulates length edit record)
    (h : Represents length stored m)
    (hexact : forall request, request ∈ requests -> Exact m request) :
    Represents length (requests.foldl edit stored) (requests.foldl record m) := by
  induction requests generalizing stored m with
  | nil => exact h
  | cons request rest ih =>
      apply ih (hsim.represents _ _ _ h (hexact request List.mem_cons_self))
      intro other hmem
      exact (hexact other (List.mem_cons_of_mem request hmem)).mono
        (hsim.keys m request)

/-- A record finds a profile exactly when its identifier is stored. -/
theorem any_matchesProfile_iff (h : Represents length stored m)
    {request : Iptable} (hexact : Exact m request) :
    stored.any (matchesProfile request) = true <->
      exists id, request.id = some id ∧ id ∈ m.keys := by
  rw [List.any_eq_true]
  constructor
  · rintro ⟨iptables, hmem, hmatch⟩
    cases hid : request.id with
    | none =>
        rw [matchesProfile_of_none hid] at hmatch
        cases hmatch
    | some id =>
        rw [h.values] at hmem
        rcases List.mem_map.mp hmem with ⟨entry, hentry, rfl⟩
        have hkey := (matchesProfile_iff h hexact hid hentry).mp hmatch
        exact ⟨id, rfl, hkey ▸ List.mem_map_of_mem hentry⟩
  · rintro ⟨id, hid, hmem⟩
    rcases List.mem_map.mp hmem with ⟨entry, hentry, hkey⟩
    refine ⟨entry.2, ?_, (matchesProfile_iff h hexact hid hentry).mpr hkey⟩
    rw [h.values]
    exact List.mem_map_of_mem hentry

/-- Some record finds a profile in the list its predecessors leave exactly when
some identifier of the request was stored at first. -/
theorem findsProfile_iff (hsim : Simulates length edit record)
    (h : Represents length stored m)
    (hexact : forall request, request ∈ requests -> Exact m request) :
    findsProfile edit requests stored = true <->
      ForwardingCall.Finds m requests := by
  unfold ForwardingCall.Finds
  simp only [mem_requestedIds]
  induction requests generalizing stored m with
  | nil => simp [findsProfile]
  | cons request rest ih =>
      have hfirst := hexact request List.mem_cons_self
      have hrest : forall other, other ∈ rest -> Exact (record m request) other :=
        fun other hmem => (hexact other (List.mem_cons_of_mem request hmem)).mono
          (hsim.keys m request)
      unfold findsProfile
      rw [Bool.or_eq_true, any_matchesProfile_iff h hfirst,
        ih (hsim.represents _ _ _ h hfirst) hrest]
      constructor
      · rintro (⟨id, hid, hmem⟩ | ⟨id, ⟨other, hother, hid⟩, hmem⟩)
        · exact ⟨id, ⟨request, List.mem_cons_self, hid⟩, hmem⟩
        · exact ⟨id, ⟨other, List.mem_cons_of_mem request hother, hid⟩,
            hsim.keys m request id hmem⟩
      · rintro ⟨id, ⟨other, hother, hid⟩, hmem⟩
        by_cases hsame : request.id = some id
        · exact Or.inl ⟨id, hsame, hmem⟩
        · right
          refine ⟨id, ⟨other, ?_, hid⟩, hsim.kept m request id hmem hsame⟩
          rcases List.mem_cons.mp hother with heq | hother
          · rw [heq] at hid
            exact absurd hid hsame
          · exact hother

end

theorem foldl_replaceRecord (m : ForwardingMap) (updates : List Iptable) :
    updates.foldl replaceRecord m = m.replaceAll (keyed updates) := by
  rw [← OrderedMap.foldl_replace]
  induction updates generalizing m with
  | nil => rfl
  | cons update rest ih =>
      rw [List.foldl_cons, ih]
      unfold keyed replaceRecord
      cases hid : update.id with
      | none => rw [List.filterMap_cons_none (by rw [hid]; rfl)]
      | some id => rw [List.filterMap_cons_some (by rw [hid]; rfl)]; rfl

theorem foldl_removeRecord (m : ForwardingMap) (deletes : List Iptable) :
    deletes.foldl removeRecord m = m.removeAll (requestedIds deletes) := by
  rw [← OrderedMap.foldl_remove]
  induction deletes generalizing m with
  | nil => rfl
  | cons delete rest ih =>
      rw [List.foldl_cons, ih]
      unfold requestedIds keyed removeRecord
      cases hid : delete.id with
      | none => rw [List.filterMap_cons_none (by rw [hid]; rfl)]
      | some id => rw [List.filterMap_cons_some (by rw [hid]; rfl)]; rfl

/-!
## Creating
-/

theorem map_snd_keyed {iptables : List Iptable}
    (h : forall record, record ∈ iptables -> record.id ≠ none) :
    (keyed iptables).map Prod.snd = iptables := by
  induction iptables with
  | nil => rfl
  | cons record rest ih =>
      have hrest := ih fun other hmem => h other (List.mem_cons_of_mem record hmem)
      unfold keyed at hrest ⊢
      rcases Option.ne_none_iff_exists'.mp (h record List.mem_cons_self) with
        ⟨id, hid⟩
      rw [List.filterMap_cons_some (by rw [hid]; rfl), List.map_cons, hrest]

theorem id_of_mem_keyed {iptables : List Iptable} {entry : String × Iptable}
    (hmem : entry ∈ keyed iptables) : entry.2.id = some entry.1 := by
  rcases List.mem_filterMap.mp hmem with ⟨record, _, hrecord⟩
  rcases Option.map_eq_some_iff.mp hrecord with ⟨id, hid, rfl⟩
  exact hid

theorem id_createdProfiles (uuid : Nat -> String) (creates : List Iptable) :
    forall record, record ∈ createdProfiles uuid creates -> record.id ≠ none := by
  intro record hmem
  rcases List.mem_mapIdx.mp hmem with ⟨i, hi, rfl⟩
  exact Option.some_ne_none _

theorem represents_create (h : Represents length stored m)
    {uuid : Nat -> String} {creates : List Iptable}
    (hadmitted : (ForwardingCall.create uuid creates).Admitted length stored) :
    exists m', m'.entries = m.entries ++ keyed (createdProfiles uuid creates) ∧
      Represents length (stored ++ createdProfiles uuid creates) m' := by
  have hids : forall entry,
      entry ∈ m.entries ++ keyed (createdProfiles uuid creates) ->
      entry.2.id = some entry.1 := by
    intro entry hmem
    rcases List.mem_append.mp hmem with hmem | hmem
    · exact h.ids entry hmem
    · exact id_of_mem_keyed hmem
  have hvalues : stored ++ createdProfiles uuid creates =
      (m.entries ++ keyed (createdProfiles uuid creates)).map Prod.snd := by
    rw [List.map_append, ← h.values, map_snd_keyed (id_createdProfiles uuid creates)]
  have hnodup : ((m.entries ++ keyed (createdProfiles uuid creates)).map
      Prod.fst).Nodup := by
    apply List.Nodup.of_map some
    have hkeys : ((m.entries ++ keyed (createdProfiles uuid creates)).map
        Prod.fst).map some = (stored ++ createdProfiles uuid creates).map
          Iptable.id := by
      rw [hvalues, List.map_map, List.map_map]
      exact List.map_congr_left fun entry hmem => (hids entry hmem).symm
    rw [hkeys]
    exact hadmitted.1
  refine ⟨m.append _ hnodup, rfl, hvalues, hids, ?_⟩
  intro id hmem
  rcases List.mem_map.mp hmem with ⟨entry, hentry, rfl⟩
  rcases List.mem_append.mp hentry with hold | hnew
  · exact h.lengths _ (List.mem_map_of_mem hold)
  · exact hadmitted.2 _ (List.mem_map_of_mem hnew)

/-!
## Calls
-/

/-- A successful save leaves the list in the file, however the rest ends. -/
theorem beside_saveForwarding {w : World} (h : Healthy w.files)
    (iptables : List Iptable) {α : Type} {next : ErrorCode -> Daemon α}
    (hnext : forall err, Respects (Beside []) (next err)) :
    Beside [] (storeForwarding iptables w)
      (final (saveForwarding iptables >>= next) w) := by
  have hrefresh : Respects (Beside []) (untilError [iptablesRefresh]) := by
    apply respects_untilError
    intro step hstep
    rw [List.mem_singleton.mp hstep]
    exact respects_iptablesRefresh
  unfold saveForwarding
  rw [untilError, bind_bind,
    final_bind_of_run (run_iptablesDnatForwardingSave h iptables)]
  exact respects_bind hrefresh hnext (storeForwarding iptables w)

namespace ForwardingCall

/-- The list a call leaves in the file. -/
def listAfter (stored : List Iptable) : ForwardingCall -> List Iptable
  | create uuid creates => stored ++ createdProfiles uuid creates
  | update updates => updates.foldl updateProfile stored
  | delete deletes => deletes.foldl deleteProfile stored

/-- The code a call returns. -/
def codeAfter (w : World) : ForwardingCall -> ErrorCode
  | create _ _ => .success
  | update updates => foundCode updateProfile updates w
  | delete deletes => foundCode deleteProfile deletes w

end ForwardingCall

theorem beside_exec {w : World} (h : Healthy w.files) (call : ForwardingCall) :
    Beside [] (storeForwarding (call.listAfter (storedForwarding w)) w)
      (final call.exec w) := by
  have hrequest := run_iptablesDnatForwardingRequest h
  cases call with
  | create uuid creates =>
      show Beside [] _ (final (iptablesDnatForwardingRequest >>= _) w)
      rw [final_bind_of_run hrequest]
      exact beside_saveForwarding h _ fun _ => respects_pure _
  | update updates =>
      show Beside [] _ (final (iptablesDnatForwardingRequest >>= _) w)
      rw [final_bind_of_run hrequest]
      exact beside_saveForwarding h _ fun _ => respects_ite (respects_pure _)
        (respects_ite (respects_pure _) (respects_pure _))
  | delete deletes =>
      show Beside [] _ (final (iptablesDnatForwardingRequest >>= _) w)
      rw [final_bind_of_run hrequest]
      exact beside_saveForwarding h _ fun _ => respects_ite (respects_pure _)
        (respects_ite (respects_pure _) (respects_pure _))

/-- A call returns when the Nova services can be opened again, and then with
this code. -/
theorem wp_exec {w : World} (h : Healthy w.files) (call : ForwardingCall)
    (post : ErrorCode -> Prop) :
    wp call.exec (fun out _ => post out.1) w <->
      CarriesPortProfiles (storedNova w) ∧ post (call.codeAfter w) := by
  cases call with
  | create uuid creates => exact wp_iptablesDnatForwardingCreate h uuid creates _
  | update updates => exact wp_iptablesDnatForwardingUpdate h updates _
  | delete deletes => exact wp_iptablesDnatForwardingDelete h deletes _

theorem resultCode_exec {w : World} (h : Healthy w.files)
    (call : ForwardingCall) :
    resultCode (call.exec w) =
      if CarriesPortProfiles (storedNova w) then some (call.codeAfter w)
      else none := by
  have hreturns := wp_exec h call fun err => err = call.codeAfter w
  cases hrun : call.exec w with
  | ok out =>
      rw [wp_of_run hrun] at hreturns
      split
      · rename_i hcarries
        exact congrArg some (hreturns.mpr ⟨hcarries, rfl⟩)
      · rename_i hcarries
        have hany := (wp_exec h call fun _ => True).mp ((wp_of_run hrun _).mpr trivial)
        exact absurd hany.1 hcarries
  | error stopped =>
      unfold wp at hreturns
      rw [hrun] at hreturns
      rw [if_neg fun hcarries => hreturns.mpr ⟨hcarries, rfl⟩]
      rfl

theorem codeAfter_eq {w : World} (h : Represents length (storedForwarding w) m)
    {call : ForwardingCall}
    (hadmitted : call.Admitted length (storedForwarding w)) :
    call.codeAfter w = call.codeOf m := by
  cases call with
  | create uuid creates => rfl
  | update updates =>
      have hfinds := findsProfile_iff simulates_updateProfile h
        fun request hmem => exact_of_separate h hadmitted hmem
      simp only [ForwardingCall.codeAfter, foundCode, ForwardingCall.codeOf, hfinds]
  | delete deletes =>
      have hfinds := findsProfile_iff simulates_deleteProfile h
        fun request hmem => exact_of_separate h hadmitted hmem
      simp only [ForwardingCall.codeAfter, foundCode, ForwardingCall.codeOf, hfinds]

theorem represents_listAfter (h : Represents length stored m)
    {call : ForwardingCall} (hadmitted : call.Admitted length stored) :
    exists m', m'.entries = call.entriesAfter m ∧
      Represents length (call.listAfter stored) m' := by
  cases call with
  | create uuid creates => exact represents_create h hadmitted
  | update updates =>
      refine ⟨m.replaceAll (keyed updates), rfl, ?_⟩
      rw [← foldl_replaceRecord]
      exact represents_foldl simulates_updateProfile h fun request hmem =>
        exact_of_separate h hadmitted hmem
  | delete deletes =>
      refine ⟨m.removeAll (requestedIds deletes), rfl, ?_⟩
      rw [← foldl_removeRecord]
      exact represents_foldl simulates_deleteProfile h fun request hmem =>
        exact_of_separate h hadmitted hmem

/-- A call that names no entry leaves the map. -/
theorem entriesAfter_of_idMismatched {call : ForwardingCall}
    (h : call.codeOf m = .idMismatched) : call.entriesAfter m = m.entries := by
  cases call with
  | create uuid creates => cases h
  | update updates =>
      have hnone : ¬ ForwardingCall.Finds m updates := by
        intro hfinds
        rw [ForwardingCall.codeOf, if_pos hfinds] at h
        cases h
      refine congrArg OrderedMap.entries (OrderedMap.replaceAll_of_absent ?_)
      intro request hmem hkey
      exact hnone ⟨request.1, List.mem_map_of_mem hmem, hkey⟩
  | delete deletes =>
      have hnone : ¬ ForwardingCall.Finds m deletes := by
        intro hfinds
        rw [ForwardingCall.codeOf, if_pos hfinds] at h
        cases h
      refine congrArg OrderedMap.entries (OrderedMap.removeAll_of_absent ?_)
      intro id hmem hkey
      exact hnone ⟨id, hmem, hkey⟩

/-!
## Runs
-/

/-- What a run keeps: the file system, the map that stands for the list, and
the Nova services. -/
structure Tracked (length : Nat) (services : List IptableNovaService) (w : World)
    (m : ForwardingMap) : Prop where
  healthy : Healthy w.files
  represents : Represents length (storedForwarding w) m
  services : storedNova w = services

theorem simulates_step {services : List IptableNovaService} {w w' : World}
    {label : ForwardingCall × Option ErrorCode} (h : Tracked length services w m)
    (hstep : ForwardingStep length w label w') :
    exists m', (MapStep m label m' ∧
        (CarriesPortProfiles services -> label.2 ≠ none)) ∧
      Tracked length services w' m' := by
  rcases represents_listAfter h.represents hstep.admitted with
    ⟨m', hentries, hrepresents⟩
  have hbeside := beside_exec h.healthy label.1
  rw [← hstep.ends] at hbeside
  have hlist : storedForwarding w' =
      label.1.listAfter (storedForwarding w) := by
    unfold storedForwarding
    rw [hbeside.json_eq List.not_mem_nil]
    exact storedForwarding_storeForwarding _
  have hnova : storedNova w' = storedNova w := by
    unfold storedNova
    rw [hbeside.json_eq List.not_mem_nil]
    exact storedNova_storeForwarding _
  refine ⟨m', ⟨⟨hentries, ?_, ?_⟩, ?_⟩, ?_, ?_, hnova.trans h.services⟩
  · intro err herr
    rw [hstep.code, resultCode_exec h.healthy,
      codeAfter_eq h.represents hstep.admitted] at herr
    split at herr
    · exact (Option.some_inj.mp herr).symm
    · cases herr
  · intro hcode
    exact OrderedMap.ext (hentries.trans (entriesAfter_of_idMismatched hcode))
  · intro hcarries
    rw [hstep.code, resultCode_exec h.healthy, h.services, if_pos hcarries]
    exact Option.some_ne_none _
  · exact hbeside.healthy (healthy_storeJson h.healthy _ _)
  · rw [hlist]
    exact hrepresents

/-- Every run of the store is a run of the map that stands for its list, and
every call returns as long as the Nova services carry their port profiles. -/
theorem forwarding_refines {w w' : World}
    {labels : List (ForwardingCall × Option ErrorCode)} (h : Healthy w.files)
    (hkeyed : Keyed length (storedForwarding w))
    (hrun : Runs (ForwardingStep length) w labels w') :
    (exists m m', Represents length (storedForwarding w) m ∧
      Runs MapStep m labels m' ∧ Represents length (storedForwarding w') m') ∧
    (CarriesPortProfiles (storedNova w) ->
      forall label, label ∈ labels -> label.2 ≠ none) := by
  rcases exists_represents hkeyed with ⟨m, hrepresents⟩
  have hsim : forall s t label s', Tracked length (storedNova w) s t ->
      ForwardingStep length s label s' -> _ :=
    fun _ _ _ _ htracked hstep => simulates_step htracked hstep
  rcases hrun.simulate (Tracked length (storedNova w)) hsim
      ⟨h, hrepresents, rfl⟩ with ⟨m', hmap, hlast⟩
  refine ⟨⟨m, m', hrepresents, ?_, hlast.represents⟩, ?_⟩
  · exact hmap.mono fun _ _ _ hstep => hstep.1
  · intro hcarries
    exact hmap.forall_label fun _ _ _ hstep => hstep.2 hcarries

end

def createSsh : ForwardingCall :=
  .create (fun _ => "a1") [{ name := some "ssh" }]

def renameSsh : ForwardingCall :=
  .update [{ id := some "iptable_a1", name := some "web" }]

def sshCreated : World :=
  final createSsh.exec World.installed

/-- One profile is created and then renamed. -/
def createThenRename : List (ForwardingCall × Option ErrorCode) :=
  [(createSsh, resultCode (createSsh.exec World.installed)),
    (renameSsh, resultCode (renameSsh.exec sshCreated))]

theorem forwarding_refines_createThenRename :
    exists m m', Represents 10 (storedForwarding World.installed) m ∧
      Runs MapStep m createThenRename m' ∧
      Represents 10 (storedForwarding (final renameSsh.exec sshCreated)) m' := by
  have hempty : storedForwarding World.installed = [] := rfl
  have hcreated : storedForwarding sshCreated =
      [{ id := some "iptable_a1", name := some "ssh" }] := by
    decide +kernel
  have hfirst : createSsh.Admitted 10 (storedForwarding World.installed) := by
    rw [hempty]
    constructor
    · exact List.nodup_singleton _
    · intro id hmem
      rw [List.mem_singleton.mp hmem]
      decide +kernel
  have hsecond : renameSsh.Admitted 10 (storedForwarding sshCreated) := by
    intro id hmem
    left
    rw [List.mem_singleton.mp hmem, hcreated]
    exact List.mem_singleton_self _
  have hkeyed : Keyed 10 (storedForwarding World.installed) := by
    rw [hempty]
    exact ⟨fun _ hmem => absurd hmem List.not_mem_nil, List.nodup_nil⟩
  have hrun : Runs (ForwardingStep 10) World.installed createThenRename
      (final renameSsh.exec sshCreated) :=
    Runs.cons ⟨hfirst, rfl, rfl⟩ (Runs.cons ⟨hsecond, rfl, rfl⟩ (Runs.nil _))
  exact (forwarding_refines healthy_installed hkeyed hrun).1

end Network
end Noc
