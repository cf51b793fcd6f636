import Noc.Api.Memory

/-!
# Records that are released once

A record stands in a list with the block of its texts.  Which edits of a list leave
a block in it twice, or one that has been released with the request.
-/

namespace Noc
namespace Api
namespace Memory

open Foundation
open Network

/-!
## Lists with blocks
-/

section

variable {α : Type} {block : Nat -> Block} {holdsText : α -> Bool}
  {records : List α} {list : List (Block × α)}

theorem map_snd_placed (block : Nat -> Block) (records : List α) :
    (placed block records).map Prod.snd = records := by
  unfold placed
  apply List.ext_getElem?
  intro i
  by_cases hi : i < records.length <;> simp [hi]

theorem map_fst_placed :
    (placed block records).map Prod.fst = (List.range records.length).map block := by
  unfold placed
  apply List.ext_getElem?
  intro i
  by_cases hi : i < records.length <;> simp [hi]

theorem mem_of_mem_placed {record : Block × α} (h : record ∈ placed block records) :
    record.2 ∈ records := by
  rw [← map_snd_placed block records]
  exact List.mem_map_of_mem h

theorem exists_mem_placed (block : Nat -> Block) {value : α} (h : value ∈ records) :
    exists record, record ∈ placed block records ∧ record.2 = value := by
  rw [← map_snd_placed block records] at h
  exact List.mem_map.mp h

theorem exists_of_mem_placed {record : Block × α} (h : record ∈ placed block records) :
    exists i, record.1 = block i := by
  have hfst : record.1 ∈ (List.range records.length).map block := by
    rw [← map_fst_placed]
    exact List.mem_map_of_mem h
  rcases List.mem_map.mp hfst with ⟨i, _, hi⟩
  exact ⟨i, hi.symm⟩

theorem nodup_placed (hblock : Function.Injective block) :
    ((placed block records).map Prod.fst).Nodup := by
  rw [map_fst_placed]
  exact List.nodup_range.map hblock

theorem mem_released {b : Block} :
    b ∈ released holdsText list <->
      exists record, record ∈ list ∧ holdsText record.2 = true ∧ record.1 = b := by
  unfold released
  simp only [List.mem_map, List.mem_filter, and_assoc]

theorem nodup_released (h : (list.map Prod.fst).Nodup) :
    (released holdsText list).Nodup :=
  h.sublist (List.filter_sublist.map _)

theorem released_append {others : List (Block × α)} :
    released holdsText (list ++ others) =
      released holdsText list ++ released holdsText others := by
  unfold released
  rw [List.filter_append, List.map_append]

theorem stored_injective : Function.Injective Block.stored := fun _ _ h =>
  Block.stored.inj h

theorem requested_injective : Function.Injective Block.requested := fun _ _ h =>
  Block.requested.inj h

/-- Records of a request and of a file never share a block. -/
theorem nodup_append_of_stored {requested stored : List Block}
    (hrequested : forall b, b ∈ requested -> exists i, b = .requested i)
    (hstored : forall b, b ∈ stored -> exists i, b = .stored i) :
    (requested ++ stored).Nodup <-> requested.Nodup ∧ stored.Nodup := by
  rw [List.nodup_append]
  constructor
  · rintro ⟨h, h', _⟩
    exact ⟨h, h'⟩
  · rintro ⟨h, h'⟩
    refine ⟨h, h', ?_⟩
    rintro b hb _ hb' rfl
    rcases hrequested b hb with ⟨i, rfl⟩
    rcases hstored _ hb' with ⟨j, hj⟩
    cases hj

theorem stored_of_mem_released (hlist : list ⊆ placed .stored records) {b : Block}
    (h : b ∈ released holdsText list) : exists i, b = .stored i := by
  rcases mem_released.mp h with ⟨record, hrecord, _, rfl⟩
  exact exists_of_mem_placed (hlist hrecord)

theorem requested_of_mem_released {b : Block} (h : b ∈ released holdsText (placed .requested records)) :
    exists i, b = .requested i := by
  rcases mem_released.mp h with ⟨record, hrecord, _, rfl⟩
  exact exists_of_mem_placed hrecord

/-- A block of a payload or of a record, neither a name nor the envelope. -/
def OfRecord : Block -> Prop
  | .payload | .requested _ | .stored _ => True
  | .requestName | .answerName | .downName | .envelope => False

theorem ofRecord_of_cases {b : Block}
    (h : (exists i, b = .requested i) ∨ exists i, b = .stored i) : OfRecord b := by
  rcases h with ⟨i, rfl⟩ | ⟨i, rfl⟩ <;> trivial

/-- Records that are added behind those of the file. -/
theorem record_of_mem_created {stored requested : List α} {b : Block}
    (h : b ∈ released holdsText (placed .stored stored ++ placed .requested requested)) :
    (exists i, b = .requested i) ∨ exists i, b = .stored i := by
  rw [released_append] at h
  rcases List.mem_append.mp h with h | h
  · exact Or.inr (stored_of_mem_released (List.Subset.refl _) h)
  · exact Or.inl (requested_of_mem_released h)

theorem nodup_created {stored requested : List α} :
    (released holdsText
      (placed .stored stored ++ placed .requested requested)).Nodup := by
  rw [released_append, List.perm_append_comm.nodup_iff,
    nodup_append_of_stored (fun _ => requested_of_mem_released)
      fun _ => stored_of_mem_released (List.Subset.refl _)]
  exact ⟨nodup_released (nodup_placed requested_injective),
    nodup_released (nodup_placed stored_injective)⟩

end

/-!
## Deleted routes
-/

/-- What a request takes out of a list, one route for a record. -/
def routesLeft (deletes routes : List Route) : List Route :=
  deletes.foldl (fun routes delete => routes.eraseP (matchesId delete)) routes

/-- Of the routes before the last stored one at most one goes, or the last one has
no text: its copies stay in the array. -/
def DeletesOnce (deletes stored : List Route) : Prop :=
  stored.dropLast.length <= (routesLeft deletes stored.dropLast).length + 1 ∨
    forall last, stored.getLast? = some last -> holdsRouteText last = false

section

variable {deletes stored : List Route}

/-- The same on a list with blocks. -/
def recordsLeft (deletes : List Route) (list : List (Block × Route)) :
    List (Block × Route) :=
  deletes.foldl (fun list delete => list.eraseP fun route => matchesId delete route.2)
    list

theorem map_snd_recordsLeft (list : List (Block × Route)) :
    (recordsLeft deletes list).map Prod.snd = routesLeft deletes (list.map Prod.snd) := by
  unfold recordsLeft routesLeft
  induction deletes generalizing list with
  | nil => rfl
  | cons delete rest ih =>
      rw [List.foldl_cons, List.foldl_cons, ih, List.eraseP_map]
      rfl

theorem recordsLeft_sublist (list : List (Block × Route)) :
    (recordsLeft deletes list).Sublist list := by
  apply foldl_invariant fun kept : List (Block × Route) => kept.Sublist list
  · intro kept delete _ hkept
    exact List.eraseP_sublist.trans hkept
  · exact List.Sublist.refl list

theorem recordsLeft_of_not_any {front : List (Block × Route)} {last : Block × Route}
    (h : ¬ (deletes.any fun delete =>
      (front ++ [last]).any fun route => matchesId delete route.2) = true) :
    recordsLeft deletes front = front := by
  apply foldl_invariant fun kept : List (Block × Route) => kept = front
  · rintro _ delete hdelete rfl
    apply List.eraseP_of_forall_not
    intro route hroute hmatches
    exact h (List.any_eq_true.mpr ⟨delete, hdelete,
      List.any_eq_true.mpr ⟨route, List.mem_append_left _ hroute, hmatches⟩⟩)
  · rfl

/-- A deletion that finds a route leaves one copy of the last route for each route
before it that is gone. -/
theorem deletedRoutes_concat (front : List (Block × Route)) (last : Block × Route) :
    deletedRoutes deletes (front ++ [last]) =
      recordsLeft deletes front ++ List.replicate
        (if (deletes.any fun delete =>
            (front ++ [last]).any fun route => matchesId delete route.2) = true then
          front.length - (recordsLeft deletes front).length
        else 1) last := by
  have hshort : (recordsLeft deletes front).length <= front.length :=
    (recordsLeft_sublist front).length_le
  have harray : deletes.foldl (fun array delete =>
      shiftOutFirst (fun route => matchesId delete route.2) array) (front ++ [last]) =
        recordsLeft deletes front ++ List.replicate
          (front.length - (recordsLeft deletes front).length + 1) last :=
    foldl_shiftOutFirst_replicate (fun delete (route : Block × Route) =>
      matchesId delete route.2) deletes front last 0
  unfold deletedRoutes
  dsimp only
  rw [harray]
  split
  · have hlength : (front ++ [last]).length - 1 = (recordsLeft deletes front).length +
        (front.length - (recordsLeft deletes front).length) := by
      rw [List.length_append, List.length_singleton]
      omega
    rw [hlength, List.take_length_add_append, List.take_replicate,
      Nat.min_eq_left (Nat.le_succ _)]
  · rename_i hfound
    rw [recordsLeft_of_not_any hfound, Nat.sub_self]

/-- Copies of a route behind routes with other blocks. -/
theorem nodup_released_copies {front : List (Block × Route)} {last : Block × Route}
    (h : ((front ++ [last]).map Prod.fst).Nodup) (n : Nat) :
    (released holdsRouteText (front ++ List.replicate n last)).Nodup <->
      n <= 1 ∨ holdsRouteText last.2 = false := by
  rw [List.map_append, List.map_singleton, List.nodup_append] at h
  rcases h with ⟨hfront, _, hlast⟩
  have hreleased : (released holdsRouteText front).Nodup := nodup_released hfront
  have hfresh : forall b, b ∈ released holdsRouteText front -> b ≠ last.1 := by
    intro b hmem
    rcases mem_released.mp hmem with ⟨record, hrecord, _, rfl⟩
    exact hlast _ (List.mem_map_of_mem hrecord) _ (List.mem_singleton.mpr rfl)
  rw [released_append]
  unfold released at hreleased hfresh ⊢
  rw [List.filter_replicate]
  cases holdsRouteText last.2 with
  | false => simpa using hreleased
  | true =>
      rw [if_pos rfl, List.map_replicate, List.nodup_append, List.nodup_replicate]
      constructor
      · rintro ⟨_, hcopies, _⟩
        exact Or.inl hcopies
      · rintro (hcopies | hnone)
        · refine ⟨hreleased, hcopies, ?_⟩
          intro b hb b' hb'
          rw [List.eq_of_mem_replicate hb']
          exact hfresh b hb
        · cases hnone

theorem nodup_deletedRoutes_iff :
    (released holdsRouteText
      (deletedRoutes deletes (placed .stored stored))).Nodup <->
      DeletesOnce deletes stored := by
  rcases List.eq_nil_or_concat stored with rfl | ⟨init, last, rfl⟩
  · have hnothing : deletedRoutes deletes (placed .stored []) = [] := by
      have harray : deletes.foldl (fun array delete =>
          shiftOutFirst (fun route : Block × Route => matchesId delete route.2) array)
          [] = [] := by
        apply foldl_invariant fun array : List (Block × Route) => array = []
        · rintro _ delete _ rfl
          rfl
        · rfl
      show (if _ then List.take _ (List.foldl _ [] deletes) else List.foldl _ [] deletes) = _
      rw [harray, List.take_nil, ite_self]
    rw [hnothing]
    exact iff_of_true List.nodup_nil (Or.inl (Nat.zero_le _))
  · let front := placed Block.stored init
    have hplaced : placed Block.stored (init ++ [last]) =
        front ++ [(Block.stored init.length, last)] :=
      List.mapIdx_concat
    have hfront : front.length = init.length := List.length_mapIdx
    have hleft : (recordsLeft deletes front).length = (routesLeft deletes init).length := by
      rw [← map_snd_placed Block.stored init,
        ← map_snd_recordsLeft, List.length_map]
    have hnodup : ((recordsLeft deletes front ++
        [(Block.stored init.length, last)]).map Prod.fst).Nodup := by
      have h : ((placed Block.stored (init ++ [last])).map Prod.fst).Nodup :=
        nodup_placed stored_injective
      rw [hplaced] at h
      exact h.sublist (((recordsLeft_sublist front).append_right _).map _)
    rw [List.concat_eq_append, hplaced, deletedRoutes_concat, nodup_released_copies hnodup]
    unfold DeletesOnce
    rw [List.dropLast_concat, List.getLast?_concat, hfront, hleft]
    simp only [Option.some_inj, forall_eq']
    apply or_congr_left
    split
    · omega
    · rename_i hfound
      rw [← hleft, recordsLeft_of_not_any hfound, hfront]
      exact iff_of_true (Nat.le_refl 1) (Nat.le_succ _)

theorem deletedRoutes_subset (list : List (Block × Route)) :
    deletedRoutes deletes list ⊆ list := by
  have harray : deletes.foldl (fun array delete =>
      shiftOutFirst (fun route => matchesId delete route.2) array) list ⊆ list := by
    apply foldl_invariant fun array : List (Block × Route) => array ⊆ list
    · intro array delete _ harray
      exact List.Subset.trans (shiftOutFirst_subset _ _) harray
    · exact List.Subset.refl list
  unfold deletedRoutes
  dsimp only
  split
  · exact List.Subset.trans (List.take_subset _ _) harray
  · exact harray

/-- The records of the request go first. -/
theorem nodup_delete_iff :
    (released holdsRouteText (placed .requested deletes) ++
      released holdsRouteText (deletedRoutes deletes (placed .stored stored))).Nodup <->
      DeletesOnce deletes stored := by
  rw [nodup_append_of_stored (fun _ => requested_of_mem_released)
      fun _ => stored_of_mem_released (deletedRoutes_subset _),
    nodup_deletedRoutes_iff]
  exact and_iff_right (nodup_released (nodup_placed requested_injective))

end

/-!
## Updated routes
-/

/-- No record of the request finds a stored route. -/
def FindsNone (updates stored : List Route) : Prop :=
  forall update, update ∈ updates -> forall route, route ∈ stored ->
    matchesId update route = false

section

variable {updates stored : List Route}

/-- What is released with the request stands in the list. -/
def HoldsReleased (requested list : List (Block × Route)) : Prop :=
  exists record, record ∈ list ∧ record ∈ requested ∧ holdsRouteText record.2 = true

/-- A record that finds another has an id. -/
theorem holdsRouteText_of_matchesId {update route : Route}
    (h : matchesId update route = true) : holdsRouteText update = true := by
  unfold matchesId at h
  cases hid : update.id with
  | none =>
      rw [hid] at h
      cases h
  | some id =>
      unfold holdsRouteText routeTexts
      rw [hid]
      exact bne_iff_ne.mpr (List.cons_ne_nil _ _)

/-- The record takes the place of the first route it finds. -/
theorem updateFirst_cases (update : Block × Route) (list : List (Block × Route)) :
    (forall route, route ∈ list -> matchesId update.2 route.2 = false) ∧
        updateFirst (fun route => matchesId update.2 route.2) (fun _ => update) list = list ∨
      holdsRouteText update.2 = true ∧
        (update ∈ updateFirst (fun route => matchesId update.2 route.2)
          (fun _ => update) list) ∧
        updateFirst (fun route => matchesId update.2 route.2) (fun _ => update) list ⊆
          update :: list := by
  rcases scan_cases (fun route : Block × Route => matchesId update.2 route.2) list with
    hnone | ⟨front, route, back, rfl, hfront, hroute⟩
  · exact Or.inl ⟨hnone, updateFirst_of_forall_not hnone _⟩
  · right
    rw [updateFirst_append_cons hfront hroute]
    refine ⟨holdsRouteText_of_matchesId hroute, by simp, ?_⟩
    intro record hmem
    rcases List.mem_append.mp hmem with hmem | hmem
    · exact List.mem_cons_of_mem _ (List.mem_append_left _ hmem)
    · rcases List.mem_cons.mp hmem with rfl | hmem
      · exact List.mem_cons_self
      · exact List.mem_cons_of_mem _
          (List.mem_append_right _ (List.mem_cons_of_mem _ hmem))

theorem updatedList_subset (updates list : List (Block × Route)) :
    updatedList updates list ⊆ updates ++ list := by
  apply foldl_invariant fun updated => updated ⊆ updates ++ list
  · intro updated update hmem hupdated
    rcases updateFirst_cases update updated with ⟨_, hsame⟩ | ⟨_, _, hsub⟩
    · rwa [hsame]
    · exact List.Subset.trans hsub
        (List.cons_subset.mpr ⟨List.mem_append_left _ hmem, hupdated⟩)
  · exact List.subset_append_right _ _

theorem holdsReleased_updatedList {requested updates list : List (Block × Route)}
    (hupdates : updates ⊆ requested) (h : HoldsReleased requested list) :
    HoldsReleased requested (updatedList updates list) := by
  apply foldl_invariant fun list => HoldsReleased requested list
  · intro list update hmem hlist
    rcases updateFirst_cases update list with ⟨_, hsame⟩ | ⟨hholds, hupdate, _⟩
    · rwa [hsame]
    · exact ⟨update, hupdate, hupdates hmem, hholds⟩
  · exact h

/-- By induction on the records: the first that finds a route is in the list from
then on, unless another record of the request follows it there. -/
theorem holdsReleased_of_finds {requested updates list : List (Block × Route)}
    (hupdates : updates ⊆ requested)
    (hfinds : exists update, update ∈ updates ∧ exists route, route ∈ list ∧
      matchesId update.2 route.2 = true) :
    HoldsReleased requested (updatedList updates list) := by
  induction updates generalizing list with
  | nil =>
      rcases hfinds with ⟨update, hmem, _⟩
      cases hmem
  | cons update rest ih =>
      have hrest : rest ⊆ requested := fun other hmem =>
        hupdates (List.mem_cons_of_mem update hmem)
      show HoldsReleased requested (updatedList rest (updateFirst _ _ list))
      rcases updateFirst_cases update list with ⟨hnone, hsame⟩ | ⟨hholds, hupdate, _⟩
      · rw [hsame]
        apply ih hrest
        rcases hfinds with ⟨other, hother, route, hroute, hmatches⟩
        rcases List.mem_cons.mp hother with rfl | hother
        · rw [hnone route hroute] at hmatches
          cases hmatches
        · exact ⟨other, hother, route, hroute, hmatches⟩
      · exact holdsReleased_updatedList hrest
          ⟨update, hupdate, hupdates List.mem_cons_self, hholds⟩

theorem updatedList_of_findsNone {updates list : List (Block × Route)}
    (h : forall update, update ∈ updates -> forall route, route ∈ list ->
      matchesId update.2 route.2 = false) : updatedList updates list = list := by
  apply foldl_invariant fun updated => updated = list
  · rintro _ update hmem rfl
    exact updateFirst_of_forall_not (h update hmem) _
  · rfl

/-- The records of the request have been released before the answer is. -/
theorem nodup_update_iff :
    (released holdsRouteText (placed .requested updates) ++
      released holdsRouteText (updatedList (placed .requested updates)
        (placed .stored stored))).Nodup <-> FindsNone updates stored := by
  constructor
  · intro hnodup update hupdate route hroute
    by_contra hmatches
    rw [Bool.not_eq_false] at hmatches
    rcases exists_mem_placed .requested hupdate with ⟨placedUpdate, hplaced, rfl⟩
    rcases exists_mem_placed .stored hroute with ⟨placedRoute, hstored, rfl⟩
    rcases holdsReleased_of_finds (List.Subset.refl _)
        ⟨placedUpdate, hplaced, placedRoute, hstored, hmatches⟩ with
      ⟨record, hlist, hrequested, hholds⟩
    exact (List.nodup_append.mp hnodup).2.2 record.1
      (mem_released.mpr ⟨record, hrequested, hholds, rfl⟩) record.1
      (mem_released.mpr ⟨record, hlist, hholds, rfl⟩) rfl
  · intro hnone
    have hsame : updatedList (placed Block.requested updates) (placed .stored stored) =
        placed .stored stored := by
      apply updatedList_of_findsNone
      intro update hupdate route hroute
      exact hnone _ (mem_of_mem_placed hupdate) _ (mem_of_mem_placed hroute)
    rw [hsame, nodup_append_of_stored (fun _ => requested_of_mem_released)
      fun _ => stored_of_mem_released (List.Subset.refl _)]
    exact ⟨nodup_released (nodup_placed requested_injective),
      nodup_released (nodup_placed stored_injective)⟩

end

/-!
## Updated profiles
-/

/-- The profile that an update leaves in the place of a stored one, and the index of
its record in the request. -/
def inPlaceOf (updates : List Iptable) (iptables : Iptable) : Iptable × Option Nat :=
  updates.zipIdx.foldl
    (fun current update =>
      if matchesProfile update.1 current.1 then (update.1, some update.2) else current)
    (iptables, none)

/-- No record of the request comes to stand in two places. -/
def UpdatesOnce (updates stored : List Iptable) : Prop :=
  (stored.filterMap fun iptables => (inPlaceOf updates iptables).2).Nodup

section

variable {updates stored : List Iptable}

theorem holdsProfileText_of_matches {update iptables : Iptable}
    (h : matchesProfile update iptables = true) : holdsProfileText update = true := by
  unfold matchesProfile at h
  cases hid : update.id with
  | none =>
      rw [hid] at h
      cases h
  | some id =>
      unfold holdsProfileText
      rw [hid]
      exact bne_iff_ne.mpr (List.cons_ne_nil _ _)

theorem holdsProfileText_inPlaceOf {iptables : Iptable} {i : Nat}
    (h : (inPlaceOf updates iptables).2 = some i) :
    holdsProfileText (inPlaceOf updates iptables).1 = true := by
  have hholds : forall i, (inPlaceOf updates iptables).2 = some i ->
      holdsProfileText (inPlaceOf updates iptables).1 = true := by
    apply foldl_invariant fun current : Iptable × Option Nat =>
      forall i, current.2 = some i -> holdsProfileText current.1 = true
    · intro current update _ hcurrent
      split
      · rename_i hmatches
        intro _ _
        exact holdsProfileText_of_matches hmatches
      · exact hcurrent
    · intro i hnone
      cases hnone
  exact hholds i h

def withBlock (i : Nat) (current : Iptable × Option Nat) : Block × Iptable :=
  ((current.2.map Block.requested).getD (.stored i), current.1)

theorem updatedProfiles_map (updates list : List (Block × Iptable)) :
    updatedProfiles updates list = list.map fun record =>
      updates.foldl
        (fun current update =>
          if matchesProfile update.2 current.2 then update else current) record := by
  unfold updatedProfiles
  induction updates generalizing list with
  | nil => exact (List.map_id list).symm
  | cons update rest ih =>
      rw [List.foldl_cons, ih, List.map_map]
      rfl

/-- Each place by itself. -/
theorem updatedProfiles_placed :
    updatedProfiles (placed .requested updates) (placed .stored stored) =
      stored.zipIdx.map fun record => withBlock record.2 (inPlaceOf updates record.1) := by
  rw [updatedProfiles_map]
  unfold placed
  rw [List.mapIdx_eq_zipIdx_map, List.mapIdx_eq_zipIdx_map, List.map_map]
  apply List.map_congr_left
  rintro ⟨iptables, i⟩ _
  have hrecord : forall (current : Iptable × Option Nat) (update : Iptable × Nat),
      (if matchesProfile update.1 (withBlock i current).2 then
          (Block.requested update.2, update.1)
        else withBlock i current) =
        withBlock i (if matchesProfile update.1 current.1 then
          (update.1, some update.2) else current) := by
    intro current update
    unfold withBlock
    split <;> rfl
  show List.foldl _ (Block.stored i, iptables) (updates.zipIdx.map _) = _
  rw [List.foldl_map]
  show List.foldl _ (withBlock i (iptables, none)) updates.zipIdx = _
  unfold inPlaceOf
  exact List.foldl_hom (withBlock i) hrecord

/-- A record that stays has its own block, one that is replaced the block of the
record in its place. -/
theorem nodup_updatedProfiles_iff :
    (released holdsProfileText (updatedProfiles (placed .requested updates)
      (placed .stored stored))).Nodup <-> UpdatesOnce updates stored := by
  have hindices : stored.zipIdx.Pairwise fun record other => record.2 ≠ other.2 := by
    rw [← List.pairwise_map (f := Prod.snd) (R := (· ≠ ·)), List.zipIdx_map_snd]
    exact List.nodup_range'
  have hstored : stored.filterMap (fun iptables => (inPlaceOf updates iptables).2) =
      stored.zipIdx.filterMap fun record => (inPlaceOf updates record.1).2 := by
    conv => lhs; rw [← List.zipIdx_map_fst 0 stored]
    rw [List.filterMap_map]
    rfl
  unfold UpdatesOnce released List.Nodup
  rw [updatedProfiles_placed, hstored, List.pairwise_filterMap, List.pairwise_map,
    List.pairwise_filter, List.pairwise_map]
  constructor
  · intro h
    refine (hindices.and h).imp ?_
    rintro ⟨iptables, i⟩ ⟨other, j⟩ ⟨_, hblocks⟩ a ha b hb rfl
    apply hblocks (holdsProfileText_inPlaceOf ha) (holdsProfileText_inPlaceOf hb)
    unfold withBlock
    rw [ha, hb]
    rfl
  · intro h
    refine (hindices.and h).imp ?_
    rintro ⟨iptables, i⟩ ⟨other, j⟩ ⟨hdistinct, hrecords⟩ _ _ hsame
    unfold withBlock at hsame
    dsimp only at hsame hrecords hdistinct
    cases hfirst : (inPlaceOf updates iptables).2 with
    | none =>
        cases hsecond : (inPlaceOf updates other).2 with
        | none =>
            rw [hfirst, hsecond] at hsame
            exact hdistinct (Block.stored.inj hsame)
        | some b =>
            rw [hfirst, hsecond] at hsame
            cases hsame
    | some a =>
        cases hsecond : (inPlaceOf updates other).2 with
        | none =>
            rw [hfirst, hsecond] at hsame
            cases hsame
        | some b =>
            rw [hfirst, hsecond] at hsame
            exact hrecords a hfirst b hsecond (Block.requested.inj hsame)

theorem record_of_mem_updatedProfiles {b : Block}
    (h : b ∈ released holdsProfileText (updatedProfiles (placed .requested updates)
      (placed .stored stored))) :
    (exists i, b = .requested i) ∨ exists i, b = .stored i := by
  rcases mem_released.mp h with ⟨record, hrecord, _, rfl⟩
  rw [updatedProfiles_placed] at hrecord
  rcases List.mem_map.mp hrecord with ⟨⟨iptables, i⟩, _, rfl⟩
  unfold withBlock
  cases (inPlaceOf updates iptables).2 with
  | none => exact Or.inr ⟨i, rfl⟩
  | some j => exact Or.inl ⟨j, rfl⟩

theorem map_snd_updatedProfiles :
    (updatedProfiles (placed .requested updates) (placed .stored stored)).map Prod.snd =
      stored.map fun iptables => (inPlaceOf updates iptables).1 := by
  rw [updatedProfiles_placed, List.map_map]
  conv => rhs; rw [← List.zipIdx_map_fst 0 stored]
  rw [List.map_map]
  rfl

/-!
## Remaining profiles
-/

theorem map_snd_remainingProfiles (deletes : List Iptable)
    (list : List (Block × Iptable)) :
    (remainingProfiles deletes list).map Prod.snd =
      deletes.foldl deleteProfile (list.map Prod.snd) := by
  unfold remainingProfiles
  induction deletes generalizing list with
  | nil => rfl
  | cons delete rest ih =>
      rw [List.foldl_cons, List.foldl_cons, ih, deleteProfile, List.eraseP_map]
      rfl

theorem remainingProfiles_sublist (deletes : List Iptable)
    (list : List (Block × Iptable)) :
    (remainingProfiles deletes list).Sublist list := by
  apply foldl_invariant fun kept : List (Block × Iptable) => kept.Sublist list
  · intro kept delete _ hkept
    exact List.eraseP_sublist.trans hkept
  · exact List.Sublist.refl list

end

end Memory
end Api
end Noc
