import Noc.Network.Route.Agreement

/-!
# Deleting routes by identifier

What `route_delete` writes.  The loop closes one gap for each record that finds
a route, but the count of the array drops by one however many did.  So the file
holds the stored routes without the requested ones exactly when at most one
stored route is requested.
-/

namespace Noc
namespace Network

open Api
open Foundation
open Foundation.Exec
open Utils

/-!
## Requests
-/

/-- The route's identifier is one of those to delete. -/
def isRequested (deletes : List Route) (route : Route) : Bool :=
  deletes.any fun delete => delete.id ≠ none && delete.id = route.id

/-- An identifier to delete contains no stored one but itself. -/
def AsksOwnIds (deletes stored : List Route) : Prop :=
  forall delete, delete ∈ deletes -> forall route, route ∈ stored ->
    matchesId delete route = true -> route.id = delete.id

/-- The requested routes leave the file and nothing else does; the code tells
whether there were any. -/
def DeletesRequested (deletes : List Route) (w : World) : Prop :=
  wp (routeDelete deletes) (fun out w' =>
    storedRoutes w' =
        (storedRoutes w).filter (fun route => !isRequested deletes route) ∧
      (out.1 = .idMismatched <->
        forall route, route ∈ storedRoutes w ->
          isRequested deletes route = false)) w

section

variable {deletes stored : List Route} {w : World}

/-- Under that condition the loop finds what is requested. -/
theorem matchesId_iff_of_asksOwnIds (hown : AsksOwnIds deletes stored)
    {delete route : Route} (hdelete : delete ∈ deletes) (hroute : route ∈ stored) :
    matchesId delete route = true <-> delete.id ≠ none ∧ delete.id = route.id := by
  constructor
  · intro hmatch
    have hid := hown delete hdelete route hroute hmatch
    have hsome : delete.id ≠ none := by
      intro hnone
      unfold matchesId at hmatch
      rw [hnone] at hmatch
      cases hmatch
    exact ⟨hsome, hid.symm⟩
  · intro h
    unfold matchesId
    rw [← h.2]
    exact appStrstr_self h.1

theorem isRequested_eq_any (hown : AsksOwnIds deletes stored) {route : Route}
    (hroute : route ∈ stored) :
    isRequested deletes route =
      deletes.any fun delete => matchesId delete route := by
  rw [Bool.eq_iff_iff]
  simp only [isRequested, List.any_eq_true, Bool.and_eq_true, decide_eq_true_eq]
  constructor
  · intro h
    cases h with
    | intro delete hdelete =>
        exact ⟨delete, hdelete.1,
          (matchesId_iff_of_asksOwnIds hown hdelete.1 hroute).mpr hdelete.2⟩
  · intro h
    cases h with
    | intro delete hdelete =>
        exact ⟨delete, hdelete.1,
          (matchesId_iff_of_asksOwnIds hown hdelete.1 hroute).mp hdelete.2⟩

theorem not_matchesId_of_not_requested (hown : AsksOwnIds deletes stored)
    {route : Route} (hroute : route ∈ stored)
    (hnot : isRequested deletes route = false) :
    forall delete, delete ∈ deletes -> matchesId delete route = false := by
  rw [isRequested_eq_any hown hroute, List.any_eq_false] at hnot
  intro delete hdelete
  simpa using hnot delete hdelete

/-!
## The loop
-/

/-- The array the loop leaves, and its flag: a record found a route exactly when
some record finds a stored one. -/
theorem run_deleteLoop (deletes setting : List Route) (foundId : Bool)
    (w : World) :
    exists w', w'.files = w.files ∧
      routeLoop deleteCommands remainingRoutes deletes setting foundId w =
        .ok ((deletes.foldl
            (fun array delete => shiftOutFirst (matchesId delete) array) setting,
          foundId || deletes.any fun delete => setting.any (matchesId delete)),
          w') := by
  induction deletes generalizing setting foundId w with
  | nil => exact ⟨w, rfl, by simp [routeLoop]; rfl⟩
  | cons delete rest ih =>
      rcases ih (remainingRoutes delete setting)
          (foundId || setting.any (matchesId delete))
          (w.runIpRoute (deleteCommands delete setting)) with
        ⟨w', hfiles, hrun⟩
      have hstep : routeLoop deleteCommands remainingRoutes (delete :: rest)
          setting foundId w =
          routeLoop deleteCommands remainingRoutes rest
            (remainingRoutes delete setting)
            (foundId || setting.any (matchesId delete))
            (w.runIpRoute (deleteCommands delete setting)) := rfl
      refine ⟨w', hfiles, ?_⟩
      rw [hstep, hrun, List.foldl_cons, List.any_cons]
      cases hany : setting.any (matchesId delete) with
      | true => simp [remainingRoutes]
      | false =>
          have hnone : forall route, route ∈ setting ->
              matchesId delete route = false := by
            simpa using hany
          have hsame : remainingRoutes delete setting = setting :=
            shiftOutFirst_of_forall_not hnone
          rw [hsame, Bool.or_false, Bool.false_or]
          unfold remainingRoutes at hsame
          rw [hsame]

def deletedArray (deletes stored : List Route) : List Route :=
  deletes.foldl (fun array delete => shiftOutFirst (matchesId delete) array) stored

theorem length_deletedArray (deletes stored : List Route) :
    (deletedArray deletes stored).length = stored.length := by
  unfold deletedArray
  apply foldl_invariant fun array : List Route => array.length = stored.length
  · intro array delete _ hlength
    rw [length_shiftOutFirst, hlength]
  · rfl

theorem any_matchesId_eq (hown : AsksOwnIds deletes stored) :
    (deletes.any fun delete => stored.any (matchesId delete)) =
      stored.any (isRequested deletes) := by
  rw [Bool.eq_iff_iff]
  simp only [List.any_eq_true]
  constructor
  · intro h
    rcases h with ⟨delete, hdelete, route, hroute, hmatch⟩
    refine ⟨route, hroute, ?_⟩
    rw [isRequested_eq_any hown hroute, List.any_eq_true]
    exact ⟨delete, hdelete, hmatch⟩
  · intro h
    rcases h with ⟨route, hroute, hrequested⟩
    rw [isRequested_eq_any hown hroute, List.any_eq_true] at hrequested
    rcases hrequested with ⟨delete, hdelete, hmatch⟩
    exact ⟨delete, hdelete, route, hroute, hmatch⟩

/-- What is written, of the array and the flag. -/
def writtenRoutes (deletes stored : List Route) : List Route :=
  if stored.any (isRequested deletes) then
    (deletedArray deletes stored).take (stored.length - 1)
  else deletedArray deletes stored

theorem deletesRequested_iff_written (h : Healthy w.files)
    (hown : AsksOwnIds deletes (storedRoutes w)) :
    DeletesRequested deletes w <->
      writtenRoutes deletes (storedRoutes w) =
        (storedRoutes w).filter fun route => !isRequested deletes route := by
  rcases run_deleteLoop deletes (storedRoutes w) false w with ⟨w', hfiles, hloop⟩
  rw [Bool.false_or, any_matchesId_eq hown] at hloop
  have hhealthy : Healthy w'.files := by
    rw [hfiles]
    exact h
  unfold DeletesRequested routeDelete
  rw [wp_bind, wp_of_run (run_routeRequestFromSettingFile h), wp_bind,
    wp_of_run hloop]
  simp only [wp_bind, wp_of_run (run_routeSaveToSettingFile hhealthy _), wp_ite,
    ne_eq, not_true_eq_false, if_false, wp_pure, storedRoutes_storeRoutes]
  apply and_iff_left
  cases hany : (storedRoutes w).any (isRequested deletes) with
  | true => simpa using hany
  | false => simpa using hany

/-!
## When it deletes what is requested
-/

theorem writtenRoutes_of_none
    (hnone : forall route, route ∈ stored -> isRequested deletes route = false)
    (hown : AsksOwnIds deletes stored) :
    writtenRoutes deletes stored = stored := by
  have hany : stored.any (isRequested deletes) = false := by
    simpa using hnone
  unfold writtenRoutes deletedArray
  rw [hany, if_neg Bool.false_ne_true]
  apply foldl_invariant fun array => array = stored
  · intro array delete hdelete heq
    rw [heq]
    apply shiftOutFirst_of_forall_not
    intro route hroute
    exact not_matchesId_of_not_requested hown hroute (hnone route hroute) delete hdelete
  · rfl

theorem writtenRoutes_of_one {front back : List Route} {route : Route}
    (hsplit : stored = front ++ route :: back)
    (hroute : isRequested deletes route = true)
    (hothers : forall other, other ∈ front ++ back ->
      isRequested deletes other = false)
    (hown : AsksOwnIds deletes stored) :
    writtenRoutes deletes stored = front ++ back := by
  have hmem : route ∈ stored := by
    rw [hsplit]
    simp
  have hany : stored.any (isRequested deletes) = true := by
    rw [List.any_eq_true]
    exact ⟨route, hmem, hroute⟩
  have hnone : forall delete, delete ∈ deletes ->
      forall other, other ∈ front ++ back -> matchesId delete other = false := by
    intro delete hdelete other hother
    have hstored : other ∈ stored := by
      rw [hsplit]
      cases List.mem_append.mp hother with
      | inl hfront => exact List.mem_append_left _ hfront
      | inr hback => exact List.mem_append_right _ (List.mem_cons_of_mem _ hback)
    exact not_matchesId_of_not_requested hown hstored (hothers other hother)
      delete hdelete
  have harray : deletes.foldl
        (fun array delete => shiftOutFirst (matchesId delete) array)
        (front ++ route :: back) = _ :=
    foldl_shiftOutFirst_of_one hnone
  rw [← isRequested_eq_any hown hmem, hroute, if_pos rfl, ← hsplit] at harray
  have hlength : stored.length - 1 = (front ++ back).length := by
    rw [hsplit]
    simp
  unfold writtenRoutes deletedArray
  rw [hany, if_pos rfl, harray, hlength, List.take_left]

/-- At most one stored route is requested, whatever the request list is. -/
theorem deletesRequested_iff (h : Healthy w.files)
    (hown : AsksOwnIds deletes (storedRoutes w)) :
    DeletesRequested deletes w <->
      (storedRoutes w).countP (isRequested deletes) <= 1 := by
  rw [deletesRequested_iff_written h hown]
  cases scan_cases (isRequested deletes) (storedRoutes w) with
  | inl hnone =>
      have hcount : (storedRoutes w).countP (isRequested deletes) = 0 := by
        rw [List.countP_eq_zero]
        intro route hroute
        simp [hnone route hroute]
      have hkept : (storedRoutes w).filter (fun route => !isRequested deletes route) =
          storedRoutes w := by
        rw [List.filter_eq_self]
        intro route hroute
        simp [hnone route hroute]
      rw [hcount, hkept, writtenRoutes_of_none hnone hown]
      simp
  | inr hsome =>
      rcases hsome with ⟨front, route, back, hsplit, hfront, hroute⟩
      have hfrontCount : front.countP (isRequested deletes) = 0 := by
        rw [List.countP_eq_zero]
        intro other hother
        simp [hfront other hother]
      have hfrontKept : front.filter (fun route => !isRequested deletes route) =
          front := by
        rw [List.filter_eq_self]
        intro other hother
        simp [hfront other hother]
      have hcountSplit : (storedRoutes w).countP (isRequested deletes) =
          back.countP (isRequested deletes) + 1 := by
        rw [hsplit, List.countP_append, hfrontCount, Nat.zero_add,
          List.countP_cons_of_pos hroute]
      have hkept : (storedRoutes w).filter (fun route => !isRequested deletes route) =
          front ++ back.filter fun route => !isRequested deletes route := by
        rw [hsplit, List.filter_append, hfrontKept]
        simp [hroute]
      rw [hcountSplit, hkept]
      constructor
      · intro hwritten
        -- One route less is written, so one route was requested.
        have hany : (storedRoutes w).any (isRequested deletes) = true := by
          rw [List.any_eq_true]
          exact ⟨route, by rw [hsplit]; simp, hroute⟩
        have hlength := congrArg List.length hwritten
        unfold writtenRoutes at hlength
        rw [hany, if_pos rfl, List.length_take, length_deletedArray, hsplit,
          List.length_append, List.length_append, List.length_cons] at hlength
        have hparts : back.length = back.countP (isRequested deletes) +
            (back.filter fun route => !isRequested deletes route).length := by
          rw [List.countP_eq_length_filter]
          exact List.length_eq_length_filter_add _
        omega
      · intro hcount
        have hbackCount : back.countP (isRequested deletes) = 0 := by
          omega
        have hback : forall other, other ∈ back ->
            isRequested deletes other = false := by
          intro other hother
          simpa using List.countP_eq_zero.mp hbackCount other hother
        have hbackKept : back.filter (fun route => !isRequested deletes route) =
            back := by
          rw [List.filter_eq_self]
          intro other hother
          simp [hback other hother]
        rw [hbackKept]
        apply writtenRoutes_of_one hsplit hroute _ hown
        intro other hother
        cases List.mem_append.mp hother with
        | inl hmem => exact hfront other hmem
        | inr hmem => exact hback other hmem

end

/-- The office route alone is deleted as requested. -/
theorem deletesRequested_iff_office :
    DeletesRequested [{ id := some "route_2" }] routedWorld <->
      (storedRoutes routedWorld).countP
        (isRequested [{ id := some "route_2" }]) <= 1 := by
  apply deletesRequested_iff healthy_routedWorld
  rw [storedRoutes_routedWorld]
  unfold AsksOwnIds
  decide

/-- Identifiers are there, and none occurs in another. -/
structure ApartIds (stored : List Route) : Prop where
  present : forall route, route ∈ stored -> route.id ≠ none
  distinct : (stored.map Route.id).Nodup
  apart : forall route, route ∈ stored -> forall other, other ∈ stored ->
    matchesId route other = true -> other.id = route.id

/-- Of two routes to delete, the one at the end of the list stays. -/
theorem not_deletesRequested_of_two :
    ¬ forall (w : World) (deletes : List Route), Healthy w.files ->
      ApartIds (storedRoutes w) -> AsksOwnIds deletes (storedRoutes w) ->
      DeletesRequested deletes w := by
  intro hclaim
  have happart : ApartIds [homeRoute, officeRoute] := by
    constructor
    · decide
    · decide
    · decide
  have hown : AsksOwnIds [homeRoute, officeRoute] [homeRoute, officeRoute] := by
    unfold AsksOwnIds
    decide
  rw [← storedRoutes_routedWorld] at happart
  have hdeletes := hclaim routedWorld [homeRoute, officeRoute] healthy_routedWorld
    happart (by rw [storedRoutes_routedWorld]; exact hown)
  have hrun : routeDelete [homeRoute, officeRoute] routedWorld =
      .ok ((.success, [officeRoute]), storeRoutes [officeRoute]
        (routedWorld.runIpRoute
          [.del homeRoute.triple, .del officeRoute.triple])) := rfl
  have hfile := ((wp_of_run hrun _).mp hdeletes).1
  rw [storedRoutes_storeRoutes, storedRoutes_routedWorld] at hfile
  revert hfile
  decide

end Network
end Noc
