import Mathlib.Data.Finset.Lattice.Lemmas
import Noc.Foundation.Runs
import Noc.Network.Route.Store

/-!
# Agreement of kernel and route file

The kernel's managed triples are those of the stored routes.  Creating and
updating keep the agreement.  Deleting keeps it when the request finds at most
one stored route and carries that route's triple, since the command is composed
from the request and the count drops by one only.
-/

namespace Noc
namespace Network

open Foundation
open Foundation.Exec
open Utils

/-- The routing table holds exactly the triples of the stored routes. -/
def KernelAgrees (w : World) : Prop :=
  w.kernelRoutes = triples (storedRoutes w)

/-!
## Triples of lists
-/

theorem mem_triples {triple : KernelRoute} {routes : List Route} :
    triple ∈ triples routes <->
      exists route, route ∈ routes ∧ route.triple = triple := by
  simp [triples]

theorem triples_append (front back : List Route) :
    triples (front ++ back) = triples front ∪ triples back := by
  ext triple
  rw [Finset.mem_union, mem_triples, mem_triples, mem_triples]
  simp only [List.mem_append, or_and_right, exists_or]

theorem triples_cons (route : Route) (routes : List Route) :
    triples (route :: routes) = insert route.triple (triples routes) := by
  unfold triples
  rw [List.map_cons, List.toFinset_cons]

theorem triples_append_cons (front back : List Route) (route : Route) :
    triples (front ++ route :: back) =
      insert route.triple (triples (front ++ back)) := by
  rw [triples_append, triples_cons, Finset.union_insert, triples_append]

theorem triple_notMem_of_nodup {front back : List Route} {route : Route}
    (h : ((front ++ route :: back).map Route.triple).Nodup) :
    route.triple ∉ triples (front ++ back) := by
  rw [List.map_append, List.map_cons, List.nodup_middle, List.nodup_cons] at h
  simpa [triples] using h.1

/-- Erasing the triple of a route leaves the triples of the others. -/
theorem erase_triples {front back : List Route} {route : Route}
    (h : ((front ++ route :: back).map Route.triple).Nodup) :
    (triples (front ++ route :: back)).erase route.triple =
      triples (front ++ back) := by
  rw [triples_append_cons, Finset.erase_insert (triple_notMem_of_nodup h)]

/-!
## Requests

What may be asked for, over the routes stored when the request comes in: an
identifier is a stored one or contains none, and no created or updated route
repeats the triple of another.
-/

inductive RouteRequest where
  | create (uuid : Nat -> String) (routes : List Route)
  | update (routes : List Route)
  | delete (routes : List Route)

def RouteRequest.exec : RouteRequest -> Daemon Unit
  | create uuid routes => do
      let _ <- routeCreate uuid routes
      return ()
  | update routes => do
      let _ <- routeUpdate routes
      return ()
  | delete routes => do
      let _ <- routeDelete routes
      return ()

def Route.Complete (route : Route) : Prop :=
  route.ipMask ≠ none ∧ route.targetIp ≠ none ∧ route.interface ≠ none

def IdAsked (request : Route) (stored : List Route) : Prop :=
  (exists route, route ∈ stored ∧ route.id = request.id ∧ request.id ≠ none) ∨
    forall route, route ∈ stored -> matchesId request route = false

def RouteRequest.Asked (stored : List Route) : RouteRequest -> Prop
  | create _ routes =>
      (forall route, route ∈ routes -> route.Complete) ∧
        (routes.map Route.triple).Nodup ∧
        forall route, route ∈ routes -> route.triple ∉ triples stored
  | update routes =>
      (forall request, request ∈ routes ->
        request.Complete ∧ IdAsked request stored ∧
          forall route, route ∈ stored -> route.id ≠ request.id ->
            route.triple ≠ request.triple) ∧
        forall request, request ∈ routes -> forall other, other ∈ routes ->
          other.id ≠ request.id -> other.triple ≠ request.triple
  | delete routes =>
      forall request, request ∈ routes -> IdAsked request stored

/-!
## When a request keeps the agreement
-/

/-- Stored routes are told apart by identifier and by triple. -/
structure Separate (stored : List Route) : Prop where
  ids : (stored.map Route.id).Nodup
  matching : forall route, route ∈ stored -> forall other, other ∈ stored ->
    matchesId route other = true -> other.id = route.id
  triples : (stored.map Route.triple).Nodup

/-- All records that find a stored route find the same one and carry its
triple. -/
def FindsOne (requests stored : List Route) : Prop :=
  forall request, request ∈ requests -> forall route, route ∈ stored ->
    matchesId request route = true ->
      request.triple = route.triple ∧
        forall other, other ∈ requests -> forall found, found ∈ stored ->
          matchesId other found = true -> found = route

def RouteRequest.KeepsAgreement (stored : List Route) : RouteRequest -> Prop
  | create _ _ => True
  | update _ => Separate stored
  | delete routes => (stored.map Route.triple).Nodup ∧ FindsOne routes stored

/-!
## Creating
-/

theorem runIpRoute_add (table : Finset KernelRoute) (routes : List Route) :
    runIpRoute table (routes.map fun route => .add route.triple) =
      table ∪ triples routes := by
  induction routes generalizing table with
  | nil => simp [runIpRoute, triples]
  | cons route rest ih =>
      calc
        runIpRoute table ((route :: rest).map fun route => .add route.triple) =
            runIpRoute (insert route.triple table)
              (rest.map fun route => .add route.triple) := rfl
        _ = insert route.triple table ∪ triples rest :=
            ih (insert route.triple table)
        _ = table ∪ triples (route :: rest) := by
            rw [triples_cons, Finset.insert_union, Finset.union_insert]

theorem triples_createdRoutes (uuid : Nat -> String) (routes : List Route) :
    triples (createdRoutes uuid routes) = triples routes := by
  have hmap : (createdRoutes uuid routes).map Route.triple =
      routes.map Route.triple := by
    apply List.ext_getElem
    · simp [createdRoutes]
    · intro n h₁ h₂
      simp [createdRoutes, Route.triple]
  rw [triples, hmap, triples]

theorem wlp_routeCreate {w : World} (h : Healthy w.files)
    (uuid : Nat -> String) (routes : List Route) (hagrees : KernelAgrees w) :
    wlp (routeCreate uuid routes)
      (fun _ w' => Healthy w'.files ∧ KernelAgrees w') w := by
  rw [wlp_of_run (run_routeCreate h uuid routes)]
  constructor
  · exact h.store _ _
  · unfold KernelAgrees routesCreated
    rw [storedRoutes_storeRoutes]
    show runIpRoute w.kernelRoutes _ = _
    rw [runIpRoute_add, hagrees, triples_append, triples_createdRoutes]

/-!
## Updating

The loop never changes an identifier, so what a record finds is decided by the
stored list.
-/

section

variable {stored requests : List Route}

theorem matchesId_congr {request route other : Route} (h : route.id = other.id) :
    matchesId request route = matchesId request other := by
  unfold matchesId
  rw [h]

/-- A record finds a route by its own identifier only. -/
theorem id_eq_of_matchesId (hseparate : Separate stored) {request route : Route}
    (hasked : IdAsked request stored) (hroute : route ∈ stored)
    (hmatch : matchesId request route = true) : route.id = request.id := by
  rcases hasked with ⟨own, hown, hid, _⟩ | hnone
  · rw [← hid]
    apply hseparate.matching own hown route hroute
    unfold matchesId
    rw [hid]
    exact hmatch
  · rw [hnone route hroute] at hmatch
    cases hmatch

/-- The list an update has reached: identifiers as stored, triples apart, and
every entry a stored route or a record of the request. -/
structure UpdateReached (stored requests setting : List Route) : Prop where
  ids : setting.map Route.id = stored.map Route.id
  triples : (setting.map Route.triple).Nodup
  source : forall route, route ∈ setting -> route ∈ stored ∨ route ∈ requests

theorem updateRecord (hseparate : Separate stored)
    (hasked : (RouteRequest.update requests).Asked stored)
    {setting : List Route} (hreached : UpdateReached stored requests setting)
    {request : Route} (hrequest : request ∈ requests) :
    UpdateReached stored requests (updatedRoutes request setting) ∧
      runIpRoute (triples setting) (updateCommands request setting) =
        triples (updatedRoutes request setting) := by
  rcases scan_cases (matchesId request) setting with
    hnone | ⟨front, found, back, hsplit, hfront, hfound⟩
  · have hfind : setting.find? (matchesId request) = none := by
      rw [List.find?_eq_none]
      intro route hmem
      rw [hnone route hmem]
      exact Bool.false_ne_true
    unfold updatedRoutes updateCommands
    rw [updateFirst_of_forall_not hnone, hfind]
    exact ⟨hreached, rfl⟩
  · subst hsplit
    have hid : found.id = request.id := by
      have hmem : found.id ∈ stored.map Route.id := by
        rw [← hreached.ids]
        simp
      rcases List.mem_map.mp hmem with ⟨own, hown, hownId⟩
      rw [← hownId]
      apply id_eq_of_matchesId hseparate (hasked.1 request hrequest).2.1 hown
      rw [matchesId_congr hownId]
      exact hfound
    have hidNotMem : found.id ∉ (front ++ back).map Route.id := by
      have hnodup := hseparate.ids
      rw [← hreached.ids, List.map_append, List.map_cons, List.nodup_middle,
        List.nodup_cons] at hnodup
      rw [List.map_append]
      exact hnodup.1
    have hnew : request.triple ∉ triples (front ++ back) := by
      intro hmem
      rcases mem_triples.mp hmem with ⟨route, hroute, htriple⟩
      have hne : route.id ≠ request.id := by
        intro heq
        apply hidNotMem
        rw [hid, ← heq]
        exact List.mem_map_of_mem hroute
      have hin : route ∈ front ++ found :: back := by
        rcases List.mem_append.mp hroute with h | h
        · exact List.mem_append_left _ h
        · exact List.mem_append_right _ (List.mem_cons_of_mem _ h)
      rcases hreached.source route hin with hstored | hrequested
      · exact (hasked.1 request hrequest).2.2 route hstored hne htriple
      · exact hasked.2 request hrequest route hrequested hne htriple
    have hfind : (front ++ found :: back).find? (matchesId request) =
        some found := find?_append_cons hfront hfound back
    unfold updatedRoutes updateCommands
    rw [updateFirst_append_cons hfront hfound, hfind]
    refine ⟨⟨?_, ?_, ?_⟩, ?_⟩
    · rw [← hreached.ids]
      simp [hid]
    · have hnodup := hreached.triples
      rw [List.map_append, List.map_cons, List.nodup_middle,
        List.nodup_cons, ← List.map_append] at hnodup ⊢
      refine ⟨?_, hnodup.2⟩
      intro hmem
      exact hnew (List.mem_toFinset.mpr hmem)
    · intro route hroute
      rcases List.mem_append.mp hroute with h | h
      · exact hreached.source route (List.mem_append_left _ h)
      · rcases List.mem_cons.mp h with heq | h
        · rw [heq]
          exact Or.inr hrequest
        · exact hreached.source route
            (List.mem_append_right _ (List.mem_cons_of_mem _ h))
    · show insert request.triple
        ((triples (front ++ found :: back)).erase found.triple) = _
      rw [erase_triples hreached.triples, triples_append_cons]

theorem wlp_routeUpdate {w : World} (h : Healthy w.files)
    (hagrees : KernelAgrees w) (hseparate : Separate (storedRoutes w))
    (hasked : (RouteRequest.update requests).Asked (storedRoutes w)) :
    wlp (routeUpdate requests)
      (fun _ w' => Healthy w'.files ∧ KernelAgrees w') w := by
  have hloop := wp_routeLoop updateCommands updatedRoutes requests
    (fun setting foundId w' => w'.files = w.files ∧
      UpdateReached (storedRoutes w) requests setting ∧
      w'.kernelRoutes = triples setting ∧
      (foundId = false -> setting = storedRoutes w))
    (by
      rintro request hrequest setting foundId w' ⟨hfiles, hreached, hkernel, hnone⟩
      rcases updateRecord hseparate hasked hreached hrequest with
        ⟨hreached', hkernel'⟩
      refine ⟨hfiles, hreached', ?_, ?_⟩
      · rw [World.kernelRoutes_runIpRoute, hkernel]
        exact hkernel'
      · intro hfalse
        rw [Bool.or_eq_false_iff] at hfalse
        unfold updatedRoutes
        rw [updateFirst_of_forall_not _]
        · exact hnone hfalse.1
        · simpa using hfalse.2)
    (storedRoutes w) false w
    ⟨rfl, ⟨rfl, hseparate.triples, fun _ => Or.inl⟩, hagrees, fun _ => rfl⟩
  unfold routeUpdate
  rw [wlp_bind, wlp_of_run (run_routeRequestFromSettingFile h), wlp_bind]
  apply wlp_mono _ (wlp_of_wp hloop)
  rintro ⟨setting, foundId⟩ w' ⟨hfiles, -, hkernel, hnone⟩
  have hhealthy : Healthy w'.files := by
    rw [hfiles]
    exact h
  cases foundId with
  | true =>
      simp only [if_true, wlp_bind,
        wlp_of_run (run_routeSaveToSettingFile hhealthy setting), wlp_pure]
      refine ⟨hhealthy.store _ _, ?_⟩
      unfold KernelAgrees
      rw [storedRoutes_storeRoutes]
      exact hkernel
  | false =>
      refine ⟨hhealthy, ?_⟩
      have hstored : storedRoutes w' = storedRoutes w := by
        unfold storedRoutes World.json
        rw [hfiles]
      unfold KernelAgrees
      rw [hstored, ← hnone rfl]
      exact hkernel

/-!
## Deleting

Once a route is found the array is the other routes and a second copy of the
last one, which the lower count cuts off again.  Should the route found be the
last, a further record finds the copy and the array stays as it is.
-/

/-- The array a deletion has reached, and the routing table with it. -/
def DeleteReached (stored requests setting : List Route) (foundId : Bool)
    (table : Finset KernelRoute) : Prop :=
  (foundId = false ∧ setting = stored ∧ table = triples stored) ∨
    (foundId = true ∧ exists front found back request,
      stored = front ++ found :: back ∧ request ∈ requests ∧
      matchesId request found = true ∧
      setting = front ++ back ++ ((found :: back).getLast?).toList ∧
      table = triples (front ++ back))

theorem deleteCommands_of_forall_not {request : Route} {setting : List Route}
    (h : forall route, route ∈ setting -> matchesId request route = false) :
    deleteCommands request setting = [] := by
  have hany : setting.any (matchesId request) = false := by
    simpa using h
  simp [deleteCommands, hany]

theorem deleteCommands_of_mem {request route : Route} {setting : List Route}
    (hmem : route ∈ setting) (hmatch : matchesId request route = true) :
    deleteCommands request setting = [.del request.triple] := by
  have hany : setting.any (matchesId request) = true := by
    simp only [List.any_eq_true]
    exact ⟨route, hmem, hmatch⟩
  simp [deleteCommands, hany]

/-- The first record that finds a route takes it out of list and table. -/
theorem deleteRecord_of_first (hnodup : (stored.map Route.triple).Nodup)
    (hone : FindsOne requests stored) {request : Route}
    (hrequest : request ∈ requests) :
    DeleteReached stored requests (remainingRoutes request stored)
      (stored.any (matchesId request))
      (runIpRoute (triples stored) (deleteCommands request stored)) := by
  rcases scan_cases (matchesId request) stored with
    hnone | ⟨front, found, back, hsplit, hfront, hfound⟩
  · left
    unfold remainingRoutes
    rw [shiftOutFirst_of_forall_not hnone, deleteCommands_of_forall_not hnone]
    exact ⟨by simpa using hnone, rfl, rfl⟩
  · right
    have hmem : found ∈ stored := by
      rw [hsplit]
      simp
    have htriple := (hone request hrequest found hmem hfound).1
    refine ⟨?_, front, found, back, request, hsplit, hrequest, hfound, ?_, ?_⟩
    · simp only [List.any_eq_true]
      exact ⟨found, hmem, hfound⟩
    · unfold remainingRoutes
      rw [hsplit]
      exact shiftOutFirst_append_cons hfront hfound back
    · rw [deleteCommands_of_mem hmem hfound, htriple]
      rw [hsplit] at hnodup ⊢
      exact erase_triples hnodup

/-- A later record finds nothing, or the copy of the route just deleted. -/
theorem deleteRecord_of_later (hnodup : (stored.map Route.triple).Nodup)
    (hone : FindsOne requests stored) {front found back : _}
    (hsplit : stored = front ++ found :: back) {first request : Route}
    (hfirst : first ∈ requests) (hfound : matchesId first found = true)
    (hrequest : request ∈ requests) :
    let setting := front ++ back ++ ((found :: back).getLast?).toList
    remainingRoutes request setting = setting ∧
      runIpRoute (triples (front ++ back)) (deleteCommands request setting) =
        triples (front ++ back) := by
  intro setting
  have hmemFound : found ∈ stored := by
    rw [hsplit]
    simp
  have honly := (hone first hfirst found hmemFound hfound).2 request hrequest
  have hothers : forall route, route ∈ front ++ back ->
      matchesId request route = false := by
    intro route hroute
    cases hmatch : matchesId request route with
    | false => rfl
    | true =>
        have hstored : route ∈ stored := by
          rw [hsplit]
          rcases List.mem_append.mp hroute with h | h
          · exact List.mem_append_left _ h
          · exact List.mem_append_right _ (List.mem_cons_of_mem _ h)
        have heq := honly route hstored hmatch
        rw [hsplit] at hnodup
        exact absurd (mem_triples.mpr ⟨route, hroute, by rw [heq]⟩)
          (triple_notMem_of_nodup hnodup)
  cases hmatch : matchesId request found with
  | false =>
      have hnone : forall route, route ∈ setting ->
          matchesId request route = false := by
        intro route hroute
        rcases List.mem_append.mp hroute with h | h
        · exact hothers route h
        · have hlast := List.mem_of_getLast? (Option.mem_toList.mp h)
          rcases List.mem_cons.mp hlast with heq | hback
          · rw [heq]
            exact hmatch
          · exact hothers route (List.mem_append_right _ hback)
      unfold remainingRoutes
      rw [shiftOutFirst_of_forall_not hnone, deleteCommands_of_forall_not hnone]
      exact ⟨rfl, rfl⟩
  | true =>
      cases back with
      | nil =>
          have hsetting : setting = front ++ [found] := by
            simp [setting]
          have hfront : forall route, route ∈ front ->
              matchesId request route = false := by
            intro route hroute
            exact hothers route (List.mem_append_left _ hroute)
          have htriple :=
            (hone request hrequest found hmemFound hmatch).1
          rw [hsplit] at hnodup
          constructor
          · unfold remainingRoutes
            rw [hsetting, shiftOutFirst_append_cons hfront hmatch]
            simp
          · rw [deleteCommands_of_mem (by rw [hsetting]; simp) hmatch, htriple]
            exact Finset.erase_eq_of_notMem (triple_notMem_of_nodup hnodup)
      | cons next rest =>
          have hnone : forall route, route ∈ setting ->
              matchesId request route = false := by
            intro route hroute
            rcases List.mem_append.mp hroute with h | h
            · exact hothers route h
            · have hlast : route ∈ (next :: rest).getLast? := by
                simpa [List.getLast?_cons_cons] using h
              exact hothers route
                (List.mem_append_right _ (List.mem_of_getLast? hlast))
          unfold remainingRoutes
          rw [shiftOutFirst_of_forall_not hnone,
            deleteCommands_of_forall_not hnone]
          exact ⟨rfl, rfl⟩

theorem wlp_routeDelete {w : World} (h : Healthy w.files)
    (hagrees : KernelAgrees w)
    (hnodup : ((storedRoutes w).map Route.triple).Nodup)
    (hone : FindsOne requests (storedRoutes w)) :
    wlp (routeDelete requests)
      (fun _ w' => Healthy w'.files ∧ KernelAgrees w') w := by
  have hloop := wp_routeLoop deleteCommands remainingRoutes requests
    (fun setting foundId w' => w'.files = w.files ∧
      DeleteReached (storedRoutes w) requests setting foundId w'.kernelRoutes)
    (by
      rintro request hrequest setting foundId w' ⟨hfiles, hreached⟩
      refine ⟨hfiles, ?_⟩
      rw [World.kernelRoutes_runIpRoute]
      rcases hreached with ⟨hfalse, hsetting, htable⟩ |
        ⟨htrue, front, found, back, first, hsplit, hfirst, hfound, hsetting,
          htable⟩
      · rw [hfalse, hsetting, htable]
        exact deleteRecord_of_first hnodup hone hrequest
      · rcases deleteRecord_of_later hnodup hone hsplit hfirst hfound hrequest
          with ⟨hremaining, hkernel⟩
        right
        refine ⟨by rw [htrue]; rfl, front, found, back, first, hsplit, hfirst,
          hfound, ?_, ?_⟩
        · rw [hsetting]
          exact hremaining
        · rw [hsetting, htable]
          exact hkernel)
    (storedRoutes w) false w ⟨rfl, Or.inl ⟨rfl, rfl, hagrees⟩⟩
  unfold routeDelete
  rw [wlp_bind, wlp_of_run (run_routeRequestFromSettingFile h), wlp_bind]
  apply wlp_mono _ (wlp_of_wp hloop)
  rintro ⟨array, foundId⟩ w' ⟨hfiles, hreached⟩
  change DeleteReached _ _ array foundId _ at hreached
  have hhealthy : Healthy w'.files := by
    rw [hfiles]
    exact h
  -- What is written, and that its triples are those in the kernel.
  have hkernel : w'.kernelRoutes =
      triples (if foundId then array.take ((storedRoutes w).length - 1)
        else array) := by
    rcases hreached with ⟨hfalse, hsetting, htable⟩ |
      ⟨htrue, front, found, back, first, hsplit, hfirst, hfound, hsetting,
        htable⟩
    · rw [hfalse, htable, hsetting]
      rfl
    · have htake : array.take ((storedRoutes w).length - 1) = front ++ back := by
        have hlength : (storedRoutes w).length - 1 = (front ++ back).length := by
          rw [hsplit]
          simp
        rw [hlength, hsetting]
        exact List.take_left
      rw [htrue, if_pos rfl, htake, htable]
  simp only [wlp_bind, wlp_of_run (run_routeSaveToSettingFile hhealthy _)]
  refine ⟨hhealthy.store _ _, ?_⟩
  unfold KernelAgrees
  rw [storedRoutes_storeRoutes]
  exact hkernel

end

/-!
## Runs
-/

/-- One completed call that may be asked for. -/
def RouteStep (w : World) (request : RouteRequest) (w' : World) : Prop :=
  request.Asked (storedRoutes w) ∧ request.exec w = .ok ((), w')

theorem wlp_exec_of_keepsAgreement {w : World} (h : Healthy w.files)
    (hagrees : KernelAgrees w) {request : RouteRequest}
    (hasked : request.Asked (storedRoutes w))
    (hkeeps : request.KeepsAgreement (storedRoutes w)) :
    wlp request.exec (fun _ w' => Healthy w'.files ∧ KernelAgrees w') w := by
  cases request with
  | create uuid routes =>
      unfold RouteRequest.exec
      rw [wlp_bind]
      exact wlp_routeCreate h uuid routes hagrees
  | update routes =>
      unfold RouteRequest.exec
      rw [wlp_bind]
      exact wlp_routeUpdate h hagrees hkeeps hasked
  | delete routes =>
      unfold RouteRequest.exec
      rw [wlp_bind]
      exact wlp_routeDelete h hagrees hkeeps.1 hkeeps.2

/-- In a run whose requests all keep the agreement, the kernel's managed
triples are at the end those of the stored routes. -/
theorem kernelAgrees_of_run {w w' : World} {requests : List RouteRequest}
    (h : Healthy w.files) (hagrees : KernelAgrees w)
    (hrun : Runs (fun s request s' => RouteStep s request s' ∧
      request.KeepsAgreement (storedRoutes s)) w requests w') :
    KernelAgrees w' := by
  have hinv := hrun.invariant
    (fun s => Healthy s.files ∧ KernelAgrees s)
    (by
      rintro s request s' ⟨hhealthy, hs⟩ ⟨⟨hasked, hexec⟩, hkeeps⟩
      exact wlp_iff.mp (wlp_exec_of_keepsAgreement hhealthy hs hasked hkeeps)
        () s' hexec)
    ⟨h, hagrees⟩
  exact hinv.2

/-!
## A run, and a request that breaks the agreement
-/

def homeRoute : Route where
  id := some "route_1"
  interface := some "eth1"
  ipMask := some "10.1.0.0/16"
  targetIp := some "192.168.1.1"

def officeRoute : Route where
  id := some "route_2"
  interface := some "eth1"
  ipMask := some "10.2.0.0/16"
  targetIp := some "192.168.1.2"

/-- A daemon with the two routes, stored and in the kernel. -/
def routedWorld : World :=
  { storeRoutes [homeRoute, officeRoute] World.installed with
    kernelRoutes := triples [homeRoute, officeRoute] }

theorem healthy_routedWorld : Healthy routedWorld.files :=
  healthy_installed.store _ _

theorem storedRoutes_routedWorld :
    storedRoutes routedWorld = [homeRoute, officeRoute] :=
  storedRoutes_storeRoutes _ World.installed

/-- Deleting the office route by its whole record keeps the agreement. -/
theorem kernelAgrees_of_run_office :
    exists w', RouteStep routedWorld (.delete [officeRoute]) w' ∧
      KernelAgrees w' := by
  have hagrees : KernelAgrees routedWorld := by
    unfold KernelAgrees
    rw [storedRoutes_routedWorld]
    rfl
  have hasked : (RouteRequest.delete [officeRoute]).Asked
      (storedRoutes routedWorld) := by
    rw [storedRoutes_routedWorld]
    intro request hrequest
    left
    exact ⟨officeRoute, by simp, by simp_all, by simp_all [officeRoute]⟩
  have hkeeps : (RouteRequest.delete [officeRoute]).KeepsAgreement
      (storedRoutes routedWorld) := by
    rw [storedRoutes_routedWorld]
    unfold RouteRequest.KeepsAgreement FindsOne
    decide
  refine ⟨_, ⟨hasked, rfl⟩, kernelAgrees_of_run healthy_routedWorld hagrees
    (Runs.cons ⟨⟨hasked, rfl⟩, hkeeps⟩ (Runs.nil _))⟩

/-- Deleting a route by its identifier alone, as the interface offers it,
takes the route out of the file and leaves its triple in the kernel. -/
theorem not_kernelAgrees_of_delete_by_id :
    ¬ forall (w : World) (requests : List RouteRequest) (w' : World),
      Healthy w.files -> KernelAgrees w -> Runs RouteStep w requests w' ->
      KernelAgrees w' := by
  intro hclaim
  have hagrees : KernelAgrees routedWorld := by
    unfold KernelAgrees
    rw [storedRoutes_routedWorld]
    rfl
  have hasked : (RouteRequest.delete [{ id := some "route_2" }]).Asked
      (storedRoutes routedWorld) := by
    rw [storedRoutes_routedWorld]
    intro request hrequest
    left
    exact ⟨officeRoute, by simp, by simp_all [officeRoute],
      by simp_all⟩
  have hstep : RouteStep routedWorld (.delete [{ id := some "route_2" }])
      (storeRoutes [homeRoute]
        (routedWorld.runIpRoute [.del ("(null)", "(null)", "(null)")])) :=
    ⟨hasked, rfl⟩
  have hfinal := hclaim routedWorld _ _ healthy_routedWorld hagrees
    (Runs.cons hstep (Runs.nil _))
  unfold KernelAgrees at hfinal
  rw [storedRoutes_storeRoutes] at hfinal
  revert hfinal
  decide

end Network
end Noc
