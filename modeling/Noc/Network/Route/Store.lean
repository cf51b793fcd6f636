import Noc.Api.ErrorCode
import Noc.Foundation.Scan
import Noc.World

/-!
# The route store

The four operations of `core/network/route/route.c`.  Each works on the whole
list of stored routes and keeps the kernel's routing table in step by its own
`ip route` commands.
-/

namespace Noc
namespace Network

open Api
open Foundation
open Foundation.Exec

/-!
## Setting file
-/

def routeRequestFromSettingFile : Daemon (List Route) := do
  let json <- readJson .routeSetting
  return cvtJsonToRouteList json

def routeSaveToSettingFile (routes : List Route) : Daemon ErrorCode := do
  let ret <- writeJson (cvtRouteListToJson routes) .routeSetting
  return if ret = -1 then .internalServer else .success

/-!
## Edits of the list

The match is on the identifier: a stored route is found by a request whose
identifier contains the stored one.
-/

def matchesId (request stored : Route) : Bool :=
  appStrstr request.id stored.id

def createdRoutes (uuid : Nat -> String) (creates : List Route) : List Route :=
  creates.mapIdx fun i route => { route with id := some (uuidGen "route" (uuid i)) }

/-- One record of an update: the commands it runs and the list it leaves. -/
def updateCommands (update : Route) (stored : List Route) :
    List IpRouteCommand :=
  match stored.find? (matchesId update) with
  | some index => [.del index.triple, .add update.triple]
  | none => []

def updatedRoutes (update : Route) (stored : List Route) : List Route :=
  updateFirst (matchesId update) (fun _ => update) stored

/-- One record of a deletion.  The command is composed from the record of the
request, and the array keeps its length. -/
def deleteCommands (delete : Route) (stored : List Route) :
    List IpRouteCommand :=
  if stored.any (matchesId delete) then [.del delete.triple] else []

def remainingRoutes (delete : Route) (stored : List Route) : List Route :=
  shiftOutFirst (matchesId delete) stored

/-!
## Operations
-/

def routeRequest : Daemon (ErrorCode × List Route) := do
  let routes <- routeRequestFromSettingFile
  return (.success, routes)

def routeCreate (uuid : Nat -> String) (creates : List Route) :
    Daemon (ErrorCode × List Route) := do
  let setting <- routeRequestFromSettingFile
  execlIpRoute (creates.map fun route => .add route.triple)
  let routes := setting ++ createdRoutes uuid creates
  let err <- routeSaveToSettingFile routes
  return (err, routes)

/-- The loop over the records of a request, with the flag `found_id`. -/
def routeLoop (commands : Route -> List Route -> List IpRouteCommand)
    (edit : Route -> List Route -> List Route) :
    List Route -> List Route -> Bool -> Daemon (List Route × Bool)
  | [], setting, foundId => return (setting, foundId)
  | request :: rest, setting, foundId => do
      execlIpRoute (commands request setting)
      routeLoop commands edit rest (edit request setting)
        (foundId || setting.any (matchesId request))

def routeUpdate (updates : List Route) : Daemon (ErrorCode × List Route) := do
  let setting <- routeRequestFromSettingFile
  let (routes, foundId) <-
    routeLoop updateCommands updatedRoutes updates setting false
  if foundId then
    let err <- routeSaveToSettingFile routes
    return (err, routes)
  else return (.idMismatched, routes)

/-- However many records found a route, the count only drops by one. -/
def routeDelete (deletes : List Route) : Daemon (ErrorCode × List Route) := do
  let setting <- routeRequestFromSettingFile
  let (array, foundId) <-
    routeLoop deleteCommands remainingRoutes deletes setting false
  let routes := if foundId then array.take (setting.length - 1) else array
  let err <- routeSaveToSettingFile routes
  if err ≠ .success then return (err, routes)
  else return (if foundId then .success else .idMismatched, routes)

/-!
## Results on a healthy file system
-/

def storedRoutes (w : World) : List Route :=
  cvtJsonToRouteList (w.json .routeSetting)

def storeRoutes (routes : List Route) (w : World) : World :=
  w.storeJson .routeSetting (cvtRouteListToJson routes)

@[simp] theorem storedRoutes_storeRoutes (routes : List Route) (w : World) :
    storedRoutes (storeRoutes routes w) = routes := by
  simp [storedRoutes, storeRoutes]

theorem run_routeRequestFromSettingFile {w : World} (h : Healthy w.files) :
    routeRequestFromSettingFile w = .ok (storedRoutes w, w) := by
  apply run_of_wp
  unfold routeRequestFromSettingFile
  rw [wp_bind, wp_readJson h rfl]
  exact ⟨rfl, rfl⟩

theorem run_routeSaveToSettingFile {w : World} (h : Healthy w.files)
    (routes : List Route) :
    routeSaveToSettingFile routes w = .ok (.success, storeRoutes routes w) := by
  apply run_of_wp
  unfold routeSaveToSettingFile
  rw [wp_bind, wp_writeJson h]
  exact ⟨rfl, rfl⟩

/-- The world a creation leaves. -/
def routesCreated (uuid : Nat -> String) (creates : List Route) (w : World) :
    World :=
  storeRoutes (storedRoutes w ++ createdRoutes uuid creates)
    (w.runIpRoute (creates.map fun route => .add route.triple))

theorem run_routeCreate {w : World} (h : Healthy w.files)
    (uuid : Nat -> String) (creates : List Route) :
    routeCreate uuid creates w =
      .ok ((.success, storedRoutes w ++ createdRoutes uuid creates),
        routesCreated uuid creates w) := by
  apply run_of_wp
  unfold routeCreate execlIpRoute
  rw [wp_bind, wp_of_run (run_routeRequestFromSettingFile h), wp_bind,
    wp_modify, wp_bind, wp_of_run (run_routeSaveToSettingFile (by simpa using h) _)]
  exact ⟨rfl, rfl⟩

/-- A loop always returns.  What each record preserves, of the list, the flag
and the world, the loop preserves. -/
theorem wp_routeLoop (commands : Route -> List Route -> List IpRouteCommand)
    (edit : Route -> List Route -> List Route) (requests : List Route)
    (inv : List Route -> Bool -> World -> Prop)
    (hstep : forall request, request ∈ requests ->
      forall setting foundId w, inv setting foundId w ->
        inv (edit request setting) (foundId || setting.any (matchesId request))
          (w.runIpRoute (commands request setting)))
    (setting : List Route) (foundId : Bool) (w : World)
    (hinit : inv setting foundId w) :
    wp (routeLoop commands edit requests setting foundId)
      (fun out w' => inv out.1 out.2 w') w := by
  induction requests generalizing setting foundId w with
  | nil => exact hinit
  | cons request rest ih =>
      unfold routeLoop execlIpRoute
      rw [wp_bind, wp_modify]
      apply ih
      · intro other hmem
        exact hstep other (List.mem_cons_of_mem request hmem)
      · exact hstep request List.mem_cons_self setting foundId w hinit

end Network
end Noc
