import Noc.Foundation.Selection
import Noc.Mesh.Topology
import Noc.Network.Iptables.Store
import Noc.Network.Route.Store
import Noc.Rewriting

/-!
# Which records a request reaches

The updates and deletions of routes, forwarding profiles and devices find a
stored record by a key of the request that contains the record's.  What else is
stored stays, however the operation ends.
-/

namespace Noc

open Api
open Foundation
open Foundation.Exec
open Mesh
open Network

def Contains (request stored : Option String) : Prop :=
  appStrstr request stored = true

/-- Both keys are there and are one string. -/
def SameKey (request stored : Option String) : Prop :=
  request ≠ none ∧ stored = request

theorem contains_trans (a b c : Option String) (h : Contains a b)
    (h' : Contains b c) : Contains a c :=
  appStrstr_trans h h'

/-!
## Routes
-/

section

variable {w : World}

/-- A loop over the records of a request writes nothing, and what each record
preserves of the list and the flag holds where the loop ends. -/
theorem run_routeLoop (commands : Route -> List Route -> List IpRouteCommand)
    (edit : Route -> List Route -> List Route) {requests setting : List Route}
    (inv : List Route -> Bool -> Prop)
    (hstep : forall request, request ∈ requests ->
      forall setting foundId, inv setting foundId ->
        inv (edit request setting)
          (foundId || setting.any (matchesId request)))
    (hinit : inv setting false) {json : Option Json} {w' : World}
    (hread : HasRead .routeSetting w json w') :
    exists routes foundId w'', routeLoop commands edit requests setting false w' =
        .ok ((routes, foundId), w'') ∧ HasRead .routeSetting w json w'' ∧
      inv routes foundId := by
  have hloop := wp_routeLoop commands edit requests
    (fun routes foundId w'' =>
      HasRead .routeSetting w json w'' ∧ inv routes foundId)
    (fun request hmem routes foundId w'' h =>
      ⟨h.1.runIpRoute _, hstep request hmem routes foundId h.2⟩)
    setting false w' ⟨hread, hinit⟩
  rcases wp_iff.mp hloop with ⟨out, w'', hrun, hkept⟩
  exact ⟨out.1, out.2, w'', hrun, hkept⟩

/-- The stored routes where a save ends. -/
theorem storedRoutes_final_save {α : Type} {p : List Route -> Prop}
    {json : Option Json} {w' : World} {routes : List Route}
    {next : ErrorCode -> Daemon α} (hread : HasRead .routeSetting w json w')
    (hold : p (storedRoutes w))
    (hnew : json = w.json .routeSetting -> p routes)
    (hnext : forall err, Respects (Beside []) (next err)) :
    p (storedRoutes (final (routeSaveToSettingFile routes >>= next) w')) := by
  unfold routeSaveToSettingFile
  rw [bind_bind]
  refine json_final_writeJson_bind (p := fun json => p (cvtJsonToRouteList json))
    hread hold ?_ fun _ => respects_bind (respects_pure _) hnext
  intro hjson
  rw [cvtJsonToRouteList_cvtRouteListToJson]
  exact hnew hjson

theorem replaced_routeUpdate (updates : List Route) (w : World) :
    Replaced Route.id Contains updates (storedRoutes w)
      (storedRoutes (final (routeUpdate updates) w)) := by
  unfold routeUpdate routeRequestFromSettingFile
  rw [bind_bind]
  refine json_final_readJson_bind (p := fun json =>
    Replaced Route.id Contains updates (storedRoutes w) (cvtJsonToRouteList json))
    rfl (Replaced.refl updates _) ?_
  intro json w' hread
  rcases run_routeLoop updateCommands updatedRoutes
      (fun routes _ => Replaced Route.id Contains updates
        (cvtJsonToRouteList json) routes) (by
          intro update hmem routes _ h
          exact forall₂_updateFirst (fun old new hrel hp =>
            replaced_of_selects contains_trans hmem hp hrel) h)
      (Replaced.refl updates _) hread with
    ⟨routes, foundId, w'', hrun, hread', hreplaced⟩
  rw [Exec.pure_bind, final_bind_of_run hrun]
  cases foundId with
  | true =>
      refine storedRoutes_final_save hread' (Replaced.refl updates _) ?_
        fun _ => respects_pure _
      intro hjson
      rw [hjson] at hreplaced
      exact hreplaced
  | false =>
      have hsame : storedRoutes w'' = storedRoutes w := by
        unfold storedRoutes
        rw [hread'.beside.json_eq List.not_mem_nil]
      show Replaced _ _ _ _ (storedRoutes w'')
      rw [hsame]
      exact Replaced.refl updates _

theorem dropped_routeDelete (deletes : List Route) (w : World) :
    Dropped Route.id Contains deletes (storedRoutes w)
      (storedRoutes (final (routeDelete deletes) w)) := by
  unfold routeDelete routeRequestFromSettingFile
  rw [bind_bind]
  refine json_final_readJson_bind (p := fun json =>
    Dropped Route.id Contains deletes (storedRoutes w) (cvtJsonToRouteList json))
    rfl (Dropped.refl deletes _) ?_
  intro json w' hread
  rcases run_routeLoop deleteCommands remainingRoutes
      (Shifted Route.id Contains deletes (cvtJsonToRouteList json)) (by
        intro delete hmem routes _ h
        exact h.shiftOutFirst hmem fun _ hp => hp)
      (Shifted.refl deletes _) hread with
    ⟨routes, foundId, w'', hrun, hread', hshifted⟩
  rw [Exec.pure_bind, final_bind_of_run hrun]
  refine storedRoutes_final_save hread' (Dropped.refl deletes _) ?_
    fun _ => respects_ite (respects_pure _) (respects_pure _)
  intro hjson
  have hdropped := hshifted.dropped
  rw [hjson] at hdropped ⊢
  exact hdropped

/-!
## Forwarding profiles
-/

/-- The stored profiles where a save ends. -/
theorem storedForwarding_final_save {α : Type} {p : List Iptable -> Prop}
    {json : Option Json} {w' : World} {iptables : List Iptable}
    {next : ErrorCode -> Daemon α}
    (hread : HasRead .iptablesDnatForwardingSetting w json w')
    (hold : p (storedForwarding w))
    (hnew : json = w.json .iptablesDnatForwardingSetting -> p iptables)
    (hnext : forall err, Respects (Beside []) (next err)) :
    p (storedForwarding (final (saveForwarding iptables >>= next) w')) := by
  have hrefresh : forall err : ErrorCode, Respects (Beside [])
      (if err ≠ .success then pure err else untilError [iptablesRefresh]) := by
    intro err
    refine respects_ite (respects_pure _) (respects_untilError ?_)
    intro step hstep
    rw [List.mem_singleton.mp hstep]
    exact respects_iptablesRefresh
  unfold saveForwarding untilError iptablesDnatForwardingSaveToSettingFile
  rw [bind_bind, bind_bind]
  refine json_final_writeJson_bind
    (p := fun json => p (cvtJsonToIptableList json)) hread hold ?_ ?_
  · intro hjson
    rw [cvtJsonToIptableList_cvtIptableListToJson]
    exact hnew hjson
  · intro ret
    exact respects_bind (respects_pure _) fun err =>
      respects_bind (hrefresh err) hnext

theorem replaced_iptablesDnatForwardingUpdate (updates : List Iptable)
    (w : World) :
    Replaced Iptable.id Contains updates (storedForwarding w)
      (storedForwarding (final (iptablesDnatForwardingUpdate updates) w)) := by
  unfold iptablesDnatForwardingUpdate iptablesDnatForwardingRequest
    iptableDnatForwardingRequestFromSettingFile
  rw [bind_bind]
  refine json_final_readJson_bind (p := fun json =>
    Replaced Iptable.id Contains updates (storedForwarding w)
      (cvtJsonToIptableList json)) rfl (Replaced.refl updates _) ?_
  intro json w' hread
  refine storedForwarding_final_save hread (Replaced.refl updates _) ?_
    fun _ => respects_ite (respects_pure _)
      (respects_ite (respects_pure _) (respects_pure _))
  intro hjson
  apply foldl_invariant (Replaced Iptable.id Contains updates (storedForwarding w))
  · intro iptables update hmem h
    exact forall₂_replaceAll (fun old new hrel hp =>
      replaced_of_selects contains_trans hmem hp hrel) h
  · rw [hjson]
    exact Replaced.refl updates _

theorem dropped_iptablesDnatForwardingDelete (deletes : List Iptable)
    (w : World) :
    Dropped Iptable.id Contains deletes (storedForwarding w)
      (storedForwarding (final (iptablesDnatForwardingDelete deletes) w)) := by
  unfold iptablesDnatForwardingDelete iptablesDnatForwardingRequest
    iptableDnatForwardingRequestFromSettingFile
  rw [bind_bind]
  refine json_final_readJson_bind (p := fun json =>
    Dropped Iptable.id Contains deletes (storedForwarding w)
      (cvtJsonToIptableList json)) rfl (Dropped.refl deletes _) ?_
  intro json w' hread
  refine storedForwarding_final_save hread (Dropped.refl deletes _) ?_
    fun _ => respects_ite (respects_pure _)
      (respects_ite (respects_pure _) (respects_pure _))
  intro hjson
  apply foldl_invariant (Dropped Iptable.id Contains deletes (storedForwarding w))
  · intro iptables delete hmem h
    exact h.eraseP hmem fun _ hp => hp
  · rw [hjson]
    exact Dropped.refl deletes _

/-!
## Devices
-/

theorem final_editDevices {α : Type} {edit : List DeviceInfo -> List DeviceInfo}
    {result : List DeviceInfo -> Daemon α} {p : List DeviceInfo -> Prop}
    (hold : p (storedDevices w)) (hnew : p (edit (storedDevices w)))
    (hresult : forall current, Respects (Beside []) (result current)) :
    p (storedDevices (final (requestDeviceListFromFile >>= fun current =>
      saveDeviceListToFile (edit current) >>= fun _ => result current) w)) := by
  unfold requestDeviceListFromFile saveDeviceListToFile
  rw [bind_bind]
  refine json_final_readJson_bind (p := fun json => p (cvtJsonToDeviceList json))
    rfl hold ?_
  intro json w' hread
  rw [Exec.pure_bind, bind_bind]
  refine json_final_writeJson_bind (p := fun json => p (cvtJsonToDeviceList json))
    hread hold ?_ fun _ => respects_bind (respects_pure _) fun _ => hresult _
  intro hjson
  rw [cvtJsonToDeviceList_cvtDeviceListToJson, hjson]
  exact hnew

/-- One edit of a device for each of the request, which keeps its mac. -/
theorem edited_foldl_updateFirst (f : DeviceInfo -> DeviceInfo -> DeviceInfo)
    (hmac : forall device stored, (f device stored).mac = stored.mac)
    (devices current : List DeviceInfo) :
    Edited DeviceInfo.mac Contains devices current
      (devices.foldl (fun current device =>
        updateFirst (matchesMac device) (f device) current) current) :=
  foldl_invariant (Edited DeviceInfo.mac Contains devices current)
    (fun _ device hmem h => h.updateFirst hmem (hmac device) fun _ hp => hp)
    (Edited.refl devices current)

theorem edited_deleteDeviceListFromFile (devices : List DeviceInfo)
    (w : World) :
    Edited DeviceInfo.mac Contains devices (storedDevices w)
      (storedDevices (final (deleteDeviceListFromFile devices) w)) := by
  unfold deleteDeviceListFromFile
  exact final_editDevices (p := Edited DeviceInfo.mac Contains devices _)
    (Edited.refl devices _)
    (edited_foldl_updateFirst (fun _ stored =>
      { stored with status := deviceDeleted }) (fun _ _ => rfl) devices _)
    fun _ => respects_pure _

theorem edited_updateDeviceListToFileFromWeb (devices : List DeviceInfo)
    (w : World) :
    Edited DeviceInfo.mac Contains devices (storedDevices w)
      (storedDevices (final (updateDeviceListToFileFromWeb devices) w)) := by
  unfold updateDeviceListToFileFromWeb
  exact final_editDevices (p := Edited DeviceInfo.mac Contains devices _)
    (Edited.refl devices _)
    (edited_foldl_updateFirst (fun device stored =>
      { stored with ezmName := device.ezmName }) (fun _ _ => rfl) devices _)
    fun _ => respects_pure _

end

/-!
## All six operations
-/

/-- The records the operations on routes, forwarding profiles and devices reach
are selected by the request. -/
structure ReachesOnly (selects : Option String -> Option String -> Prop)
    (w : World) (routes : List Route) (iptables : List Iptable)
    (devices : List DeviceInfo) : Prop where
  routeUpdate : Replaced Route.id selects routes (storedRoutes w)
    (storedRoutes (final (routeUpdate routes) w))
  routeDelete : Dropped Route.id selects routes (storedRoutes w)
    (storedRoutes (final (routeDelete routes) w))
  forwardingUpdate : Replaced Iptable.id selects iptables (storedForwarding w)
    (storedForwarding (final (iptablesDnatForwardingUpdate iptables) w))
  forwardingDelete : Dropped Iptable.id selects iptables (storedForwarding w)
    (storedForwarding (final (iptablesDnatForwardingDelete iptables) w))
  deleteDevices : Edited DeviceInfo.mac selects devices (storedDevices w)
    (storedDevices (final (deleteDeviceListFromFile devices) w))
  updateDevices : Edited DeviceInfo.mac selects devices (storedDevices w)
    (storedDevices (final (updateDeviceListToFileFromWeb devices) w))

/-- No request's key holds more than a stored key it contains. -/
def NoneProper {α : Type} (key : α -> Option String) (requests stored : List α) :
    Prop :=
  forall request, request ∈ requests -> forall entry, entry ∈ stored ->
    Contains (key request) (key entry) -> SameKey (key request) (key entry)

/-- A request reaches what its keys contain, and only its own keys where none
contains more. -/
theorem reachesOnly_contains (w : World) (routes : List Route)
    (iptables : List Iptable) (devices : List DeviceInfo) :
    ReachesOnly Contains w routes iptables devices ∧
      (NoneProper Route.id routes (storedRoutes w) ∧
        NoneProper Iptable.id iptables (storedForwarding w) ∧
        NoneProper DeviceInfo.mac devices (storedDevices w) ->
        ReachesOnly SameKey w routes iptables devices) := by
  have hcontains : ReachesOnly Contains w routes iptables devices :=
    { routeUpdate := replaced_routeUpdate routes w
      routeDelete := dropped_routeDelete routes w
      forwardingUpdate := replaced_iptablesDnatForwardingUpdate iptables w
      forwardingDelete := dropped_iptablesDnatForwardingDelete iptables w
      deleteDevices := edited_deleteDeviceListFromFile devices w
      updateDevices := edited_updateDeviceListToFileFromWeb devices w }
  refine ⟨hcontains, fun hsame => ?_⟩
  exact
    { routeUpdate := hcontains.routeUpdate.mono hsame.1
      routeDelete := hcontains.routeDelete.mono hsame.1
      forwardingUpdate := hcontains.forwardingUpdate.mono hsame.2.1
      forwardingDelete := hcontains.forwardingDelete.mono hsame.2.1
      deleteDevices := hcontains.deleteDevices.mono hsame.2.2
      updateDevices := hcontains.updateDevices.mono hsame.2.2 }

/-- A daemon with one stored route. -/
def oneRoute : World :=
  storeRoutes [{ id := some "route_1" }] World.installed

def longerRoute : Route := { id := some "route_12" }

/-- The stored route makes way for one whose identifier only begins like its
own. -/
theorem not_reachesOnly_sameKey :
    ¬ forall w routes iptables devices,
      ReachesOnly SameKey w routes iptables devices := by
  intro hclaim
  have hreplaced := (hclaim oneRoute [longerRoute] [] []).routeUpdate
  have hbefore : storedRoutes oneRoute = [{ id := some "route_1" }] :=
    storedRoutes_storeRoutes _ _
  have hafter : storedRoutes (final (routeUpdate [longerRoute]) oneRoute) =
      [longerRoute] := by
    decide +kernel
  rw [hbefore, hafter] at hreplaced
  cases hreplaced with
  | cons hfirst _ =>
      cases hfirst with
      | inl hsame => exact absurd hsame (by decide)
      | inr hselected => exact absurd hselected.2.2 (by decide)

end Noc
