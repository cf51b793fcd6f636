import Noc.Foundation.Interleaving
import Noc.Mesh.Topology
import Noc.Network.Iptables.Store
import Noc.Network.Route.Store

/-!
# Concurrent requests

Every message is handled by a thread of its own.  A request on a setting file
reads the whole file under the lock and later writes the whole file under the
lock, so the steps of two threads interleave.
-/

namespace Noc

open Foundation
open Foundation.Exec
open Mesh
open Network
open Utils

/-!
## Requests
-/

inductive StoreRequest where
  | createRoutes (uuid : Nat -> String) (creates : List Route)
  | createForwarding (uuid : Nat -> String) (creates : List Iptable)
  | pairDevices (devices : List DeviceInfo)
  | renameDevices (devices : List DeviceInfo)

namespace StoreRequest

def file : StoreRequest -> DaemonFile
  | createRoutes _ _ => .routeSetting
  | createForwarding _ _ => .iptablesDnatForwardingSetting
  | pairDevices _ => .meshDevices
  | renameDevices _ => .meshDevices

def exec : StoreRequest -> Daemon Unit
  | createRoutes uuid creates => do
      let _ <- routeCreate uuid creates
      return ()
  | createForwarding uuid creates => do
      let _ <- iptablesDnatForwardingCreate uuid creates
      return ()
  | pairDevices devices => setDeviceListToFile devices
  | renameDevices devices => do
      let _ <- updateDeviceListToFileFromWeb devices
      return ()

/-- The tree a request writes, from the tree it has read. -/
def edit (request : StoreRequest) (json : Option Json) : Option Json :=
  match request with
  | createRoutes uuid creates =>
      some (cvtRouteListToJson
        (cvtJsonToRouteList json ++ createdRoutes uuid creates))
  | createForwarding uuid creates =>
      some (cvtIptableListToJson
        (cvtJsonToIptableList json ++ createdProfiles uuid creates))
  | pairDevices devices =>
      some (cvtDeviceListToJson
        (setDeviceList devices (cvtJsonToDeviceList json)))
  | renameDevices devices =>
      some (cvtDeviceListToJson
        (renameDeviceList devices (cvtJsonToDeviceList json)))

/-- A new profile is followed by a rebuild of the firewall, which stops at a Nova
service without port profiles; the other requests complete in every state. -/
def Completes (w : World) : StoreRequest -> Prop
  | createForwarding _ _ => CarriesPortProfiles (storedNova w)
  | createRoutes _ _ | pairDevices _ | renameDevices _ => True

theorem Completes.congr {w w' : World} {request : StoreRequest}
    (h : request.Completes w) (hnova : storedNova w' = storedNova w) :
    request.Completes w' := by
  cases request with
  | createForwarding uuid creates =>
      show CarriesPortProfiles (storedNova w')
      rw [hnova]
      exact h
  | _ => trivial

/-- The pairs of requests that may meet on one file. -/
inductive Meet (w : World) : StoreRequest -> StoreRequest -> Prop where
  | routes (uuid uuid' : Nat -> String) (creates creates' : List Route) :
      Meet w (createRoutes uuid creates) (createRoutes uuid' creates')
  | forwarding (uuid uuid' : Nat -> String) (creates creates' : List Iptable)
      (hcarries : CarriesPortProfiles (storedNova w)) :
      Meet w (createForwarding uuid creates) (createForwarding uuid' creates')
  | devices (devices devices' : List DeviceInfo) :
      Meet w (pairDevices devices) (renameDevices devices')

theorem Meet.file_eq {w : World} {first second : StoreRequest}
    (h : Meet w first second) : second.file = first.file := by
  cases h <;> rfl

theorem Meet.completes {w : World} {first second : StoreRequest}
    (h : Meet w first second) : first.Completes w ∧ second.Completes w := by
  cases h with
  | routes => exact ⟨trivial, trivial⟩
  | forwarding _ _ _ _ hcarries => exact ⟨hcarries, hcarries⟩
  | devices => exact ⟨trivial, trivial⟩

/-- Alone, a request leaves its edit in the file. -/
theorem wp_exec {w : World} (h : Healthy w.files) {request : StoreRequest}
    (hcompletes : request.Completes w) :
    wp request.exec (fun _ w' => Healthy w'.files ∧ storedNova w' = storedNova w ∧
      w'.json request.file = request.edit (w.json request.file)) w := by
  cases request with
  | createRoutes uuid creates =>
      unfold exec
      rw [wp_bind, wp_of_run (run_routeCreate h uuid creates)]
      refine ⟨h.store _ _, ?_, World.json_storeJson_self _ _ _⟩
      simp [storedNova, routesCreated, storeRoutes]
  | createForwarding uuid creates =>
      unfold exec
      rw [wp_bind, wp_iptablesDnatForwardingCreate h]
      refine ⟨hcompletes, h.store _ _, ?_, World.json_storeJson_self _ _ _⟩
      exact storedNova_storeForwarding _
  | pairDevices devices =>
      unfold exec
      rw [wp_of_run (run_setDeviceListToFile h devices)]
      refine ⟨h.store _ _, ?_, World.json_storeJson_self _ _ _⟩
      simp [storedNova, storeDevices]
  | renameDevices devices =>
      unfold exec
      rw [wp_bind, wp_of_run (run_updateDeviceListToFileFromWeb h devices)]
      refine ⟨h.store _ _, ?_, World.json_storeJson_self _ _ _⟩
      simp [storedNova, storeDevices]

end StoreRequest

/-!
## Schedules
-/

/-- The tree in the file after a program that returns. -/
def fileAfter (program : Daemon Unit) (file : DaemonFile) (w : World) :
    Option Json :=
  match program w with
  | .ok (_, w') => w'.json file
  | .error _ => none

theorem fileAfter_of_wp {program : Daemon Unit} {file : DaemonFile} {w : World}
    {tree : Option Json}
    (h : wp program (fun _ w' => w'.json file = tree) w) :
    fileAfter program file w = tree := by
  rcases wp_iff.mp h with ⟨_, w', hrun, hfile⟩
  unfold fileAfter
  rw [hrun]
  exact hfile

/-- The tree two threads leave in the file of the first request. -/
def interleaved (first second : StoreRequest) (schedule : List Access)
    (w : World) : Option Json :=
  Shared.run (fun thread => if thread then second.edit else first.edit)
    (w.json first.file) schedule

section

variable {first second : StoreRequest} {w : World}

theorem fileAfter_alone (h : Healthy w.files) (hfirst : first.Completes w) :
    fileAfter first.exec first.file w = first.edit (w.json first.file) := by
  apply fileAfter_of_wp
  apply wp_mono _ (StoreRequest.wp_exec h hfirst)
  intro _ w' hw
  exact hw.2.2

theorem fileAfter_both (h : Healthy w.files) (hcompletes : first.Completes w)
    (hlater : second.Completes w) (hfile : second.file = first.file) :
    fileAfter (do first.exec; second.exec) first.file w =
      second.edit (first.edit (w.json first.file)) := by
  apply fileAfter_of_wp
  rw [wp_bind]
  apply wp_mono _ (StoreRequest.wp_exec h hcompletes)
  rintro _ w' ⟨hhealthy, hnova, hfirst⟩
  apply wp_mono _ (StoreRequest.wp_exec hhealthy (hlater.congr hnova))
  rintro _ w'' ⟨-, -, hsecond⟩
  rw [← hfile, hsecond, hfile, hfirst]

/-- One after the other when one has written before the other reads; otherwise
the one that writes last, as if it had been alone. -/
theorem interleaved_eq (hmeet : StoreRequest.Meet w first second)
    (h : Healthy w.files) {schedule : List Access} (hschedule : Schedule schedule) :
    interleaved first second schedule w =
      if [.write false, .read true].Sublist schedule then
        fileAfter (do first.exec; second.exec) first.file w
      else if [.write true, .read false].Sublist schedule then
        fileAfter (do second.exec; first.exec) first.file w
      else if schedule.getLast? = some (.write false) then
        fileAfter first.exec first.file w
      else fileAfter second.exec first.file w := by
  have hfile := hmeet.file_eq
  rcases hmeet.completes with ⟨hcompletes, hlater⟩
  have hfirst : fileAfter first.exec first.file w = _ :=
    fileAfter_alone h hcompletes
  have hsecond : fileAfter second.exec second.file w = _ :=
    fileAfter_alone h hlater
  have hboth : fileAfter (do first.exec; second.exec) first.file w = _ :=
    fileAfter_both h hcompletes hlater hfile
  have hother : fileAfter (do second.exec; first.exec) second.file w = _ :=
    fileAfter_both h hlater hcompletes hfile.symm
  rw [hfile] at hsecond hother
  rw [hfirst, hsecond, hboth, hother]
  exact run_of_schedule _ _ hschedule

end

/-!
## A schedule for each case
-/

def lanRoute : Route where
  interface := some "eth1"
  ipMask := some "10.1.0.0/16"
  targetIp := some "192.168.1.1"

def createLan : StoreRequest :=
  .createRoutes (fun _ => "1") [lanRoute]

def createGuest : StoreRequest :=
  .createRoutes (fun _ => "2") [{ lanRoute with ipMask := some "10.2.0.0/16" }]

theorem schedule_overlapping :
    Schedule [.read false, .read true, .write false, .write true] :=
  .left (.right (.left (.right .nil)))

/-- Both have read before the first writes: the second alone remains. -/
theorem interleaved_overlapping :
    interleaved createLan createGuest
      [.read false, .read true, .write false, .write true] World.installed =
      fileAfter createGuest.exec createLan.file World.installed := by
  have hmeet : StoreRequest.Meet World.installed createLan createGuest :=
    .routes _ _ _ _
  exact interleaved_eq hmeet healthy_installed schedule_overlapping

/-- Of two routes created at the same time one is lost. -/
theorem not_interleaved_serial :
    ¬ forall (first second : StoreRequest) (w : World) (schedule : List Access),
      StoreRequest.Meet w first second -> Healthy w.files -> Schedule schedule ->
      interleaved first second schedule w =
          fileAfter (do first.exec; second.exec) first.file w ∨
        interleaved first second schedule w =
          fileAfter (do second.exec; first.exec) first.file w := by
  intro hclaim
  have hserial := hclaim createLan createGuest World.installed
    [.read false, .read true, .write false, .write true] (.routes _ _ _ _)
    healthy_installed schedule_overlapping
  have hlengths := hserial.imp
    (congrArg fun json => (cvtJsonToRouteList json).length)
    (congrArg fun json => (cvtJsonToRouteList json).length)
  revert hlengths
  decide

end Noc
