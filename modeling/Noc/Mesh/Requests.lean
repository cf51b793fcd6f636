import Noc.Mesh.Topology

/-!
# Requests on the device file

The four kinds of call that rewrite the device file, and what each leaves
there when no file access fails.
-/

namespace Noc
namespace Mesh

open Foundation
open Foundation.Exec

inductive DeviceRequest where
  | set (devices : List DeviceInfo)
  | poll (devices : List DeviceInfo)
  | rename (devices : List DeviceInfo)
  | delete (devices : List DeviceInfo)

namespace DeviceRequest

def devices : DeviceRequest -> List DeviceInfo
  | set devices => devices
  | poll devices => devices
  | rename devices => devices
  | delete devices => devices

def exec : DeviceRequest -> Daemon Unit
  | set devices => setDeviceListToFile devices
  | poll devices => updateDeviceListToFileFromEmtDevice devices
  | rename devices => do
      let _ <- updateDeviceListToFileFromWeb devices
      return ()
  | delete devices => do
      let _ <- deleteDeviceListFromFile devices
      return ()

/-- The list a request leaves in the device file. -/
def edit (request : DeviceRequest) (current : List DeviceInfo) :
    List DeviceInfo :=
  match request with
  | set devices => setDeviceList devices current
  | poll devices => pollDeviceList devices current
  | rename devices => renameDeviceList devices current
  | delete devices => deleteDeviceList devices current

theorem run_exec {w : World} (h : Healthy w.files) (request : DeviceRequest) :
    request.exec w =
      .ok ((), storeDevices (request.edit (storedDevices w)) w) := by
  cases request with
  | set devices => exact run_setDeviceListToFile h devices
  | poll devices => exact run_updateDeviceListToFileFromEmtDevice h devices
  | rename devices =>
      apply run_of_wp
      unfold exec
      rw [wp_bind, wp_of_run (run_updateDeviceListToFileFromWeb h devices)]
      exact ⟨rfl, rfl⟩
  | delete devices =>
      apply run_of_wp
      unfold exec
      rw [wp_bind, wp_of_run (run_deleteDeviceListFromFile h devices)]
      exact ⟨rfl, rfl⟩

end DeviceRequest

/-!
## Marking and renaming

Neither touches a key.
-/

section

variable {α : Type} {key : DeviceInfo -> α}

theorem map_deleteDeviceList
    (hkey : forall device, key { device with status := deviceDeleted } = key device)
    (devices current : List DeviceInfo) :
    (deleteDeviceList devices current).map key = current.map key :=
  map_foldl_updateFirst (fun _ stored => { stored with status := deviceDeleted })
    (fun _ stored => hkey stored) devices current

theorem map_renameDeviceList
    (hkey : forall device ezmName,
      key { device with ezmName := ezmName } = key device)
    (devices current : List DeviceInfo) :
    (renameDeviceList devices current).map key = current.map key :=
  map_foldl_updateFirst
    (fun device stored => { stored with ezmName := device.ezmName })
    (fun device stored => hkey stored device.ezmName) devices current

end

/-!
## Two devices

A gateway and the agent in its hallway, for the examples.
-/

def gateway : DeviceInfo where
  ezmId := some "ezm_1"
  role := some "controller"
  mac := some "02:00:00:00:00:01"
  status := deviceOn

def hallway : DeviceInfo where
  ezmId := some "ezm_2"
  role := some "agent"
  mac := some "02:00:00:00:00:02"
  status := deviceOn

def kitchen : DeviceInfo where
  ezmId := some "ezm_3"
  role := some "agent"
  mac := some "02:00:00:00:00:03"

/-- A gateway and the agent in the hallway are stored. -/
def pairedWorld : World :=
  storeDevices [gateway, hallway] World.installed

theorem healthy_pairedWorld : Healthy pairedWorld.files :=
  healthy_storeDevices healthy_installed _

theorem storedDevices_pairedWorld : storedDevices pairedWorld = [gateway, hallway] :=
  storedDevices_storeDevices _ World.installed

end Mesh
end Noc
