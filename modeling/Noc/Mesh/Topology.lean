import Noc.Foundation.Scan
import Noc.Mesh.Device
import Noc.World

/-!
# The device store

The operations of `core/mesh/topology/topology.c` on the device file.  Each
reads the whole list, edits it and writes it back.
-/

namespace Noc
namespace Mesh

open Foundation
open Foundation.Exec

def isController (device : DeviceInfo) : Bool :=
  appStrstr device.role (some "controller")

/-- A stored device is found by a mac that contains its own. -/
def matchesMac (request stored : DeviceInfo) : Bool :=
  appStrstr request.mac stored.mac

def matchesEzmId (request stored : DeviceInfo) : Bool :=
  appStrstr request.ezmId stored.ezmId

def matchesKey (request stored : DeviceInfo) : Bool :=
  matchesMac request stored || matchesEzmId request stored

/-!
## Edits of the list
-/

/-- One device of `set_device_list_to_file`: take over an entry or append. -/
def setDevice (current : List DeviceInfo) (device : DeviceInfo) :
    List DeviceInfo :=
  if current.any (matchesKey device) then
    updateFirst (matchesKey device) (fun _ => device) current
  else current ++ [device]

def setDeviceList (devices current : List DeviceInfo) : List DeviceInfo :=
  devices.foldl setDevice current

def deleteDevice (current : List DeviceInfo) (device : DeviceInfo) :
    List DeviceInfo :=
  updateFirst (matchesMac device)
    (fun stored => { stored with status := deviceDeleted }) current

def deleteDeviceList (devices current : List DeviceInfo) : List DeviceInfo :=
  devices.foldl deleteDevice current

def renameDevice (current : List DeviceInfo) (device : DeviceInfo) :
    List DeviceInfo :=
  updateFirst (matchesMac device)
    (fun stored => { stored with ezmName := device.ezmName }) current

def renameDeviceList (devices current : List DeviceInfo) : List DeviceInfo :=
  devices.foldl renameDevice current

/-- What a polled device tells about the entry it matches. -/
def refresh (polled stored : DeviceInfo) : DeviceInfo :=
  { stored with
    mac := polled.mac
    ip := polled.ip
    parentMac := polled.parentMac
    channelSelection5g := polled.channelSelection5g
    channelSelection2g := polled.channelSelection2g }

/-- An agent refreshes every entry with its mac; a deleted entry stays so. -/
def refreshAgent (polled stored : DeviceInfo) : DeviceInfo :=
  if matchesMac polled stored then
    { refresh polled stored with
      role := polled.role
      status := if stored.status ≠ deviceDeleted then deviceOn else stored.status }
  else stored

/-- A controller refreshes every entry that has the controller's role. -/
def refreshController (polled stored : DeviceInfo) : DeviceInfo :=
  if isController stored then { refresh polled stored with status := deviceOn }
  else stored

theorem refreshAgent_of_not {polled stored : DeviceInfo}
    (h : matchesMac polled stored = false) : refreshAgent polled stored = stored := by
  simp [refreshAgent, h]

theorem refreshController_of_not {polled stored : DeviceInfo}
    (h : isController stored = false) : refreshController polled stored = stored := by
  simp [refreshController, h]

def pollDevice (current : List DeviceInfo) (polled : DeviceInfo) :
    List DeviceInfo :=
  if isController polled then current.map (refreshController polled)
  else if current.any (matchesMac polled) then
    current.map (refreshAgent polled)
  else current ++ [{ deviceInfoCopy polled with status := deviceOn }]

/-- The second loop: an entry that is no controller and that no polled device
answers for goes off. -/
def turnOff (polled : List DeviceInfo) (stored : DeviceInfo) : DeviceInfo :=
  if isController stored then stored
  else if polled.any fun device => matchesMac stored device then stored
  else { stored with status := deviceOff }

def pollDeviceList (polled current : List DeviceInfo) : List DeviceInfo :=
  (polled.foldl pollDevice current).map (turnOff polled)

/-!
## Operations
-/

def requestDeviceListFromFile : Daemon (List DeviceInfo) := do
  let json <- readJson .meshDevices
  return cvtJsonToDeviceList json

def requestDeviceListFromFileByStatus (status : Int32) :
    Daemon (List DeviceInfo) := do
  let devices <- requestDeviceListFromFile
  return (devices.filter fun device => device.status = status).map deviceInfoCopy

/-- Write the list back; the result of `write_data` is not looked at. -/
def saveDeviceListToFile (devices : List DeviceInfo) : Daemon Unit := do
  let _ <- writeJson (cvtDeviceListToJson devices) .meshDevices
  return ()

def setDeviceListToFile (devices : List DeviceInfo) : Daemon Unit := do
  let current <- requestDeviceListFromFile
  saveDeviceListToFile (setDeviceList devices current)

/-- Tells whether some device of the request was found.  Marking keeps the
macs, so what is found can be read off the stored list. -/
def deleteDeviceListFromFile (devices : List DeviceInfo) : Daemon Bool := do
  let current <- requestDeviceListFromFile
  saveDeviceListToFile (deleteDeviceList devices current)
  return devices.any fun device => current.any (matchesMac device)

def updateDeviceListToFileFromEmtDevice (polled : List DeviceInfo) :
    Daemon Unit := do
  let current <- requestDeviceListFromFile
  saveDeviceListToFile (pollDeviceList polled current)

def updateDeviceListToFileFromWeb (devices : List DeviceInfo) :
    Daemon Bool := do
  let current <- requestDeviceListFromFile
  saveDeviceListToFile (renameDeviceList devices current)
  return devices.any fun device => current.any (matchesMac device)

/-!
## Results on a healthy file system
-/

def storedDevices (w : World) : List DeviceInfo :=
  cvtJsonToDeviceList (w.json .meshDevices)

def storeDevices (devices : List DeviceInfo) (w : World) : World :=
  w.storeJson .meshDevices (cvtDeviceListToJson devices)

@[simp] theorem storedDevices_storeDevices (devices : List DeviceInfo)
    (w : World) : storedDevices (storeDevices devices w) = devices := by
  simp [storedDevices, storeDevices]

theorem healthy_storeDevices {w : World} (h : Healthy w.files)
    (devices : List DeviceInfo) : Healthy (storeDevices devices w).files :=
  h.store _ _

section

variable {w : World}

theorem run_requestDeviceListFromFile (h : Healthy w.files) :
    requestDeviceListFromFile w = .ok (storedDevices w, w) := by
  apply run_of_wp
  unfold requestDeviceListFromFile
  rw [wp_bind, wp_readJson h rfl]
  exact ⟨rfl, rfl⟩

theorem run_requestDeviceListFromFileByStatus (h : Healthy w.files)
    (status : Int32) :
    requestDeviceListFromFileByStatus status w =
      .ok ((storedDevices w).filter (fun device => device.status = status), w) := by
  apply run_of_wp
  unfold requestDeviceListFromFileByStatus
  rw [wp_bind, wp_of_run (run_requestDeviceListFromFile h)]
  exact ⟨List.map_id' _, rfl⟩

theorem run_saveDeviceListToFile (h : Healthy w.files)
    (devices : List DeviceInfo) :
    saveDeviceListToFile devices w = .ok ((), storeDevices devices w) := by
  apply run_of_wp
  unfold saveDeviceListToFile
  rw [wp_bind, wp_writeJson h]
  exact ⟨rfl, rfl⟩

theorem run_setDeviceListToFile (h : Healthy w.files)
    (devices : List DeviceInfo) :
    setDeviceListToFile devices w =
      .ok ((), storeDevices (setDeviceList devices (storedDevices w)) w) := by
  apply run_of_wp
  unfold setDeviceListToFile
  rw [wp_bind, wp_of_run (run_requestDeviceListFromFile h),
    wp_of_run (run_saveDeviceListToFile h _)]
  exact ⟨rfl, rfl⟩

theorem run_deleteDeviceListFromFile (h : Healthy w.files)
    (devices : List DeviceInfo) :
    deleteDeviceListFromFile devices w =
      .ok (devices.any fun device => (storedDevices w).any (matchesMac device),
        storeDevices (deleteDeviceList devices (storedDevices w)) w) := by
  apply run_of_wp
  unfold deleteDeviceListFromFile
  rw [wp_bind, wp_of_run (run_requestDeviceListFromFile h), wp_bind,
    wp_of_run (run_saveDeviceListToFile h _)]
  exact ⟨rfl, rfl⟩

theorem run_updateDeviceListToFileFromEmtDevice (h : Healthy w.files)
    (polled : List DeviceInfo) :
    updateDeviceListToFileFromEmtDevice polled w =
      .ok ((), storeDevices (pollDeviceList polled (storedDevices w)) w) := by
  apply run_of_wp
  unfold updateDeviceListToFileFromEmtDevice
  rw [wp_bind, wp_of_run (run_requestDeviceListFromFile h),
    wp_of_run (run_saveDeviceListToFile h _)]
  exact ⟨rfl, rfl⟩

theorem run_updateDeviceListToFileFromWeb (h : Healthy w.files)
    (devices : List DeviceInfo) :
    updateDeviceListToFileFromWeb devices w =
      .ok (devices.any fun device => (storedDevices w).any (matchesMac device),
        storeDevices (renameDeviceList devices (storedDevices w)) w) := by
  apply run_of_wp
  unfold updateDeviceListToFileFromWeb
  rw [wp_bind, wp_of_run (run_requestDeviceListFromFile h), wp_bind,
    wp_of_run (run_saveDeviceListToFile h _)]
  exact ⟨rfl, rfl⟩

end

end Mesh
end Noc
