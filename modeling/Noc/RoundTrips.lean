import Noc.Mesh.WorkMode
import Noc.Network.Iptables.Store
import Noc.Network.Route.Store

/-!
# Round trips

Every kind of record the daemon keeps in a setting file of its own comes back
from its own encoding, and so from the file it is saved to.
-/

namespace Noc

open Foundation
open Foundation.Exec
open Mesh
open Network

/-- The codec of a kind of record, and how the record is saved and read back.
An encoding of `none` is a NULL access. -/
structure Kept (α : Type) where
  encode : α -> Option Json
  decode : Option Json -> α
  save : α -> Daemon Unit
  request : Daemon α

namespace Kept

variable {α : Type}

/-- Decoding undoes encoding, and reading undoes saving. -/
structure Lossless (kept : Kept α) (value : α) : Prop where
  decodes : exists tree, kept.encode value = some tree ∧
    kept.decode (some tree) = value
  reads : forall w : World, Healthy w.files ->
    wp (do
        kept.save value
        kept.request)
      (fun read _ => read = value) w

/-- A codec that round trips makes a save into its file lossless. -/
theorem lossless_of_file {kept : Kept α} {file : DaemonFile} {value : α}
    {tree : Json} (hencode : kept.encode value = some tree)
    (hdecode : kept.decode (some tree) = value)
    (hsave : forall w : World, Healthy w.files ->
      kept.save value w = .ok ((), w.storeJson file tree))
    (hrequest : forall w : World, Healthy w.files ->
      kept.request w = .ok (kept.decode (w.json file), w)) :
    kept.Lossless value where
  decodes := ⟨tree, hencode, hdecode⟩
  reads := by
    intro w h
    have hstored := healthy_storeJson h file tree
    rw [wp_bind, wp_of_run (hsave w h), wp_of_run (hrequest _ hstored),
      World.json_storeJson_self]
    exact hdecode

end Kept

/-!
## Devices, routes and the mesh setting
-/

def keptDeviceList : Kept (List DeviceInfo) where
  encode devices := some (cvtDeviceListToJson devices)
  decode := cvtJsonToDeviceList
  save := saveDeviceListToFile
  request := requestDeviceListFromFile

def keptRouteList : Kept (List Route) where
  encode routes := some (cvtRouteListToJson routes)
  decode := cvtJsonToRouteList
  save routes := do
    let _ <- routeSaveToSettingFile routes
    return ()
  request := routeRequestFromSettingFile

def keptMeshSetting : Kept MeshSetting where
  encode setting := cvtMeshSettingToJson (some setting)
  decode := cvtJsonToMeshSetting
  save := writeMeshSetting
  request := readMeshSetting

theorem lossless_deviceList (devices : List DeviceInfo) :
    keptDeviceList.Lossless devices :=
  Kept.lossless_of_file rfl (cvtJsonToDeviceList_cvtDeviceListToJson devices)
    (fun _ h => run_saveDeviceListToFile h devices)
    (fun _ h => run_requestDeviceListFromFile h)

theorem lossless_routeList (routes : List Route) :
    keptRouteList.Lossless routes := by
  apply Kept.lossless_of_file rfl (cvtJsonToRouteList_cvtRouteListToJson routes)
  · intro w h
    apply run_of_wp
    show wp (routeSaveToSettingFile routes >>= _) _ w
    rw [wp_bind, wp_of_run (run_routeSaveToSettingFile h routes)]
    exact ⟨rfl, rfl⟩
  · intro w h
    exact run_routeRequestFromSettingFile h

theorem lossless_meshSetting (setting : MeshSetting) :
    keptMeshSetting.Lossless setting :=
  Kept.lossless_of_file rfl (cvtJsonToMeshSetting_cvtMeshSettingToJson setting)
    (fun _ h => run_writeMeshSetting h setting)
    (fun _ h => run_readMeshSetting h)

/-!
## Firewall profiles
-/

def keptDmz : Kept Iptable where
  encode profile := some (cvtIptableToJson profile)
  decode := cvtJsonToIptable
  save profile := do
    let _ <- iptableDnatDmzSaveToSettingFile profile
    return ()
  request := do
    let (_, profile) <- iptableDnatDmzRequestFromSettingFile
    return profile

def keptForwarding : Kept (List Iptable) where
  encode profiles := some (cvtIptableListToJson profiles)
  decode := cvtJsonToIptableList
  save profiles := do
    let _ <- iptablesDnatForwardingSaveToSettingFile profiles
    return ()
  request := do
    let (_, profiles) <- iptableDnatForwardingRequestFromSettingFile
    return profiles

def keptNovaServices : Kept (List IptableNovaService) where
  encode := cvtIptableNovaServiceListToJson
  decode := cvtJsonToIptableNovaServiceList
  save services := do
    let _ <- iptableNovaServiceSaveToSettingFile services
    return ()
  request := do
    let (_, services) <- iptableNovaServiceRequestFromSettingFile
    return services

theorem lossless_dmz (profile : Iptable) : keptDmz.Lossless profile := by
  apply Kept.lossless_of_file rfl (cvtJsonToIptable_cvtIptableToJson profile)
  · intro w h
    apply run_of_wp
    show wp (iptableDnatDmzSaveToSettingFile profile >>= _) _ w
    unfold iptableDnatDmzSaveToSettingFile
    rw [wp_bind, wp_bind, wp_writeJson h]
    exact ⟨rfl, rfl⟩
  · intro w h
    apply run_of_wp
    show wp (iptableDnatDmzRequestFromSettingFile >>= _) _ w
    unfold iptableDnatDmzRequestFromSettingFile
    rw [wp_bind, wp_bind, wp_readJson h rfl]
    exact ⟨rfl, rfl⟩

theorem lossless_forwarding (profiles : List Iptable) :
    keptForwarding.Lossless profiles := by
  apply Kept.lossless_of_file rfl
    (cvtJsonToIptableList_cvtIptableListToJson profiles)
  · intro w h
    apply run_of_wp
    show wp (iptablesDnatForwardingSaveToSettingFile profiles >>= _) _ w
    unfold iptablesDnatForwardingSaveToSettingFile
    rw [wp_bind, wp_bind, wp_writeJson h]
    exact ⟨rfl, rfl⟩
  · intro w h
    apply run_of_wp
    show wp (iptableDnatForwardingRequestFromSettingFile >>= _) _ w
    rw [wp_bind]
    exact (wp_of_run (run_iptablesDnatForwardingRequest h) _).mpr ⟨rfl, rfl⟩

/-- Encoding the services follows every `port_profiles`. -/
theorem lossless_novaServices {services : List IptableNovaService}
    (hcarries : CarriesPortProfiles services) :
    keptNovaServices.Lossless services := by
  rcases cvtIptableNovaServiceListToJson_of_carries hcarries with ⟨tree, htree⟩
  have hdecode := cvtJsonToIptableNovaServiceList_of_encoded htree
  apply Kept.lossless_of_file htree hdecode
  · intro w h
    apply run_of_wp
    show wp (iptableNovaServiceSaveToSettingFile services >>= _) _ w
    unfold iptableNovaServiceSaveToSettingFile field
    rw [wp_bind, wp_bind, wp_deref]
    refine ⟨tree, htree, ?_⟩
    rw [wp_bind, wp_writeJson h]
    exact ⟨rfl, rfl⟩
  · intro w h
    apply run_of_wp
    show wp (iptableNovaServiceRequestFromSettingFile >>= _) _ w
    unfold iptableNovaServiceRequestFromSettingFile
    rw [wp_bind, wp_bind, wp_readJson h rfl]
    exact ⟨rfl, rfl⟩

/-!
## All of them
-/

/-- No record the daemon keeps changes on its way through a setting file. -/
theorem lossless_records (devices : List DeviceInfo) (routes : List Route)
    (setting : MeshSetting) (profile : Iptable) (profiles : List Iptable)
    (services : List IptableNovaService)
    (hcarries : CarriesPortProfiles services) :
    keptDeviceList.Lossless devices ∧ keptRouteList.Lossless routes ∧
      keptMeshSetting.Lossless setting ∧ keptDmz.Lossless profile ∧
      keptForwarding.Lossless profiles ∧ keptNovaServices.Lossless services :=
  ⟨lossless_deviceList devices, lossless_routeList routes,
    lossless_meshSetting setting, lossless_dmz profile,
    lossless_forwarding profiles, lossless_novaServices hcarries⟩

def webProfile : Iptable :=
  { name := some "web", portRange := some "443", enable := true }

/-- A sub-record without its interface, an all-zero profile and a service
without a name among them. -/
theorem lossless_records_webProfile :
    keptDeviceList.Lossless [{ mac := some "02:00:00:00:00:01" }, {}] ∧
      keptRouteList.Lossless [{ id := some "route_1" }] ∧
      keptMeshSetting.Lossless { wireless := some {} } ∧
      keptDmz.Lossless {} ∧ keptForwarding.Lossless [webProfile, {}] ∧
      keptNovaServices.Lossless [{ portProfiles := some [webProfile] }] :=
  lossless_records [{ mac := some "02:00:00:00:00:01" }, {}]
    [{ id := some "route_1" }] { wireless := some {} } {} [webProfile, {}]
    [{ portProfiles := some [webProfile] }] (by decide)

end Noc
