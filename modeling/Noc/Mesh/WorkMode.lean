import Noc.Mesh.Setting
import Noc.Mesh.Topology
import Noc.Surroundings

/-!
# The work mode

The mesh setting file of `core/mesh/setting/mesh_setting.c`, the mode it names,
and the device's own record, which carries the mode as its role.
-/

namespace Noc
namespace Mesh

open Foundation
open Foundation.Exec
open Utils

/-!
## The setting file
-/

def readMeshSetting : Daemon MeshSetting := do
  let json <- readJson .meshSetting
  return cvtJsonToMeshSetting json

/-- The result of `write_data` is not looked at. -/
def writeMeshSetting (setting : MeshSetting) : Daemon Unit := do
  match cvtMeshSettingToJson (some setting) with
  | none => return ()
  | some json =>
      let _ <- writeJson json .meshSetting
      return ()

/-- Releasing a setting follows its wireless record to the interface. -/
def meshSettingFree (setting : Option MeshSetting) : Daemon Unit :=
  match setting.bind MeshSetting.wireless with
  | none => return ()
  | some wireless => do
      let _ <- field wireless.wifiIface
      return ()

/-!
## The mode
-/

def workModeText : WorkMode -> String
  | .standalone => "standalone"
  | .agent => "agent"
  | .controller => "controller"

def recognisedMode (text : String) : Option WorkMode :=
  if text = "standalone" then some .standalone
  else if text = "agent" then some .agent
  else if text = "controller" then some .controller
  else none

@[simp] theorem recognisedMode_workModeText (mode : WorkMode) :
    recognisedMode (workModeText mode) = some mode := by
  cases mode <;> rfl

/-- `none` is the result -1.  `strcmp` follows the mode, and only a recognised
one has the setting released. -/
def getWorkMode : Daemon (Option WorkMode) := do
  let setting <- readMeshSetting
  let text <- field setting.workMode
  match recognisedMode text with
  | none => return none
  | some mode =>
      meshSettingFree (some setting)
      return some mode

def getWorkModeStr : Daemon (Option String) := do
  let setting <- readMeshSetting
  return setting.workMode

/-!
## The device itself
-/

/-- The first line of the interface's address file. -/
def getInterfaceMac : Daemon String := do
  let lines <- readLines .wanAddress
  let lines <- field lines
  field lines.head?

def getCurrentDeviceInfo (env : Surroundings) : Daemon DeviceInfo := do
  let ezmName <- getInterfaceMac
  let role <- getWorkModeStr
  let mac <- getInterfaceMac
  return { hubId := env.hubId
           ezmId := env.ezmId
           ezmVersion := some env.ezmVersion
           ezmName := some ezmName
           role := role
           mac := some mac
           ip := some env.wanIp }

/-!
## The wireless interface
-/

def changeWifiIfaceCommands (ssid key : String) : List UciCommand :=
  [.set "repacd.MAPConfig.FronthaulSSID" (some ("'" ++ ssid ++ "'")),
   .set "repacd.MAPConfig.FronthaulKey" (some ("'" ++ key ++ "'")),
   .set "repacd.MAPConfig.FirstConfigRequired" (some "'1'"),
   .commit "repacd"]

def changeWifiIface (wifiIface : Option WifiIface) : Daemon Unit := do
  let iface <- field wifiIface
  match iface.ssid, iface.key with
  | some ssid, some key => appUci (changeWifiIfaceCommands ssid key)
  | _, _ => return ()

/-!
## Results on a healthy file system
-/

def storedSetting (w : World) : MeshSetting :=
  cvtJsonToMeshSetting (w.json .meshSetting)

def storeSetting (setting : MeshSetting) (w : World) : World :=
  match cvtMeshSettingToJson (some setting) with
  | none => w
  | some json => w.storeJson .meshSetting json

@[simp] theorem storedSetting_storeSetting (setting : MeshSetting)
    (w : World) : storedSetting (storeSetting setting w) = setting := by
  have hround := cvtJsonToMeshSetting_cvtMeshSettingToJson setting
  unfold storedSetting storeSetting
  cases hjson : cvtMeshSettingToJson (some setting) with
  | none => cases hjson
  | some json =>
      rw [hjson] at hround
      rw [World.json_storeJson_self]
      exact hround

/-- The wireless record, where there is one, holds an interface. -/
def MeshSetting.HoldsIface (setting : MeshSetting) : Prop :=
  forall wireless, setting.wireless = some wireless -> wireless.wifiIface ≠ none

section

variable {w : World}

theorem healthy_storeSetting (h : Healthy w.files) (setting : MeshSetting) :
    Healthy (storeSetting setting w).files := by
  unfold storeSetting
  cases cvtMeshSettingToJson (some setting) with
  | none => exact h
  | some json => exact h.store _ _

@[simp] theorem published_storeSetting (setting : MeshSetting) (w : World) :
    (storeSetting setting w).published = w.published := by
  unfold storeSetting
  cases cvtMeshSettingToJson (some setting) <;> rfl

theorem run_readMeshSetting (h : Healthy w.files) :
    readMeshSetting w = .ok (storedSetting w, w) := by
  apply run_of_wp
  unfold readMeshSetting
  rw [wp_bind, wp_readJson h rfl]
  exact ⟨rfl, rfl⟩

theorem run_writeMeshSetting (h : Healthy w.files) (setting : MeshSetting) :
    writeMeshSetting setting w = .ok ((), storeSetting setting w) := by
  apply run_of_wp
  unfold writeMeshSetting storeSetting
  cases cvtMeshSettingToJson (some setting) with
  | none => exact ⟨rfl, rfl⟩
  | some json =>
      show wp (writeJson json .meshSetting >>= _) _ w
      rw [wp_bind, wp_writeJson h]
      exact ⟨rfl, rfl⟩

theorem wp_meshSettingFree (setting : Option MeshSetting)
    (post : Unit -> World -> Prop) :
    wp (meshSettingFree setting) post w <->
      (forall record, setting = some record -> record.HoldsIface) ∧
        post () w := by
  unfold meshSettingFree MeshSetting.HoldsIface field
  cases setting with
  | none => simp
  | some record =>
      cases hwireless : record.wireless with
      | none => simp [hwireless]
      | some wireless =>
          simp only [Option.bind_some, hwireless, wp_bind, wp_deref, wp_pure]
          cases hiface : wireless.wifiIface <;> simp [hwireless, hiface]

/-- The mode a setting names, NULL apart. -/
def MeshSetting.mode (setting : MeshSetting) : Option WorkMode :=
  setting.workMode.bind recognisedMode

/-- What follows the reading of the setting. -/
theorem wp_getWorkMode_of_run {setting : MeshSetting} {w' : World}
    (hrun : readMeshSetting w = .ok (setting, w'))
    (post : Option WorkMode -> World -> Prop) :
    wp getWorkMode post w <->
      setting.workMode ≠ none ∧ (setting.mode ≠ none -> setting.HoldsIface) ∧
        post setting.mode w' := by
  unfold getWorkMode MeshSetting.mode field
  rw [wp_bind, wp_of_run hrun, wp_bind, wp_deref]
  cases setting.workMode with
  | none => simp
  | some text =>
      simp only [Option.some_inj, exists_eq_left', Option.bind_some]
      cases recognisedMode text with
      | none => simp
      | some mode =>
          show wp (meshSettingFree (some setting) >>= _) post w' <-> _
          rw [wp_bind, wp_meshSettingFree]
          simp

theorem wp_getWorkMode (h : Healthy w.files)
    (post : Option WorkMode -> World -> Prop) :
    wp getWorkMode post w <->
      (storedSetting w).workMode ≠ none ∧
        ((storedSetting w).mode ≠ none -> (storedSetting w).HoldsIface) ∧
        post (storedSetting w).mode w :=
  wp_getWorkMode_of_run (run_readMeshSetting h) post

theorem returns_changeWifiIface (wifiIface : Option WifiIface) :
    wp (changeWifiIface wifiIface) (fun _ _ => True) w <->
      wifiIface ≠ none := by
  unfold changeWifiIface field
  rw [wp_bind, wp_deref]
  cases wifiIface with
  | none => simp
  | some iface =>
      cases hssid : iface.ssid with
      | none => simp [hssid]
      | some ssid => cases hkey : iface.key <;> simp [hssid, hkey, appUci]

theorem wp_getInterfaceMac (h : Healthy w.files)
    (post : String -> World -> Prop) :
    wp getInterfaceMac post w <->
      exists mac, (w.lines .wanAddress).bind List.head? = some mac ∧
        post mac w := by
  unfold getInterfaceMac field
  rw [wp_bind, wp_readLines h rfl, wp_bind, wp_deref]
  cases w.lines .wanAddress <;> simp

/-- The interface has an address to read. -/
def HasAddress (w : World) : Prop :=
  (w.lines .wanAddress).bind List.head? ≠ none

theorem returns_getCurrentDeviceInfo (env : Surroundings)
    (h : Healthy w.files) :
    wp (getCurrentDeviceInfo env) (fun _ _ => True) w <-> HasAddress w := by
  unfold getCurrentDeviceInfo getWorkModeStr HasAddress
  simp only [wp_bind, wp_getInterfaceMac h, wp_of_run (run_readMeshSetting h),
    wp_pure]
  rw [Option.ne_none_iff_exists']
  simp

end

/-!
## What the readers leave alone
-/

section

variable {rel : World -> World -> Prop} {touched : List DaemonFile}

theorem respects_readMeshSetting [KeptByReads rel] :
    Respects rel readMeshSetting :=
  respects_bind (respects_readJson rfl) fun _ => respects_pure _

theorem respects_writeMeshSetting [KeptByHelpers rel touched]
    (hsetting : .meshSetting ∈ touched) (setting : MeshSetting) :
    Respects rel (writeMeshSetting setting) := by
  unfold writeMeshSetting
  cases cvtMeshSettingToJson (some setting) with
  | none => exact respects_pure _
  | some json =>
      exact respects_bind (respects_writeJson hsetting json) fun _ =>
        respects_pure _

theorem respects_meshSettingFree [IsPreorder World rel]
    (setting : Option MeshSetting) :
    Respects rel (meshSettingFree setting) := by
  unfold meshSettingFree
  cases setting.bind MeshSetting.wireless with
  | none => exact respects_pure ()
  | some wireless =>
      exact respects_bind (respects_deref _ _) fun _ => respects_pure ()

theorem respects_getInterfaceMac [KeptByReads rel] :
    Respects rel getInterfaceMac :=
  respects_bind (respects_readLines rfl) fun _ =>
    respects_bind (respects_deref _ _) fun _ => respects_deref _ _

theorem respects_getCurrentDeviceInfo [KeptByReads rel] (env : Surroundings) :
    Respects rel (getCurrentDeviceInfo env) := by
  refine respects_bind respects_getInterfaceMac ?_
  intro ezmName
  apply respects_bind
  · exact respects_bind respects_readMeshSetting fun _ => respects_pure _
  · intro role
    exact respects_bind respects_getInterfaceMac fun _ => respects_pure _

theorem respects_setDeviceListToFile [KeptByHelpers rel touched]
    (hdevices : .meshDevices ∈ touched) (devices : List DeviceInfo) :
    Respects rel (setDeviceListToFile devices) := by
  apply respects_bind
  · exact respects_bind (respects_readJson rfl) fun _ => respects_pure _
  · intro current
    exact respects_bind (respects_writeJson hdevices _) fun _ =>
      respects_pure _

theorem respects_changeWifiIface [KeptByUci rel]
    (wifiIface : Option WifiIface) : Respects rel (changeWifiIface wifiIface) := by
  refine respects_bind (respects_deref _ _) ?_
  rintro ⟨ssid, key⟩
  cases ssid with
  | none => exact respects_pure _
  | some ssid =>
      cases key with
      | none => exact respects_pure _
      | some key => exact respects_appUci _

end

end Mesh
end Noc
