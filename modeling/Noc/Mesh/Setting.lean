import Noc.Foundation.Json

/-!
# Mesh setting

The mesh setting record of `core/mesh/setting/mesh_setting.c`, the wireless
records of `core/network/wlan`, and their codecs.
-/

namespace Noc
namespace Mesh

open Foundation
open Foundation.Json

structure WifiIface where
  ssid : Option String := none
  key : Option String := none
  deriving DecidableEq, Repr

structure Wireless where
  wifiIface : Option WifiIface := none
  deriving DecidableEq, Repr

structure RssiThreshhold where
  up : Int32 := 0
  down : Int32 := 0
  deriving DecidableEq, Repr

structure AntennaInstalled where
  up : Bool := false
  down : Bool := false
  deriving DecidableEq, Repr

/-- `mesh_setting_t`; an absent sub-record is a NULL pointer. -/
structure MeshSetting where
  meshId : Option String := none
  meshName : Option String := none
  type : Option String := none
  rssiThreshhold : Option RssiThreshhold := none
  antennaInstalled : Option AntennaInstalled := none
  backhaulChannel : Option String := none
  activeTimeAfterSet : Int32 := 0
  workMode : Option String := none
  weightMesh : Int32 := 0
  meshLinkConnection : Option String := none
  minimumMeshLinkSnr : Int32 := 0
  wireless : Option Wireless := none
  deriving DecidableEq, Repr

/-!
## Encoders

Every encoder here returns NULL on NULL, so an absent sub-record leaves its
member out.
-/

def cvtWifiIfaceToJson (wifiIface : Option WifiIface) : Option Json :=
  wifiIface.map fun iface =>
    mkObject [("ssid", ofString iface.ssid), ("key", ofString iface.key)]

def cvtWirelessToJson (wireless : Option Wireless) : Option Json :=
  wireless.map fun record =>
    mkObject [("wifi_iface", cvtWifiIfaceToJson record.wifiIface)]

def cvtRssiThreshholdToJson (rssi : Option RssiThreshhold) : Option Json :=
  rssi.map fun record =>
    mkObject [("up", ofInt record.up), ("down", ofInt record.down)]

def cvtAntennaInstalledToJson (antenna : Option AntennaInstalled) :
    Option Json :=
  antenna.map fun record =>
    mkObject [("up", ofBool record.up), ("down", ofBool record.down)]

def cvtMeshSettingToJson (setting : Option MeshSetting) : Option Json :=
  setting.map fun record =>
    mkObject
      [("mesh_id", ofString record.meshId),
       ("mesh_name", ofString record.meshName),
       ("type", ofString record.type),
       ("rssi_threshhold", cvtRssiThreshholdToJson record.rssiThreshhold),
       ("antenna_installed",
         cvtAntennaInstalledToJson record.antennaInstalled),
       ("backhaul_channel", ofString record.backhaulChannel),
       ("active_time_after_set", ofInt record.activeTimeAfterSet),
       ("work_mode", ofString record.workMode),
       ("weight_mesh", ofInt record.weightMesh),
       ("mesh_link_connection", ofString record.meshLinkConnection),
       ("minimum_mesh_link_snr", ofInt record.minimumMeshLinkSnr),
       ("wireless", cvtWirelessToJson record.wireless)]

/-!
## Decoders

A sub-record is decoded only from an object; its absence leaves the pointer
NULL.
-/

def cvtJsonToWifiIface (json : Option Json) : WifiIface :=
  { ssid := readString json "ssid"
    key := readString json "key" }

def cvtJsonToWireless (json : Option Json) : Wireless :=
  { wifiIface := (readObject json "wifi_iface").map fun iface =>
      cvtJsonToWifiIface (some iface) }

def cvtJsonToRssiThreshhold (json : Option Json) : RssiThreshhold :=
  { up := readInt json "up"
    down := readInt json "down" }

def cvtJsonToAntennaInstalled (json : Option Json) : AntennaInstalled :=
  { up := readTrue json "up"
    down := readTrue json "down" }

def cvtJsonToMeshSetting (json : Option Json) : MeshSetting :=
  { meshId := readString json "mesh_id"
    meshName := readString json "mesh_name"
    type := readString json "type"
    rssiThreshhold := (readObject json "rssi_threshhold").map fun rssi =>
      cvtJsonToRssiThreshhold (some rssi)
    antennaInstalled := (readObject json "antenna_installed").map fun antenna =>
      cvtJsonToAntennaInstalled (some antenna)
    backhaulChannel := readString json "backhaul_channel"
    activeTimeAfterSet := readInt json "active_time_after_set"
    workMode := readString json "work_mode"
    weightMesh := readInt json "weight_mesh"
    meshLinkConnection := readString json "mesh_link_connection"
    minimumMeshLinkSnr := readInt json "minimum_mesh_link_snr"
    wireless := (readObject json "wireless").map fun wireless =>
      cvtJsonToWireless (some wireless) }

/-!
## Round trips

An optional record survives when its element codec does and its encoding is an
object.
-/

theorem map_objectValue_map {α : Type} {encode : α -> Json}
    {decode : Json -> α} (hobject : forall record,
      objectValue (some (encode record)) = some (encode record))
    (hround : forall record, decode (encode record) = record)
    (value : Option α) :
    (objectValue (value.map encode)).map decode = value := by
  cases value with
  | none => rfl
  | some record =>
      rw [Option.map_some, hobject, Option.map_some, hround]

theorem cvtWifiIfaceToJson_roundTrip (wifiIface : Option WifiIface) :
    (objectValue (cvtWifiIfaceToJson wifiIface)).map
      (fun iface => cvtJsonToWifiIface (some iface)) = wifiIface := by
  apply map_objectValue_map
  · intro record
    rfl
  · intro record
    simp [cvtJsonToWifiIface, readString]

theorem cvtWirelessToJson_roundTrip (wireless : Option Wireless) :
    (objectValue (cvtWirelessToJson wireless)).map
      (fun record => cvtJsonToWireless (some record)) = wireless := by
  apply map_objectValue_map
  · intro record
    rfl
  · intro record
    simp [cvtJsonToWireless, readObject, cvtWifiIfaceToJson_roundTrip]

theorem cvtRssiThreshholdToJson_roundTrip (rssi : Option RssiThreshhold) :
    (objectValue (cvtRssiThreshholdToJson rssi)).map
      (fun record => cvtJsonToRssiThreshhold (some record)) = rssi := by
  apply map_objectValue_map
  · intro record
    rfl
  · intro record
    simp [cvtJsonToRssiThreshhold, readInt]

theorem cvtAntennaInstalledToJson_roundTrip
    (antenna : Option AntennaInstalled) :
    (objectValue (cvtAntennaInstalledToJson antenna)).map
      (fun record => cvtJsonToAntennaInstalled (some record)) = antenna := by
  apply map_objectValue_map
  · intro record
    rfl
  · intro record
    simp [cvtJsonToAntennaInstalled, readTrue]

@[simp] theorem cvtJsonToMeshSetting_cvtMeshSettingToJson
    (setting : MeshSetting) :
    cvtJsonToMeshSetting (cvtMeshSettingToJson (some setting)) = setting := by
  simp [cvtJsonToMeshSetting, cvtMeshSettingToJson, readString, readInt,
    readObject, cvtRssiThreshholdToJson_roundTrip,
    cvtAntennaInstalledToJson_roundTrip, cvtWirelessToJson_roundTrip]

end Mesh
end Noc
