import Noc.Foundation.Json

/-!
# Mesh devices

The device record of `core/mesh/topology/device.c` and its codec.
-/

namespace Noc
namespace Mesh

open Foundation
open Foundation.Json

def deviceOff : Int32 := 0
def deviceOn : Int32 := 1
def devicePairing : Int32 := 2
def deviceDeleted : Int32 := 3

/-- `device_info_t`; a field that is `none` is a NULL pointer. -/
structure DeviceInfo where
  hubId : Option String := none
  ezmId : Option String := none
  ezmVersion : Option String := none
  ezmName : Option String := none
  role : Option String := none
  mac : Option String := none
  ip : Option String := none
  parentMac : Option String := none
  channelSelection5g : Option String := none
  channelSelection2g : Option String := none
  status : Int32 := 0
  deriving DecidableEq, Repr

/-!
## Codec
-/

def cvtDeviceInfoToJson (device : DeviceInfo) : Json :=
  mkObject
    [("hub_id", ofString device.hubId),
     ("ezm_id", ofString device.ezmId),
     ("ezm_version", ofString device.ezmVersion),
     ("ezm_name", ofString device.ezmName),
     ("role", ofString device.role),
     ("mac", ofString device.mac),
     ("ip", ofString device.ip),
     ("parent_mac", ofString device.parentMac),
     ("channel_selection",
       some (mkObject
         [("5g", ofString device.channelSelection5g),
          ("2g", ofString device.channelSelection2g)])),
     ("status", ofInt device.status)]

def cvtJsonToDeviceInfo (json : Option Json) : DeviceInfo :=
  let channelSelection := readObject json "channel_selection"
  { hubId := readString json "hub_id"
    ezmId := readString json "ezm_id"
    ezmVersion := readString json "ezm_version"
    ezmName := readString json "ezm_name"
    role := readString json "role"
    mac := readString json "mac"
    ip := readString json "ip"
    parentMac := readString json "parent_mac"
    channelSelection5g := readString channelSelection "5g"
    channelSelection2g := readString channelSelection "2g"
    status := readInt json "status" }

def cvtDeviceListToJson (devices : List DeviceInfo) : Json :=
  encodeList cvtDeviceInfoToJson devices

def cvtJsonToDeviceList (json : Option Json) : List DeviceInfo :=
  decodeList cvtJsonToDeviceInfo json

theorem cvtJsonToDeviceInfo_cvtDeviceInfoToJson (device : DeviceInfo) :
    cvtJsonToDeviceInfo (some (cvtDeviceInfoToJson device)) = device := by
  simp [cvtJsonToDeviceInfo, cvtDeviceInfoToJson, readString, readInt,
    readObject]

@[simp] theorem cvtJsonToDeviceList_cvtDeviceListToJson
    (devices : List DeviceInfo) :
    cvtJsonToDeviceList (some (cvtDeviceListToJson devices)) = devices :=
  decodeList_encodeList fun device _ =>
    cvtJsonToDeviceInfo_cvtDeviceInfoToJson device

/-!
## Copying

`device_info_copy` duplicates every string, so the copy is the record.
-/

def deviceInfoCopy (source : DeviceInfo) : DeviceInfo :=
  { hubId := source.hubId
    ezmId := source.ezmId
    ezmVersion := source.ezmVersion
    ezmName := source.ezmName
    role := source.role
    mac := source.mac
    ip := source.ip
    parentMac := source.parentMac
    channelSelection5g := source.channelSelection5g
    channelSelection2g := source.channelSelection2g
    status := source.status }

@[simp] theorem deviceInfoCopy_eq (source : DeviceInfo) :
    deviceInfoCopy source = source := rfl

end Mesh
end Noc
