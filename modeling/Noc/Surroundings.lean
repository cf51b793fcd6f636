import Noc.Api.ErrorCode
import Noc.Mesh.Device

/-!
# What the daemon finds around it

The answers of everything the daemon asks while it handles one request: the
mesh daemon, the local network, the other devices, the host and the error
tables.
-/

namespace Noc

open Api
open Mesh

structure Surroundings where
  /-- `ezm_deamon_is_running` does not return -1. -/
  deamonIsRunning : Bool
  /-- Whether the mesh daemon comes up once its services are restarted. -/
  deamonComesUp : Bool
  /-- The first answer of `emt_topology`. -/
  topology : List DeviceInfo
  /-- The answers the polling timer gets before the timeout. -/
  polled : List (List DeviceInfo)
  /-- `mdns_query_device_list`, NULL when no socket opens. -/
  available : Option (List DeviceInfo)
  /-- Whether a request reaches the device at an address with an `ezm_id`. -/
  reaches : Option String -> Option String -> Bool
  /-- The port and the secret that come with the credentials of a device. -/
  credentials : Option String -> Option String -> Int32 × Option String
  uuid : Nat -> String
  hubId : Option String
  ezmId : Option String
  /-- The version the daemon was built with. -/
  ezmVersion : String
  wanIp : String
  broadcastRequestName : String
  /-- What a read finds where a name has been freed. -/
  freedName : String
  /-- The message the error tables hold for a code. -/
  message : ErrorCode -> Option String

/-- Nothing but the device itself: the daemon is up and finds nobody. -/
def Surroundings.alone : Surroundings where
  deamonIsRunning := true
  deamonComesUp := true
  topology := []
  polled := []
  available := some []
  reaches := fun _ _ => true
  credentials := fun _ _ => (8883, none)
  uuid := toString
  hubId := none
  ezmId := none
  ezmVersion := "1.0"
  wanIp := "192.168.1.2"
  broadcastRequestName := "broadcast"
  freedName := ""
  message := fun _ => none

end Noc
