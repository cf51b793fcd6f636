import Noc.Api.MessageHandler
import Noc.Api.Correlation
import Noc.Api.PublishCommand
import Noc.Foundation.JsonText
import Noc.Network.Buffer.Composing
import Noc.Network.Formats

/-!
# What the handlers do with memory

The arrays the handlers write into, the texts they print as formats and the blocks
they release, where their files can be read and written.  Each handler has its name
from the source.  The setters are followed in `Noc.Network.Buffer`, and what
releasing a DNS and DHCP configuration does with its count is part of the handlers
themselves.  Texts of constants that need no argument are left out, and so are blocks
that one step allocates and releases.
-/

namespace Noc
namespace Api
namespace Memory

open Foundation
open Foundation.Exec
open Foundation.Json
open Mesh
open Network
open Utils

/-- A name, the other members of the envelope, a payload that is released as a
whole, and the texts of one record of a request or of a file. -/
inductive Block where
  | requestName
  | answerName
  /-- The name that comes of converting twice. -/
  | downName
  | envelope
  | payload
  | requested (index : Nat)
  | stored (index : Nat)
  deriving DecidableEq, Repr

abbrev Uses : Type := List (MemoryUse Block)

/-!
## Names and answers
-/

/-- The new name is put together in 200 bytes, and the old one is released. -/
def cvtReqNameToResName (reqName : Block) (resName : String) : Uses :=
  [.write 200 resName, .release reqName]

def receive (msgJson : Json) : Uses :=
  cvtReqNameToResName .requestName (answerName msgJson)

def msgRespondFree (name : Block) (payload : List Block) : Uses :=
  (name :: .envelope :: payload).map .release

/-- A handler that does nothing else with memory. -/
def respond (msgJson : Json) : Uses :=
  receive msgJson ++ msgRespondFree .answerName [.payload]

def respondDeamonDown (msgJson : Json) : Uses :=
  receive msgJson ++ cvtReqNameToResName .answerName (downName msgJson) ++
    msgRespondFree .downName [.payload]

/-- Nothing of the kind the handler asks for answers nothing. -/
def applyRecord {α : Type} (msgJson : Json) (record : Option α)
    (apply : α -> Uses) : Uses :=
  match record with
  | none => respond msgJson
  | some value => receive msgJson ++ apply value

/-!
## Settings

What a setter hands to UCI it also prints, as a format.
-/

def composed (call : Buffer.Call) : Uses :=
  call.run.emitted.map (.write 200)

def logged {α : Type} (program : Daemon α) (w : World) : Uses :=
  ((handed program w).map UciCommand.line).map .print

def appUci (commands : List UciCommand) : Uses :=
  (commands.map UciCommand.line).map (.write 200) ++
    (commands.map UciCommand.line).map .print

def lanSet (lan : Lan) (w : World) : Uses :=
  composed (.lanSet lan 0) ++ logged (Network.lanSet lan) w

def wanSet (wan : Wan) (w : World) : Uses :=
  composed (.wanSet wan 0) ++ logged (Network.wanSet wan) w

def dnsDhcpSet (dnsDhcp : DnsDhcp) (w : World) : Uses :=
  composed (.dnsDhcpSet dnsDhcp) ++ logged (Network.dnsDhcpSet (some dnsDhcp)) w

def requestedLan (msgJson : Json) : Option Lan :=
  (payload msgJson .networkLan).bind Data.toLan

def requestedWan (msgJson : Json) : Option Wan :=
  (payload msgJson .networkWan).bind Data.toWan

def requestedDnsDhcp (msgJson : Json) : Option DnsDhcp :=
  (payload msgJson .networkDnsDhcp).bind Data.toDnsDhcp

def createLan (msgJson : Json) (w : World) : Uses :=
  applyRecord msgJson (requestedLan msgJson) fun lan =>
    lanSet lan w ++ msgRespondFree .answerName [.payload]

def createWan (msgJson : Json) (w : World) : Uses :=
  applyRecord msgJson (requestedWan msgJson) fun wan =>
    wanSet wan w ++ msgRespondFree .answerName [.payload]

def createDnsDhcp (msgJson : Json) (w : World) : Uses :=
  applyRecord msgJson (requestedDnsDhcp msgJson) fun dnsDhcp =>
    dnsDhcpSet dnsDhcp w ++ msgRespondFree .answerName [.payload]

/-!
## Records of lists

A list holds copies of its records, which share their texts.  So a record stands in
a list with the block of its texts.
-/

section

variable {α : Type}

def placed (block : Nat -> Block) (records : List α) : List (Block × α) :=
  records.mapIdx fun i record => (block i, record)

/-- A record without a text has nothing to release. -/
def released (holdsText : α -> Bool) (records : List (Block × α)) : List Block :=
  (records.filter fun record => holdsText record.2).map Prod.fst

end

/-!
## Static routes
-/

def requestedRoutes (msgJson : Json) : Option (List Route) :=
  (payload msgJson .networkStaticRoute).bind Data.toRoutesList

def routeTexts (route : Route) : List String :=
  [route.id, route.interface, route.ipMask, route.targetIp, route.name].reduceOption

def holdsRouteText (route : Route) : Bool :=
  routeTexts route != []

def routeListFree (routes : List (Block × Route)) : Uses :=
  (released holdsRouteText routes).map .release

/-- The list of the answer is printed as a format. -/
def createStaticRoute (env : Surroundings) (msgJson : Json) (w : World) : Uses :=
  applyRecord msgJson (requestedRoutes msgJson) fun creates =>
    let created := createdRoutes env.uuid creates
    composed (.routeCreate creates 0) ++
      [.print (cvtRouteListToJson (storedRoutes w ++ created)).text] ++
      msgRespondFree .answerName (released holdsRouteText
        (placed .stored (storedRoutes w) ++ placed .requested created))

/-- The array after the records of a deletion, and as much of it as is counted. -/
def deletedRoutes (deletes : List Route) (setting : List (Block × Route)) :
    List (Block × Route) :=
  let array := deletes.foldl
    (fun array delete => shiftOutFirst (fun route => matchesId delete route.2) array)
    setting
  if deletes.any fun delete => setting.any fun route => matchesId delete route.2 then
    array.take (setting.length - 1)
  else array

def deleteStaticRoute (msgJson : Json) (w : World) : Uses :=
  applyRecord msgJson (requestedRoutes msgJson) fun deletes =>
    composed (.routeDelete deletes (storedRoutes w) 0) ++
      routeListFree (placed .requested deletes) ++
      msgRespondFree .answerName (released holdsRouteText
        (deletedRoutes deletes (placed .stored (storedRoutes w))))

/-- The first route that an update finds makes room for it. -/
def updatedList (updates setting : List (Block × Route)) : List (Block × Route) :=
  updates.foldl
    (fun list update =>
      updateFirst (fun route => matchesId update.2 route.2) (fun _ => update) list)
    setting

def updateStaticRoutes (msgJson : Json) (w : World) : Uses :=
  applyRecord msgJson (requestedRoutes msgJson) fun updates =>
    composed (.routeUpdate updates (storedRoutes w) 0) ++
      routeListFree (placed .requested updates) ++
      msgRespondFree .answerName (released holdsRouteText
        (updatedList (placed .requested updates) (placed .stored (storedRoutes w))))

/-!
## Firewall
-/

/-- What a rebuild of the firewall reads. -/
def firewallFiles (w : World) : Buffer.FirewallFiles where
  dmz := storedDmz w
  forwarding := storedForwarding w
  nova := storedNova w

def requestedForwarding (msgJson : Json) : Option (List Iptable) :=
  (payload msgJson .iptablesDnatProfile).bind Data.toIptableList

def requestedDmz (msgJson : Json) : Option Iptable :=
  (payload msgJson .iptablesDnatDmzProfile).bind Data.toIptable

def requestedNova (msgJson : Json) : Option (List IptableNovaService) :=
  (payload msgJson .iptableNovaServicePortProfile).bind Data.toIptableNovaServiceList

def holdsProfileText (iptables : Iptable) : Bool :=
  [iptables.id, iptables.name, iptables.portRange, iptables.ipMask, iptables.protocol,
    iptables.dnatIp, iptables.dnatPortRange, iptables.interface].reduceOption != []

/-- The answer to a change carries the list that it leaves. -/
def respondForwarding (iptables : List (Block × Iptable)) : Uses :=
  msgRespondFree .answerName (released holdsProfileText iptables)

def createDnatPortForwardingProfile (env : Surroundings) (msgJson : Json)
    (w : World) : Uses :=
  applyRecord msgJson (requestedForwarding msgJson) fun creates =>
    let created := createdProfiles env.uuid creates
    composed (.forwardingCreate 0
        (firewallFiles (storeForwarding (storedForwarding w ++ created) w))) ++
      respondForwarding (placed .stored (storedForwarding w) ++
        placed .requested created)

/-- Every profile that an update finds makes room for it. -/
def updatedProfiles (updates setting : List (Block × Iptable)) :
    List (Block × Iptable) :=
  updates.foldl
    (fun list update => list.map fun iptables =>
      if matchesProfile update.2 iptables.2 then update else iptables)
    setting

def updateDnatPortForwardingProfiles (msgJson : Json) (w : World) : Uses :=
  applyRecord msgJson (requestedForwarding msgJson) fun updates =>
    let updated := updatedProfiles (placed .requested updates)
      (placed .stored (storedForwarding w))
    composed (.forwardingUpdate updates (storedForwarding w) 0
        (firewallFiles (storeForwarding (updated.map Prod.snd) w))) ++
      respondForwarding updated

def remainingProfiles (deletes : List Iptable) (setting : List (Block × Iptable)) :
    List (Block × Iptable) :=
  deletes.foldl
    (fun list delete => list.eraseP fun iptables => matchesProfile delete iptables.2)
    setting

def deleteDnatPortForwardingProfile (msgJson : Json) (w : World) : Uses :=
  applyRecord msgJson (requestedForwarding msgJson) fun deletes =>
    let remaining := remainingProfiles deletes (placed .stored (storedForwarding w))
    composed (.forwardingDelete deletes (storedForwarding w) 0
        (firewallFiles (storeForwarding (remaining.map Prod.snd) w))) ++
      respondForwarding remaining

def createDnatDmz (msgJson : Json) (w : World) : Uses :=
  applyRecord msgJson (requestedDmz msgJson) fun dmz =>
    composed (.dmzUpdate 0 (firewallFiles (storeDmz dmz w))) ++
      msgRespondFree .answerName [.payload]

def createNovaServicesPortProfiles (msgJson : Json) : Uses :=
  applyRecord msgJson (requestedNova msgJson) fun services =>
    composed (.novaServiceSet services 0) ++ msgRespondFree .answerName [.payload]

/-!
## The mesh
-/

def networkInit (w : World) : Uses :=
  dnsDhcpSet (storedDnsDhcp w) w ++ composed (.iptablesRefresh (firewallFiles w)) ++
    lanSet (storedLan w) w ++ wanSet (storedWan w) w

/-- The network's name and its key are quoted in arrays of their own. -/
def runControllerMode (iface : WifiIface) (w : World) : Uses :=
  networkInit w ++ appUci controllerNetworkCommands ++
    [.write 128 ("'" ++ formatted iface.ssid ++ "'"),
     .write 128 ("'" ++ formatted iface.key ++ "'")] ++
    appUci (controllerMeshCommands iface)

def runStandaloneMode (w : World) : Uses :=
  appUci standaloneRepacdCommands ++ networkInit w ++ appUci standaloneNetworkCommands

/-- The interface that the setting of a request carries. -/
def requestedIface (msgJson : Json) : Option WifiIface :=
  ((requestedSetting msgJson).bind MeshSetting.wireless).bind Wireless.wifiIface

def createMesh (msgJson : Json) (w : World) : Uses :=
  if (storedSetting w).mode ≠ some .controller then
    applyRecord msgJson (requestedIface msgJson) fun iface =>
      runControllerMode iface w ++ msgRespondFree .answerName [.payload]
  else respond msgJson

/-- These commands go to the shell without being printed. -/
def changeWifiIface (iface : WifiIface) : Uses :=
  match iface.ssid, iface.key with
  | some ssid, some key =>
      (((changeWifiIfaceCommands ssid key).map UciCommand.line ++
        ["/etc/init.d/repacd restart"])).map (.write 200)
  | _, _ => []

def updateMesh (env : Surroundings) (msgJson : Json) (w : World) : Uses :=
  if env.deamonIsRunning = false then respondDeamonDown msgJson
  else if (storedSetting w).mode ≠ some .controller then respond msgJson
  else
    match requestedSetting msgJson with
    | none => receive msgJson
    | some requested =>
        receive msgJson ++ [.release (.stored 0)] ++
          (if appStrstr (storedSetting w).meshId requested.meshId then
            ((requestedIface msgJson).map changeWifiIface).getD []
          else []) ++
          msgRespondFree .answerName [.payload]

/-- The mode of the stored setting is replaced by a constant, which is released with
its other texts. -/
def deleteMesh (env : Surroundings) (msgJson : Json) (w : World) : Uses :=
  if env.deamonIsRunning = false then respondDeamonDown msgJson
  else if (storedSetting w).mode ≠ some .controller then respond msgJson
  else
    receive msgJson ++ runStandaloneMode w ++
      [.releaseUnallocated, .release (.stored 0)] ++
      msgRespondFree .answerName [.payload]

/-!
## Devices
-/

/-- The request as it goes on to a device that is to join. -/
def activation (msgJson : Json) : Option Json :=
  cvtMsgRequestToJson
    { cvtJsonToMsgRequest (some msgJson) .meshDeviceList with
      name := some activateRequestName } .empty

def authenDir (ezmId : String) : String :=
  "/data/config/ezm/authen/" ++ ezmId

def secretFileName (ezmId : String) : String :=
  "/data/config/ezm/authen/" ++ ezmId ++ "/secret.txt"

/-- The command that goes to the shell for a device. -/
def activationCmd (env : Surroundings) (device : DeviceInfo) (message : Json) :
    String :=
  let credentials := env.credentials device.ip device.ezmId
  Mqtt.publishCmd
    { host := formatted device.ip
      ezmId := formatted device.ezmId
      user := formatted env.ezmId
      message := message
      retain := false }
    message.text credentials.1 (formatted credentials.2)

/-- The paths are composed before the device is asked for credentials, the command
after it. -/
def mqttPublishMessageToExternal (env : Surroundings) (device : DeviceInfo)
    (message : Json) : Uses :=
  let ezmId := formatted device.ezmId
  [.write 1024 (authenDir ezmId), .write 1024 (Mqtt.caFileName ezmId),
    .write 1024 (secretFileName ezmId)] ++
    (if env.reaches device.ip device.ezmId then
      [.write 4096 (activationCmd env device message)]
    else [])

def pairDevices (env : Surroundings) (message : Json) : List DeviceInfo -> Uses
  | [] => []
  | device :: rest =>
      if device.role = some "standalone" then
        mqttPublishMessageToExternal env device message ++
          (if env.reaches device.ip device.ezmId then pairDevices env message rest
          else [])
      else []

def requestPairMeshDevices (env : Surroundings) (msgJson : Json) : Uses :=
  if env.deamonIsRunning = false then respond msgJson
  else
    receive msgJson ++
      pairDevices env ((activation msgJson).getD .null)
        ((requestedDevices msgJson).getD []) ++
      msgRespondFree .answerName [.payload]

def requestDevicesAvailableForPairing (env : Surroundings) (msgJson : Json)
    (w : World) : Uses :=
  if env.deamonIsRunning = false then respond msgJson
  else
    receive msgJson ++ composed (.iptablesRefresh (firewallFiles w)) ++
      msgRespondFree .answerName [.payload]

/-- The devices that are on once the mesh has been asked. -/
def devicesBefore (env : Surroundings) (w : World) : List DeviceInfo :=
  (pollDeviceList env.topology (storedDevices w)).filter fun device =>
    device.status = deviceOn

def findsDevice (env : Surroundings) (deleted : List DeviceInfo) (w : World) : Bool :=
  deleted.any fun device =>
    (pollDeviceList env.topology (storedDevices w)).any (matchesMac device)

/-- The broadcast goes out under a name of the configuration, which is released with
the answer. -/
def deleteMeshDevices (env : Surroundings) (msgJson : Json) (w : World) : Uses :=
  if env.deamonIsRunning = false then respond msgJson
  else
    applyRecord msgJson (requestedDevices msgJson) fun deleted =>
      if findsDevice env deleted w then
        (deleted.map fun device => subTopic device.ezmId).map (.write 100) ++
          (if env.polled.any fun polled =>
              polled.length < (devicesBefore env w).length then
            .releaseUnallocated :: [Block.envelope, .payload].map .release
          else msgRespondFree .answerName [.payload])
      else msgRespondFree .answerName [.payload]

/-!
## Messages
-/

/-- The two handlers of the agents release a constant as the deletion does. -/
def switchAgent (mode : Uses) : Uses :=
  mode ++ [.releaseUnallocated, .release (.stored 0)]

def uses (env : Surroundings) (msgJson : Json) (w : World) : MessageHandler -> Uses
  | .createMesh => createMesh msgJson w
  | .updateMesh => updateMesh env msgJson w
  | .deleteMesh => deleteMesh env msgJson w
  | .requestPairMeshDevices => requestPairMeshDevices env msgJson
  | .requestDevicesAvailableForPairing =>
      requestDevicesAvailableForPairing env msgJson w
  | .deleteMeshDevices => deleteMeshDevices env msgJson w
  | .requestActivateAgentDevice => switchAgent (networkInit w ++ appUci agentCommands)
  | .requestInactivateAgentDevice => switchAgent (runStandaloneMode w)
  | .createLan => createLan msgJson w
  | .createWan => createWan msgJson w
  | .createDnsDhcp => createDnsDhcp msgJson w
  | .createStaticRoute => createStaticRoute env msgJson w
  | .deleteStaticRoute => deleteStaticRoute msgJson w
  | .updateStaticRoutes => updateStaticRoutes msgJson w
  | .updateDnatPortForwardingProfiles => updateDnatPortForwardingProfiles msgJson w
  | .createDnatPortForwardingProfile => createDnatPortForwardingProfile env msgJson w
  | .deleteDnatPortForwardingProfile => deleteDnatPortForwardingProfile msgJson w
  | .createDnatDmz => createDnatDmz msgJson w
  | .createNovaServicesPortProfiles => createNovaServicesPortProfiles msgJson
  | .requestMesh | .requestMeshDevices | .updateMeshDevices | .requestMeshQuality
  | .requestLan | .requestWan | .requestDnsDhcp | .requestDhcp4Leases
  | .requestStaticRoutes | .requestDnatPortForwardingProfiles | .requestDnatDmz
  | .requestNovaServicesPortProfiles => respond msgJson

/-- The name that selects no handler is the one in the message, which is read again
after its conversion. -/
def respondRequestInvalid (msgJson : Json) : Uses :=
  receive msgJson ++ [.read .requestName]

def mqttOnMessageCbHandler (env : Surroundings) (msgJson : Json) (w : World) : Uses :=
  match readString (some msgJson) "name" with
  | none => []
  | some name =>
      match selectedHandler name with
      | some handler => uses env msgJson w handler
      | none => respondRequestInvalid msgJson

end Memory
end Api
end Noc
