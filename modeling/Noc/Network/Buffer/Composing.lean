import Noc.Foundation.Output
import Noc.Network.CommandLines
import Noc.Network.Iptables.Store

/-!
# Texts in command buffers

The setters compose their commands in arrays of 200 bytes, with `sprintf` and
`strcat`.  Here each setter is followed as far as what it writes into them: every
content of a buffer, in order.  What the setter reads from a file, and what
`write_data` returns to it, are arguments.  A deletion that is repeated until UCI
reports an error is written once.
-/

namespace Noc
namespace Network
namespace Buffer

open Api
open Foundation
open Foundation.Output
open Utils

abbrev Composing (α : Type) := Output String α

def sprintf (text : String) : Composing String := do
  emit text
  return text

def strcat (dest src : String) : Composing String :=
  sprintf (dest ++ src)

def appUci (commands : List UciCommand) : Composing Unit :=
  each (fun command => emit command.line) commands

/-- What saving a setting returns for the value of `write_data`. -/
def saved (ret : Int32) : ErrorCode :=
  if ret = -1 then .internalServer else .success

/-!
## Routes
-/

def execlIpRoute (commands : List IpRouteCommand) : Composing Unit :=
  each (fun command => emit command.line) commands

def routeCreate (creates : List Route) (ret : Int32) : Composing ErrorCode := do
  execlIpRoute (creates.map fun route => .add route.triple)
  return saved ret

def routeLoop (commands : Route -> List Route -> List IpRouteCommand)
    (edit : Route -> List Route -> List Route) :
    List Route -> List Route -> Bool -> Composing Bool
  | [], _, foundId => return foundId
  | request :: rest, setting, foundId => do
      execlIpRoute (commands request setting)
      routeLoop commands edit rest (edit request setting)
        (foundId || setting.any (matchesId request))

def routeUpdate (updates setting : List Route) (ret : Int32) :
    Composing ErrorCode := do
  let foundId <- routeLoop updateCommands updatedRoutes updates setting false
  return if foundId then saved ret else .idMismatched

def routeDelete (deletes setting : List Route) (ret : Int32) :
    Composing ErrorCode := do
  let foundId <- routeLoop deleteCommands remainingRoutes deletes setting false
  if saved ret ≠ .success then return saved ret
  else return if foundId then .success else .idMismatched

/-!
## Firewall
-/

/-- A field that is there and not empty is appended behind its flag. -/
def strcatOptional (flag : String) (field : Option String) (cmd : String) :
    Composing String :=
  match field with
  | some value =>
      if value = "" then return cmd
      else do
        let cmd <- strcat cmd (" " ++ flag ++ " ")
        strcat cmd value
  | none => return cmd

def openPort (protocol portRange : String) (iptables : Iptable) :
    Composing Unit := do
  let cmd <- sprintf ("iptables -A INPUT -p " ++ protocol ++ " --dport " ++ portRange)
  let cmd <- strcatOptional "-s" iptables.ipMask cmd
  let cmd <- strcatOptional "-i" iptables.interface cmd
  let _ <- strcat cmd " -j ACCEPT"

def iptablesOpenPortProfiles : List Iptable -> Composing Unit
  | [] => return ()
  | iptables :: rest =>
      if iptables.enable then
        match iptables.protocol, iptables.portRange with
        | some protocol, some portRange => do
            openPort protocol portRange iptables
            iptablesOpenPortProfiles rest
        | _, _ => return ()
      else iptablesOpenPortProfiles rest

/-- The command is completed in a second buffer. -/
def iptablesDnatDmzProfilesSet (iptables : Iptable) : Composing Unit :=
  if iptables.enable then do
    let cmd <- sprintf ("iptables -t nat -A PREROUTING  -i " ++ wanInterface)
    let cmd <- strcatOptional "-s" iptables.ipMask cmd
    let _ <- sprintf (cmd ++ " -j DNAT --to-destination " ++ formatted iptables.dnatIp)
  else return ()

/-- What the three setting files hold when the firewall is rebuilt. -/
structure FirewallFiles where
  dmz : Iptable
  forwarding : List Iptable
  nova : List IptableNovaService

def openNovaService (service : IptableNovaService) : Composing Unit := do
  let profiles <- require service.portProfiles
  iptablesOpenPortProfiles profiles

/-- The commands before and after are constants that need no buffer. -/
def iptablesRefresh (files : FirewallFiles) : Composing ErrorCode := do
  iptablesDnatDmzProfilesSet files.dmz
  iptablesOpenPortProfiles files.forwarding
  each openNovaService files.nova
  return .success

/-- A refused save ends the setter. -/
def refreshAfter (save : ErrorCode) (files : FirewallFiles) : Composing ErrorCode :=
  if save ≠ .success then return save else iptablesRefresh files

def iptableDnatDmzUpdate (ret : Int32) (files : FirewallFiles) : Composing ErrorCode :=
  refreshAfter (saved ret) files

def saveForwarding (ret : Int32) (files : FirewallFiles) : Composing ErrorCode :=
  refreshAfter (if ret ≠ 0 then .internalServer else .success) files

def iptablesDnatForwardingCreate (ret : Int32) (files : FirewallFiles) :
    Composing ErrorCode :=
  saveForwarding ret files

def editForwarding (edit : List Iptable -> Iptable -> List Iptable)
    (requests setting : List Iptable) (ret : Int32) (files : FirewallFiles) :
    Composing ErrorCode := do
  let err <- saveForwarding ret files
  if err ≠ .success then return err
  else return if findsProfile edit requests setting then .success else .idMismatched

def iptablesDnatForwardingUpdate : List Iptable -> List Iptable -> Int32 ->
    FirewallFiles -> Composing ErrorCode :=
  editForwarding updateProfile

def iptablesDnatForwardingDelete : List Iptable -> List Iptable -> Int32 ->
    FirewallFiles -> Composing ErrorCode :=
  editForwarding deleteProfile

/-- A refused write keeps the mutex, and the refresh waits for it when it reads its
first file, with the constant commands behind it: nothing is composed or returned. -/
def iptablesRefreshLocked : Composing ErrorCode :=
  require none

/-- Saving prints every service, and a written file is reported as an error. -/
def iptableNovaServiceSet (services : List IptableNovaService) (ret : Int32) :
    Composing ErrorCode := do
  let _ <- require (cvtIptableNovaServiceListToJson services)
  if ret ≠ -1 then return .internalServer else iptablesRefreshLocked

/-!
## DNS and DHCP
-/

def addHostname (customHostname : CustomHostname) : Composing Unit := do
  let cmd <- sprintf
    ("/" ++ formatted customHostname.domain ++ "/" ++ formatted customHostname.ip)
  appUci [.addList "dhcp.@dnsmasq[0].address" (some cmd)]

def strcatServers (cmd : String) : List (Option String) -> Composing String
  | [] => return cmd
  | server :: rest => do
      let cmd <- strcat cmd ","
      let server <- require server
      let cmd <- strcat cmd server
      strcatServers cmd rest

/-- What is appended for the servers before the first NULL. -/
def serversText : List (Option String) -> String
  | some server :: rest => "," ++ server ++ serversText rest
  | _ => ""

def dhcpOption (servers : List (Option String)) : Composing String := do
  let cmd <- strcat "" "6"
  strcatServers cmd servers

def addAdditionalDns (servers : List (Option String)) : Composing Unit :=
  if servers = [] then return ()
  else do
    let cmd <- dhcpOption servers
    appUci [.addList "dhcp.lan.dhcp_option" (some cmd)]

def addForwardingDns (dns : Dns) : Composing Unit :=
  if dns.forwardingDnsEnabled then do
    let servers <- require dns.forwardingDns.entries
    appUci (servers.map fun server => .addList "dhcp.@dnsmasq[0].server" server)
  else return ()

def setHostnames (dns : Dns) : Composing Unit := do
  appUci [.delete "dhcp.@dnsmasq[0].address"]
  each addHostname dns.customHostname

def setAdditionalDns (dns : Dns) : Composing Unit := do
  appUci [.delete "dhcp.lan.dhcp_option"]
  addAdditionalDns dns.additionalDns

def setForwardingDns (dns : Dns) : Composing Unit := do
  appUci [.delete "dhcp.@dnsmasq[0].server"]
  addForwardingDns dns

def dnsSet (dns : Option Dns) : Composing ErrorCode := do
  let dns <- require dns
  setHostnames dns
  setAdditionalDns dns
  setForwardingDns dns
  return .success

/-- The limit has a buffer of its own. -/
def setPool (dhcp4 : Dhcp4) : Composing Unit :=
  match (dhcp4.startIp.map (strtok '.')).getD [] with
  | [_, _, _, start] => do
      let limit <- sprintf (toString (atoi start + dhcp4.pools).toInt)
      appUci [.set "dhcp.lan.start" (some start), .set "dhcp.lan.limit" (some limit)]
  | _ => return ()

def setDhcp4 (dhcp4 : Dhcp4) : Composing Unit := do
  appUci (relayCommands dhcp4)
  appUci [.deleteAll "dhcp.@host[-1]"]
  each (fun client => appUci (staticClientCommands client)) dhcp4.staticDhcp4Clients
  setPool dhcp4

def dhcp4Set (dhcp4 : Option Dhcp4) : Composing ErrorCode := do
  let dhcp4 <- require dhcp4
  setDhcp4 dhcp4
  return .success

/-- Printing the configuration for the file stops where it cannot be read. -/
def dnsDhcpSaveToSettingFile (dnsDhcp : DnsDhcp) : Composing Unit :=
  require (if (dnsDhcp.dns.all fun dns => dns.forwardingDns.readable) = true then some ()
    else none)

def dnsDhcpSet (dnsDhcp : DnsDhcp) : Composing ErrorCode := do
  dnsDhcpSaveToSettingFile dnsDhcp
  let err <- dnsSet dnsDhcp.dns
  if err ≠ .success then return err
  else do
    let err <- dhcp4Set dnsDhcp.dhcp4
    if err ≠ .success then return err
    else do
      appUci [.commit "dhcp"]
      return .success

/-!
## LAN and WAN
-/

/-- The settings are committed when they have been saved. -/
def setNetwork (commands : List UciCommand) (ret : Int32) : Composing ErrorCode := do
  appUci commands
  if saved ret ≠ .success then return saved ret
  else do
    appUci [.commit "network"]
    return .success

def lanSet (lan : Lan) : Int32 -> Composing ErrorCode :=
  setNetwork (lanCommands lan)

def wanSet (wan : Wan) : Int32 -> Composing ErrorCode :=
  setNetwork
    [.set "network.wan.proto" wan.proto, .set "network.wan.ipaddr" wan.ipaddr]

/-!
## Calls
-/

/-- A call of a setter, with what it reads and what `write_data` returns to it. -/
inductive Call where
  | routeCreate (creates : List Route) (ret : Int32)
  | routeUpdate (updates setting : List Route) (ret : Int32)
  | routeDelete (deletes setting : List Route) (ret : Int32)
  | dmzUpdate (ret : Int32) (files : FirewallFiles)
  | forwardingCreate (ret : Int32) (files : FirewallFiles)
  | forwardingUpdate (updates setting : List Iptable) (ret : Int32)
      (files : FirewallFiles)
  | forwardingDelete (deletes setting : List Iptable) (ret : Int32)
      (files : FirewallFiles)
  | novaServiceSet (services : List IptableNovaService) (ret : Int32)
  /-- A scan for devices rebuilds the firewall, and so does starting. -/
  | iptablesRefresh (files : FirewallFiles)
  | dnsDhcpSet (dnsDhcp : DnsDhcp)
  | lanSet (lan : Lan) (ret : Int32)
  | wanSet (wan : Wan) (ret : Int32)

def Call.run : Call -> Composing ErrorCode
  | .routeCreate creates ret => Buffer.routeCreate creates ret
  | .routeUpdate updates setting ret => Buffer.routeUpdate updates setting ret
  | .routeDelete deletes setting ret => Buffer.routeDelete deletes setting ret
  | .dmzUpdate ret files => iptableDnatDmzUpdate ret files
  | .forwardingCreate ret files => iptablesDnatForwardingCreate ret files
  | .forwardingUpdate updates setting ret files =>
      iptablesDnatForwardingUpdate updates setting ret files
  | .forwardingDelete deletes setting ret files =>
      iptablesDnatForwardingDelete deletes setting ret files
  | .novaServiceSet services ret => iptableNovaServiceSet services ret
  | .iptablesRefresh files => Buffer.iptablesRefresh files
  | .dnsDhcpSet dnsDhcp => Buffer.dnsDhcpSet dnsDhcp
  | .lanSet lan ret => Buffer.lanSet lan ret
  | .wanSet wan ret => Buffer.wanSet wan ret

end Buffer
end Network
end Noc
