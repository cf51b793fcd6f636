import Noc.Foundation.CString
import Noc.Network.Iptables.Kernel
import Noc.Network.Iptables.Struct

/-!
# Firewall rules

The command lists of `iptables_basic.c`, and the commands that
`iptables_common.c` and `iptables_dnat_dmz.c` compose from the stored profiles.
-/

namespace Noc
namespace Network

open Foundation

def wanInterface : String := "eth0"

/-!
## Fixed command lists
-/

def iptablesDefaultSettingList : List IptablesCommand :=
  [.flush .filter,
   .deleteChains .filter,
   .flush .nat,
   .deleteChains .nat,
   .flush .mangle,
   .deleteChains .mangle,
   .policy .forward .accept,
   .policy .output .accept,
   .policy .input .accept,
   .append .filter .input [("-i", "lo"), ("-j", "ACCEPT")],
   .append .filter .output [("-o", "lo"), ("-j", "ACCEPT")],
   .append .filter .output
     [("-o", wanInterface), ("-p", "tcp"), ("--dport", "67"), ("-j", "DROP")],
   .append .filter .output
     [("-o", wanInterface), ("-p", "udp"), ("--dport", "67"), ("-j", "DROP")],
   .append .filter .input [("-p", "udp"), ("--dport", "67"), ("-j", "ACCEPT")],
   .append .filter .input [("-p", "udp"), ("--dport", "53"), ("-j", "ACCEPT")],
   .append .filter .input
     [("-p", "udp"), ("--dport", "5353"), ("-j", "ACCEPT")],
   .append .filter .input [("-p", "tcp"), ("--dport", "53"), ("-j", "ACCEPT")],
   .append .filter .input
     [("-m", "conntrack"), ("--ctstate", "ESTABLISHED,RELATED"),
      ("-j", "ACCEPT")],
   .append .filter .output
     [("-m", "conntrack"), ("--ctstate", "ESTABLISHED"), ("-j", "ACCEPT")],
   .append .nat .postrouting [("-j", "MASQUERADE")],
   .insert .input 2
     [("-p", "icmp"), ("--icmp-type", "echo-request"), ("-j", "ACCEPT")],
   .append .filter .input [("-p", "icmp"), ("-j", "ACCEPT")]]

def iptablesAllowAllTrafficList : List IptablesCommand :=
  [.flush .filter,
   .deleteChains .filter,
   .flush .nat,
   .deleteChains .nat,
   .flush .mangle,
   .deleteChains .mangle,
   .policy .input .accept,
   .policy .forward .accept,
   .policy .output .accept]

def iptableRestrictBasic : List IptablesCommand :=
  [.policy .input .drop]

/-!
## Composed commands

A match on an address or an interface is added when its field is there and not
empty.
-/

def optionalMatch (flag : String) (field : Option String) : Rule :=
  match field with
  | some value => if value = "" then [] else [(flag, value)]
  | none => []

/-- The loop of `iptables_open_port_profiles`.  An enabled profile without a
protocol or a port range ends it. -/
def iptablesOpenPortProfiles : List Iptable -> List IptablesCommand
  | [] => []
  | iptables :: rest =>
      if iptables.enable then
        match iptables.protocol, iptables.portRange with
        | some protocol, some portRange =>
            .append .filter .input
              ([("-p", protocol), ("--dport", portRange)] ++
                optionalMatch "-s" iptables.ipMask ++
                optionalMatch "-i" iptables.interface ++
                [("-j", "ACCEPT")]) ::
              iptablesOpenPortProfiles rest
        | _, _ => []
      else iptablesOpenPortProfiles rest

def iptablesDnatDmzProfilesSet (iptables : Iptable) : List IptablesCommand :=
  if iptables.enable then
    [.append .nat .prerouting
      ([("-i", wanInterface)] ++ optionalMatch "-s" iptables.ipMask ++
        [("-j", "DNAT"), ("--to-destination", formatted iptables.dnatIp)])]
  else []

/-!
## Rebuilding

What `iptables_refresh` runs for a DMZ profile, a list of forwarding profiles
and the port profiles of the Nova services.
-/

def refreshCommands (dmz : Iptable) (forwarding : List Iptable)
    (nova : List (List Iptable)) : List IptablesCommand :=
  iptablesDefaultSettingList ++ iptablesDnatDmzProfilesSet dmz ++
    iptablesOpenPortProfiles forwarding ++
    (nova.map iptablesOpenPortProfiles).flatten ++ iptableRestrictBasic

namespace Firewall

/-- Nothing but the accepting policies. -/
def accepting : Firewall where
  policy := fun _ => .accept
  rules := fun _ _ => []
  userChains := fun _ => []

theorem run_iptablesAllowAllTrafficList (fw : Firewall) :
    fw.run iptablesAllowAllTrafficList = accepting := by
  apply Firewall.ext
  · funext chain
    cases chain <;> rfl
  · funext table chain
    cases table <;> rfl
  · funext table
    cases table <;> rfl

/-- The default setting starts by erasing whatever was installed. -/
theorem run_iptablesDefaultSettingList (fw : Firewall) :
    fw.run iptablesDefaultSettingList =
      accepting.run (iptablesDefaultSettingList.drop 9) := by
  have herase : fw.run (iptablesDefaultSettingList.take 9) = accepting := by
    apply Firewall.ext
    · funext chain
      cases chain <;> rfl
    · funext table chain
      cases table <;> rfl
    · funext table
      cases table <;> rfl
  rw [← herase, ← run_append, List.take_append_drop]

theorem run_refreshCommands (fw other : Firewall) (dmz : Iptable)
    (forwarding : List Iptable) (nova : List (List Iptable)) :
    fw.run (refreshCommands dmz forwarding nova) =
      other.run (refreshCommands dmz forwarding nova) := by
  unfold refreshCommands
  simp only [run_append, run_iptablesDefaultSettingList]

/-- The last command closes the INPUT chain. -/
theorem policy_input_run_refreshCommands (fw : Firewall) (dmz : Iptable)
    (forwarding : List Iptable) (nova : List (List Iptable)) :
    (fw.run (refreshCommands dmz forwarding nova)).policy .input = .drop := by
  unfold refreshCommands
  rw [run_append]
  rfl

end Firewall
end Network
end Noc
