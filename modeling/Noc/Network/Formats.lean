import Noc.Foundation.Memory
import Noc.Network.Dhcp.Replacing
import Noc.Network.LanWan

/-!
# Commands as formats

`app_uci.c` prints each of its commands as a format.  A command of a setter takes no
argument exactly when the fields in it, taken by themselves, take none.
-/

namespace Noc
namespace Network

open Foundation
open Foundation.Exec
open Utils

/-- A text that prints as it is; a NULL field prints as `(null)`. -/
def FieldPlain (field : Option String) : Prop :=
  takesNoArgument (formatted field) = true

def LanPlain (lan : Lan) : Prop :=
  ¬ (lan.bridgeApMode && appStrstr lan.proto (some "dhcp")) = true ->
    FieldPlain lan.ipaddr ∧ FieldPlain lan.netmask ∧ FieldPlain lan.proto

def WanPlain (wan : Wan) : Prop :=
  FieldPlain wan.proto ∧ FieldPlain wan.ipaddr

structure DnsPlain (dns : Dns) : Prop where
  hostnames : forall customHostname, customHostname ∈ dns.customHostname ->
    FieldPlain customHostname.domain ∧ FieldPlain customHostname.ip
  additional : forall server, server ∈ dns.additionalDns -> FieldPlain server

def ClientPlain (client : DhcpInfo) : Prop :=
  FieldPlain client.hostName ∧ FieldPlain client.mac ∧ FieldPlain client.ip

/-- The last of four pieces of the start address. -/
def PoolPlain (dhcp4 : Dhcp4) : Prop :=
  match (dhcp4.startIp.map (strtok '.')).getD [] with
  | [_, _, _, start] => takesNoArgument start = true
  | _ => True

structure Dhcp4Plain (dhcp4 : Dhcp4) : Prop where
  relay : dhcp4.relayEnabled = true ->
    FieldPlain dhcp4.relayLocalAddress ∧ FieldPlain dhcp4.relayServerAddress
  clients : forall client, client ∈ dhcp4.staticDhcp4Clients -> ClientPlain client
  pool : PoolPlain dhcp4

/-- For a configuration without forwarding servers. -/
structure DnsDhcpPlain (dnsDhcp : DnsDhcp) : Prop where
  dns : forall dns, dnsDhcp.dns = some dns -> DnsPlain dns
  dhcp4 : forall dhcp4, dnsDhcp.dhcp4 = some dhcp4 -> Dhcp4Plain dhcp4

/-!
## Commands that are handed on
-/

/-- The commands a program hands to UCI. -/
def handed {α : Type} (program : Daemon α) (w : World) : List UciCommand :=
  (final program w).uci.drop w.uci.length

section

variable {α : Type} {w after : World} {commands : List UciCommand}

theorem handed_of_run {program : Daemon α} {value : α}
    (h : program w = .ok (value, after)) (huci : after.uci = w.uci ++ commands) :
    handed program w = commands := by
  unfold handed
  rw [final_of_run h, huci, List.drop_left]

theorem handed_lanSet (h : Healthy w.files) (lan : Lan) :
    handed (lanSet lan) w = lanCommands lan ++ [.commit "network"] :=
  handed_of_run (run_lanSet h lan) (by
    simp [lanApplied, World.runUci, World.storeJson])

theorem handed_wanSet (h : Healthy w.files) (wan : Wan) :
    handed (wanSet wan) w =
      [.set "network.wan.proto" wan.proto, .set "network.wan.ipaddr" wan.ipaddr,
       .commit "network"] :=
  handed_of_run (run_wanSet h wan) (by
    simp [wanApplied, World.runUci, World.storeJson])

/-- What is handed on when nothing is forwarded. -/
def dnsDhcpCommands (dns : Dns) (servers : List String) (dhcp4 : Dhcp4) :
    List UciCommand :=
  .delete "dhcp.@dnsmasq[0].address" ::
    dns.customHostname.map customHostnameCommand ++
  .delete "dhcp.lan.dhcp_option" ::
    (optionValues servers).map (.addList "dhcp.lan.dhcp_option") ++
  [.delete "dhcp.@dnsmasq[0].server"] ++ relayCommands dhcp4 ++
  .deleteAll "dhcp.@host[-1]" ::
    dhcp4.staticDhcp4Clients.flatMap staticClientCommands ++
  poolCommands dhcp4 ++ [.commit "dhcp"]

theorem run_dnsDhcpSet_of_releasable {config : DnsDhcp} {dns : Dns} {dhcp4 : Dhcp4}
    {servers : List String} (h : Healthy w.files)
    (hreadable : (config.dns.all fun dns => dns.forwardingDns.readable) = true)
    (hdns : config.dns = some dns) (hdhcp4 : config.dhcp4 = some dhcp4)
    (hservers : dns.additionalDns = servers.map some) (hreleasable : Releasable config) :
    dnsDhcpSet (some config) w =
      .ok (.success, (w.storeJson .dhcpSetting (cvtDnsDhcpToJson config)).runUci
        (dnsDhcpCommands dns servers dhcp4)) := by
  have hforwarding : forall w', forwardingDnsCommands dns w' = .ok ([], w') := by
    intro w'
    unfold forwardingDnsCommands
    rw [entries_of_count (hreleasable dns hdns)]
    split <;> rfl
  apply run_of_wp
  unfold dnsDhcpSet dnsSet dhcp4Set field appUci
  rw [wp_bind, wp_dnsDhcpSave (run_writeJson h _ _)]
  refine ⟨hreadable, ?_⟩
  rw [wp_bind, wp_deref]
  refine ⟨config, rfl, ?_⟩
  rw [wp_bind, hdns, wp_bind, wp_deref]
  refine ⟨dns, rfl, ?_⟩
  rw [wp_bind, wp_modify, wp_bind, hservers,
    wp_of_run (run_additionalDnsCommands _ _), wp_bind, wp_modify, wp_bind,
    wp_of_run (hforwarding _), wp_bind, wp_modify, wp_pure, if_neg (by simp), wp_bind,
    hdhcp4, wp_bind, wp_deref]
  refine ⟨dhcp4, rfl, ?_⟩
  rw [wp_bind, wp_modify, wp_pure, if_neg (by simp), wp_bind, wp_modify, wp_pure]
  simp [World.runUci, dnsDhcpCommands]

end

/-!
## Lines
-/

def PlainLines (commands : List UciCommand) : Prop :=
  forall command, command ∈ commands -> takesNoArgument command.line = true

section

variable {args : String} {value : Option String} {commands : List UciCommand}

theorem takesNoArgument_behind {before text : String} (h : '%' ∉ before.toList) :
    takesNoArgument (before ++ text) = takesNoArgument text := by
  unfold takesNoArgument
  rw [String.toList_append, formatFrom_append_of_notMem h]

theorem takesNoArgument_set (h : '%' ∉ args.toList) :
    takesNoArgument (UciCommand.set args value).line = true <-> FieldPlain value := by
  have hbefore : '%' ∉ ("uci set " ++ args ++ "=").toList := by
    simp only [String.toList_append, List.mem_append, not_or]
    exact ⟨⟨by decide, h⟩, by decide⟩
  unfold UciCommand.line FieldPlain
  rw [takesNoArgument_behind hbefore]

theorem takesNoArgument_addList (h : '%' ∉ args.toList) :
    takesNoArgument (UciCommand.addList args value).line = true <-> FieldPlain value := by
  have hbefore : '%' ∉ ("uci add_list " ++ args ++ "=").toList := by
    simp only [String.toList_append, List.mem_append, not_or]
    exact ⟨⟨by decide, h⟩, by decide⟩
  unfold UciCommand.line FieldPlain
  rw [takesNoArgument_behind hbefore]

theorem plainLines_cons {command : UciCommand} :
    PlainLines (command :: commands) <->
      takesNoArgument command.line = true ∧ PlainLines commands :=
  List.forall_mem_cons

theorem plainLines_append {others : List UciCommand} :
    PlainLines (commands ++ others) <-> PlainLines commands ∧ PlainLines others :=
  List.forall_mem_append

theorem plainLines_nil : PlainLines [] :=
  List.forall_mem_nil _

theorem plainLines_commit : PlainLines [.commit "network"] := by
  unfold PlainLines
  decide

/-!
## LAN and WAN
-/

theorem plainLines_lan_iff (lan : Lan) :
    PlainLines (lanCommands lan ++ [.commit "network"]) <-> LanPlain lan := by
  have hdhcp : PlainLines [.set "network.lan.proto" (some "dhcp")] := by
    unfold PlainLines
    decide
  rw [plainLines_append, and_iff_left plainLines_commit]
  unfold lanCommands LanPlain
  split
  · rename_i hbridge
    exact iff_of_true hdhcp fun h => absurd hbridge h
  · rename_i hbridge
    rw [plainLines_cons, plainLines_cons, plainLines_cons, and_iff_left plainLines_nil,
      takesNoArgument_set (by decide), takesNoArgument_set (by decide),
      takesNoArgument_set (by decide), forall_prop_of_true hbridge]

theorem plainLines_wan_iff (wan : Wan) :
    PlainLines [.set "network.wan.proto" wan.proto,
      .set "network.wan.ipaddr" wan.ipaddr, .commit "network"] <-> WanPlain wan := by
  rw [plainLines_cons, plainLines_cons, and_iff_left plainLines_commit,
    takesNoArgument_set (by decide), takesNoArgument_set (by decide)]
  rfl

/-!
## DNS
-/

/-- Around a separator neither text completes a sign of the other. -/
theorem takesNoArgument_separated {c : Char} (hsign : c ≠ '%') (hm : c ≠ 'm')
    (first second : String) :
    takesNoArgument (first ++ String.singleton c ++ second) =
      (takesNoArgument first && takesNoArgument second) := by
  have hseparate : Separate (c :: second.toList) := by
    unfold Separate
    simp [hsign, hm]
  have hc : (c == '%') = false := beq_false_of_ne hsign
  unfold takesNoArgument
  rw [String.append_assoc, String.toList_append, String.toList_append,
    String.toList_singleton, List.singleton_append, formatFrom_append hseparate]
  congr 1
  show formatFrom (c == '%') second.toList = _
  rw [hc]

theorem plain_hostname_iff (customHostname : CustomHostname) :
    takesNoArgument (customHostnameCommand customHostname).line = true <->
      FieldPlain customHostname.domain ∧ FieldPlain customHostname.ip := by
  have hslash := takesNoArgument_separated (show '/' ≠ '%' by decide) (by decide)
    (formatted customHostname.domain) (formatted customHostname.ip)
  unfold customHostnameCommand
  rw [takesNoArgument_addList (by decide), FieldPlain, formatted_some,
    String.append_assoc, String.append_assoc, takesNoArgument_behind (by decide),
    ← String.append_assoc]
  exact (congrArg (· = true) hslash).to_iff.trans (Bool.and_eq_true _ _).to_iff

/-- Each server stands behind its comma. -/
theorem takesNoArgument_servers (servers : List String) :
    takesNoArgument (String.join (servers.map fun server => "," ++ server)) =
      servers.all takesNoArgument := by
  induction servers with
  | nil => decide
  | cons server rest ih =>
      have hseparate : Separate
          (String.join (rest.map fun server => "," ++ server)).toList := by
        unfold Separate
        cases rest <;> simp [String.join_cons]
      rw [List.map_cons, String.join_cons, List.all_cons, ← ih, String.append_assoc,
        takesNoArgument_behind (by decide)]
      unfold takesNoArgument
      rw [String.toList_append, formatFrom_append hseparate]

theorem plainLines_option_iff (servers : List String) :
    PlainLines ((optionValues servers).map (.addList "dhcp.lan.dhcp_option")) <->
      forall server, server ∈ servers -> takesNoArgument server = true := by
  unfold optionValues
  split
  · rename_i hempty
    rw [hempty]
    exact iff_of_true plainLines_nil (List.forall_mem_nil _)
  · rw [List.map_cons, List.map_nil, plainLines_cons, and_iff_left plainLines_nil,
      takesNoArgument_addList (by decide), FieldPlain, formatted_some,
      takesNoArgument_behind (by decide), takesNoArgument_servers, List.all_eq_true]

/-!
## DHCP
-/

theorem plainLines_relay_iff (dhcp4 : Dhcp4) :
    PlainLines (relayCommands dhcp4) <->
      (dhcp4.relayEnabled = true ->
        FieldPlain dhcp4.relayLocalAddress ∧ FieldPlain dhcp4.relayServerAddress) := by
  have hconstant : takesNoArgument (UciCommand.delete "dhcp.@relay[0]").line = true ∧
      takesNoArgument (UciCommand.add "dhcp" "relay").line = true ∧
      takesNoArgument
        (UciCommand.set "dhcp.@relay[-1].interface" (some "lan")).line = true := by
    decide
  unfold relayCommands
  split
  · rename_i hrelay
    rw [forall_prop_of_true hrelay, plainLines_cons, and_iff_right hconstant.1,
      plainLines_cons, and_iff_right hconstant.2.1, plainLines_cons,
      and_iff_right hconstant.2.2, plainLines_cons, plainLines_cons,
      and_iff_left plainLines_nil, takesNoArgument_set (by decide),
      takesNoArgument_set (by decide)]
  · rename_i hrelay
    exact iff_of_true plainLines_nil fun h => absurd h hrelay

theorem plainLines_client_iff (client : DhcpInfo) :
    PlainLines (staticClientCommands client) <-> ClientPlain client := by
  have hadd : takesNoArgument (UciCommand.add "dhcp" "host").line = true := by decide
  have hdns : PlainLines [.set "dhcp.@host[-1].dns" (some "1")] := by
    unfold PlainLines
    decide
  unfold staticClientCommands ClientPlain
  rw [plainLines_cons, and_iff_right hadd, plainLines_cons, plainLines_cons,
    plainLines_cons, and_iff_left hdns, takesNoArgument_set (by decide),
    takesNoArgument_set (by decide), takesNoArgument_set (by decide)]

/-- The limit is a number. -/
theorem plainLines_pool_iff (dhcp4 : Dhcp4) :
    PlainLines (poolCommands dhcp4) <-> PoolPlain dhcp4 := by
  unfold poolCommands PoolPlain
  rcases (dhcp4.startIp.map (strtok '.')).getD [] with
    _ | ⟨_, _ | ⟨_, _ | ⟨_, _ | ⟨start, _ | ⟨_, _⟩⟩⟩⟩⟩
  case cons.cons.cons.cons.nil =>
    dsimp only
    rw [plainLines_cons, plainLines_cons, and_iff_left plainLines_nil,
      takesNoArgument_set (by decide), takesNoArgument_set (by decide)]
    exact and_iff_left (takesNoArgument_int _)
  all_goals exact iff_of_true plainLines_nil trivial

/-- A configuration whose additional servers are all there. -/
theorem plainLines_dnsDhcp_iff {dns : Dns} {dhcp4 : Dhcp4} {servers : List String}
    (hservers : dns.additionalDns = servers.map some) :
    PlainLines (dnsDhcpCommands dns servers dhcp4) <->
      DnsPlain dns ∧ Dhcp4Plain dhcp4 := by
  have hconstant :
      takesNoArgument (UciCommand.delete "dhcp.@dnsmasq[0].address").line = true ∧
      takesNoArgument (UciCommand.delete "dhcp.lan.dhcp_option").line = true ∧
      takesNoArgument (UciCommand.delete "dhcp.@dnsmasq[0].server").line = true ∧
      takesNoArgument (UciCommand.deleteAll "dhcp.@host[-1]").line = true ∧
      takesNoArgument (UciCommand.commit "dhcp").line = true := by
    decide
  have hhostnames : PlainLines (dns.customHostname.map customHostnameCommand) <->
      forall customHostname, customHostname ∈ dns.customHostname ->
        FieldPlain customHostname.domain ∧ FieldPlain customHostname.ip := by
    unfold PlainLines
    simp only [List.forall_mem_map, plain_hostname_iff]
  have hadditional : (forall server, server ∈ servers -> takesNoArgument server = true) <->
      forall server, server ∈ dns.additionalDns -> FieldPlain server := by
    rw [hservers, List.forall_mem_map]
    rfl
  have hclients : PlainLines (dhcp4.staticDhcp4Clients.flatMap staticClientCommands) <->
      forall client, client ∈ dhcp4.staticDhcp4Clients -> ClientPlain client := by
    simp only [← plainLines_client_iff]
    unfold PlainLines
    simp only [List.forall_mem_flatMap]
  unfold dnsDhcpCommands
  simp only [List.cons_append, List.append_assoc, plainLines_cons, plainLines_append,
    hconstant, plainLines_nil, true_and, and_true, hhostnames, plainLines_option_iff,
    hadditional, plainLines_relay_iff, hclients, plainLines_pool_iff]
  constructor
  · rintro ⟨hhostname, hserver, hrelay, hclient, hpool⟩
    exact ⟨⟨hhostname, hserver⟩, ⟨hrelay, hclient, hpool⟩⟩
  · rintro ⟨hdns, hdhcp4⟩
    exact ⟨hdns.hostnames, hdns.additional, hdhcp4.relay, hdhcp4.clients, hdhcp4.pool⟩

end

end Network
end Noc
