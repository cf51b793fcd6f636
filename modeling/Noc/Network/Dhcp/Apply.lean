import Noc.Api.ErrorCode
import Noc.Network.Dhcp.Store

/-!
# Applying a DNS and DHCP configuration

The setters of `core/network/dhcp/dhcp.c`, what releasing a configuration
follows, and the leases the DHCP server hands out.
-/

namespace Noc
namespace Network

open Api
open Foundation
open Foundation.Exec
open Utils

/-!
## DNS

A server array whose pointer is overwritten can be walked no further than a
count of zero goes.
-/

def ServerArray.entries : ServerArray -> Option (List (Option String))
  | .servers list => some list
  | .overwritten _ count => if count = 0 then some [] else none

def customHostnameCommand (customHostname : CustomHostname) : UciCommand :=
  .addList "dhcp.@dnsmasq[0].address"
    (some ("/" ++ formatted customHostname.domain ++ "/" ++
      formatted customHostname.ip))

/-- The option is built with `strcat`, which follows every server. -/
def additionalDnsCommands (additionalDns : List (Option String)) :
    Daemon (List UciCommand) :=
  if additionalDns = [] then return []
  else do
    let servers <- field (additionalDns.mapM id)
    return [.addList "dhcp.lan.dhcp_option"
      (some ("6" ++ String.join (servers.map fun server => "," ++ server)))]

def forwardingDnsCommands (dns : Dns) : Daemon (List UciCommand) :=
  if dns.forwardingDnsEnabled then do
    let servers <- field dns.forwardingDns.entries
    return servers.map fun server => .addList "dhcp.@dnsmasq[0].server" server
  else return []

/-- The function ends without a return; its result is read as success. -/
def dnsSet (dns : Option Dns) : Daemon ErrorCode := do
  let dns <- field dns
  appUci (.delete "dhcp.@dnsmasq[0].address" ::
    dns.customHostname.map customHostnameCommand)
  let additional <- additionalDnsCommands dns.additionalDns
  appUci (.delete "dhcp.lan.dhcp_option" :: additional)
  let forwarding <- forwardingDnsCommands dns
  appUci (.delete "dhcp.@dnsmasq[0].server" :: forwarding)
  return .success

/-!
## DHCP
-/

def relayCommands (dhcp4 : Dhcp4) : List UciCommand :=
  if dhcp4.relayEnabled then
    [.delete "dhcp.@relay[0]",
     .add "dhcp" "relay",
     .set "dhcp.@relay[-1].interface" (some "lan"),
     .set "dhcp.@relay[-1].local_addr" dhcp4.relayLocalAddress,
     .set "dhcp.@relay[-1].server_addr" dhcp4.relayServerAddress]
  else []

def staticClientCommands (client : DhcpInfo) : List UciCommand :=
  [.add "dhcp" "host",
   .set "dhcp.@host[-1].name" client.hostName,
   .set "dhcp.@host[-1].mac" client.mac,
   .set "dhcp.@host[-1].ip" client.ip,
   .set "dhcp.@host[-1].dns" (some "1")]

/-- The pool is set when the start address has four pieces.  A NULL address
has none: `strtok` then goes on with the text it finished last. -/
def poolCommands (dhcp4 : Dhcp4) : List UciCommand :=
  match (dhcp4.startIp.map (strtok '.')).getD [] with
  | [_, _, _, start] =>
      [.set "dhcp.lan.start" (some start),
       .set "dhcp.lan.limit" (some (toString (atoi start + dhcp4.pools).toInt))]
  | _ => []

def dhcp4Set (dhcp4 : Option Dhcp4) : Daemon ErrorCode := do
  let dhcp4 <- field dhcp4
  appUci (relayCommands dhcp4 ++
    .deleteAll "dhcp.@host[-1]" ::
    dhcp4.staticDhcp4Clients.flatMap staticClientCommands ++
    poolCommands dhcp4)
  return .success

/-!
## Both
-/

def dnsDhcpSet (dnsDhcp : Option DnsDhcp) : Daemon ErrorCode := do
  dnsDhcpSaveToSettingFile dnsDhcp
  let config <- field dnsDhcp
  let err <- dnsSet config.dns
  if err ≠ .success then return err
  else
    let err <- dhcp4Set config.dhcp4
    if err ≠ .success then return err
    else
      appUci [.commit "dhcp"]
      return .success

/-- Releasing walks both server arrays, whether or not forwarding is on, and then
frees the count of the forwarding servers in place of their array. -/
def dnsDhcpFree (dnsDhcp : Option DnsDhcp) : Daemon Unit :=
  match dnsDhcp.bind DnsDhcp.dns with
  | none => return ()
  | some dns => do
      let _ <- field dns.forwardingDns.entries
      if dns.forwardingDns.count = 0 then return () else fail Fault.badFree

def dnsDhcpReloadFromSettingFile : Daemon Unit := do
  let dnsDhcp <- dnsDhcpGetFromSettingFile
  let _ <- dnsDhcpSet (some dnsDhcp)
  dnsDhcpFree (some dnsDhcp)

/-!
## Leases
-/

/-- A line is a lease when it has four fields and is not the server's own. -/
def leaseOfFields : List String -> Option DhcpInfo
  | timestamp :: mac :: ip :: hostName :: _ =>
      if timestamp = "duid" then none
      else
        some
          { timestamp := atoi timestamp
            mac := some mac
            ip := some ip
            hostName := some hostName }
  | _ => none

/-- The array has an entry for each line, the leases first; the count is one
less than the lines. -/
def leasesOfLines (lines : List String) : List DhcpInfo :=
  let leases := lines.filterMap fun line => leaseOfFields (strtok ' ' line)
  (leases ++ List.replicate (lines.length - leases.length) ({} : DhcpInfo)).take
    (lines.length - 1)

def dhcpLeaseGet : Daemon (ErrorCode × List DhcpInfo) := do
  match <- readLines .dhcpLease with
  | none => return (.success, [])
  | some lines => return (.success, leasesOfLines lines)

/-!
## When a configuration can be applied

Applying follows both records, the additional servers and, where forwarding is
on, the forwarding servers.
-/

structure Applicable (dnsDhcp : DnsDhcp) : Prop where
  readable : (dnsDhcp.dns.all fun dns => dns.forwardingDns.readable) = true
  dns : exists dns, dnsDhcp.dns = some dns ∧
    (forall server, server ∈ dns.additionalDns -> server ≠ none) ∧
    (dns.forwardingDnsEnabled = true -> dns.forwardingDns.entries ≠ none)
  dhcp4 : dnsDhcp.dhcp4 ≠ none

/-- There is no forwarding server. -/
def Releasable (dnsDhcp : DnsDhcp) : Prop :=
  forall dns, dnsDhcp.dns = some dns -> dns.forwardingDns.count = 0

/-- The configuration `cvt_json_to_dns_dhcp` makes of the setting file. -/
def storedDnsDhcp (w : World) : DnsDhcp :=
  cvtJsonToDnsDhcp (w.json .dhcpSetting)

section

variable {w : World}

theorem returns_additionalDnsCommands (additionalDns : List (Option String)) :
    wp (additionalDnsCommands additionalDns) (fun _ _ => True) w <->
      forall server, server ∈ additionalDns -> server ≠ none := by
  unfold additionalDnsCommands field
  by_cases hempty : additionalDns = []
  · simp [hempty]
  · rw [wp_ite, if_neg hempty, wp_bind, wp_deref]
    have hall := Json.mapM_eq_none_iff (id : Option String -> Option String)
      additionalDns
    cases hservers : additionalDns.mapM id with
    | none =>
        rcases hall.mp hservers with ⟨server, hmem, hnull⟩
        constructor
        · rintro ⟨servers, hsome, _⟩
          cases hsome
        · intro h
          exact absurd hnull (h server hmem)
    | some servers =>
        constructor
        · intro _ server hmem hnull
          have hnone := hall.mpr ⟨server, hmem, hnull⟩
          rw [hservers] at hnone
          cases hnone
        · intro _
          exact ⟨servers, rfl, trivial⟩

theorem returns_forwardingDnsCommands (dns : Dns) :
    wp (forwardingDnsCommands dns) (fun _ _ => True) w <->
      (dns.forwardingDnsEnabled = true -> dns.forwardingDns.entries ≠ none) := by
  unfold forwardingDnsCommands field
  rw [wp_ite]
  cases dns.forwardingDnsEnabled with
  | false => simp
  | true =>
      rw [if_pos rfl, wp_bind, wp_deref]
      cases dns.forwardingDns.entries <;> simp

end

section

variable {rel : World -> World -> Prop} {touched : List DaemonFile}

theorem respects_additionalDnsCommands [IsPreorder World rel]
    (additionalDns : List (Option String)) :
    Respects rel (additionalDnsCommands additionalDns) :=
  respects_ite (respects_pure _)
    (respects_bind (respects_deref _ _) fun _ => respects_pure _)

theorem respects_forwardingDnsCommands [IsPreorder World rel] (dns : Dns) :
    Respects rel (forwardingDnsCommands dns) :=
  respects_ite (respects_bind (respects_deref _ _) fun _ => respects_pure _)
    (respects_pure _)

theorem respects_dnsSet [KeptByUci rel] (dns : Option Dns) :
    Respects rel (dnsSet dns) := by
  refine respects_bind (respects_deref _ _) ?_
  intro dns
  refine respects_bind (respects_appUci _) ?_
  intro _
  refine respects_bind (respects_additionalDnsCommands _) ?_
  intro additional
  refine respects_bind (respects_appUci _) ?_
  intro _
  refine respects_bind (respects_forwardingDnsCommands _) ?_
  intro forwarding
  exact respects_bind (respects_appUci _) fun _ => respects_pure _

theorem respects_dhcp4Set [KeptByUci rel] (dhcp4 : Option Dhcp4) :
    Respects rel (dhcp4Set dhcp4) :=
  respects_bind (respects_deref _ _) fun _ =>
    respects_bind (respects_appUci _) fun _ => respects_pure _

theorem respects_encodeDnsDhcp [IsPreorder World rel]
    (dnsDhcp : Option DnsDhcp) :
    Respects rel (encodeDnsDhcp dnsDhcp) :=
  respects_bind (respects_deref _ _) fun _ =>
    respects_ite (respects_pure _) (respects_fail _)

theorem respects_dnsDhcpSet [KeptByHelpers rel touched] [KeptByUci rel]
    (hdhcp : .dhcpSetting ∈ touched) (dnsDhcp : Option DnsDhcp) :
    Respects rel (dnsDhcpSet dnsDhcp) := by
  apply respects_bind
  · exact respects_bind (respects_encodeDnsDhcp _) fun _ =>
      respects_bind (respects_writeJson hdhcp _) fun _ => respects_pure _
  · intro _
    refine respects_bind (respects_deref _ _) ?_
    intro config
    refine respects_bind (respects_dnsSet _) ?_
    intro err
    refine respects_ite (respects_pure _) ?_
    refine respects_bind (respects_dhcp4Set _) ?_
    intro err
    exact respects_ite (respects_pure _)
      (respects_bind (respects_appUci _) fun _ => respects_pure _)

theorem respects_dnsDhcpFree [IsPreorder World rel] (dnsDhcp : Option DnsDhcp) :
    Respects rel (dnsDhcpFree dnsDhcp) := by
  unfold dnsDhcpFree
  cases dnsDhcp.bind DnsDhcp.dns with
  | none => exact respects_pure _
  | some dns =>
      exact respects_bind (respects_deref _ _) fun _ =>
        respects_ite (respects_pure _) (respects_fail _)

theorem respects_dnsDhcpReloadFromSettingFile [KeptByHelpers rel touched]
    [KeptByUci rel] (hdhcp : .dhcpSetting ∈ touched) :
    Respects rel dnsDhcpReloadFromSettingFile := by
  apply respects_bind
  · exact respects_bind (respects_readJson rfl) fun _ => respects_pure _
  · intro dnsDhcp
    exact respects_bind (respects_dnsDhcpSet hdhcp _) fun _ =>
      respects_dnsDhcpFree _

end

/-!
## When the setters return
-/

section

variable {w : World}

theorem returns_dnsSet (dns : Option Dns) :
    wp (dnsSet dns) (fun _ _ => True) w <->
      exists record, dns = some record ∧
        (forall server, server ∈ record.additionalDns -> server ≠ none) ∧
        (record.forwardingDnsEnabled = true ->
          record.forwardingDns.entries ≠ none) := by
  unfold dnsSet field appUci
  rw [wp_bind, wp_deref]
  apply exists_congr
  intro record
  apply and_congr_right
  intro _
  rw [wp_bind, wp_modify]
  have hadditional : Respects (Beside [])
      (additionalDnsCommands record.additionalDns) :=
    respects_additionalDnsCommands _
  apply wp_bind_iff_of_respects hadditional (returns_additionalDnsCommands _)
  intro additional w' _
  rw [wp_bind, wp_modify, wp_bind]
  exact returns_forwardingDnsCommands record

theorem success_of_dnsSet (dns : Option Dns) :
    wlp (dnsSet dns) (fun err _ => err = .success) w := by
  apply wlp_bind_of_next
  intro record w'
  apply wlp_bind_of_next
  intro _ w'
  apply wlp_bind_of_next
  intro additional w'
  apply wlp_bind_of_next
  intro _ w'
  apply wlp_bind_of_next
  intro forwarding w'
  apply wlp_bind_of_next
  intro _ w'
  rfl

/-- Printing a configuration comes before the write. -/
theorem wp_dnsDhcpSave {config : DnsDhcp} {ret : Int32} {after : World}
    (hwrite : writeJson (cvtDnsDhcpToJson config) .dhcpSetting w =
      .ok (ret, after)) (post : Unit -> World -> Prop) :
    wp (dnsDhcpSaveToSettingFile (some config)) post w <->
      (config.dns.all fun dns => dns.forwardingDns.readable) = true ∧
        post () after := by
  unfold dnsDhcpSaveToSettingFile encodeDnsDhcp field
  rw [wp_bind, wp_bind, wp_deref]
  simp only [Option.some_inj, exists_eq_left']
  cases config.dns.all fun dns => dns.forwardingDns.readable with
  | false => simp
  | true =>
      rw [if_pos rfl, wp_pure, wp_bind, wp_of_run hwrite]
      simp

/-- What follows the save depends on the configuration only. -/
theorem returns_afterSave (config : DnsDhcp) (w : World) :
    wp (dnsSet config.dns >>= fun err =>
        if err ≠ .success then pure err
        else dhcp4Set config.dhcp4 >>= fun err =>
          if err ≠ .success then pure err
          else appUci [.commit "dhcp"] >>= fun _ => pure .success)
      (fun _ _ => True) w <->
    (exists record, config.dns = some record ∧
      (forall server, server ∈ record.additionalDns -> server ≠ none) ∧
      (record.forwardingDnsEnabled = true ->
        record.forwardingDns.entries ≠ none)) ∧
      config.dhcp4 ≠ none := by
  apply wp_bind_iff_of_wlp (success_of_dnsSet _) (returns_dnsSet _)
  intro err w' herr
  rw [herr, if_neg (by simp)]
  unfold dhcp4Set field appUci
  cases config.dhcp4 with
  | none => simp
  | some dhcp4 => simp

/-- Whatever the write returns. -/
theorem returns_dnsDhcpSet_of_write {config : DnsDhcp} {ret : Int32} {after : World}
    (hwrite : writeJson (cvtDnsDhcpToJson config) .dhcpSetting w =
      .ok (ret, after)) :
    wp (dnsDhcpSet (some config)) (fun _ _ => True) w <-> Applicable config := by
  unfold dnsDhcpSet
  rw [wp_bind, wp_dnsDhcpSave hwrite]
  constructor
  · intro hset
    rcases (returns_afterSave config after).mp hset.2 with ⟨hdns, hdhcp4⟩
    exact ⟨hset.1, hdns, hdhcp4⟩
  · intro happlicable
    exact ⟨happlicable.readable,
      (returns_afterSave config after).mpr ⟨happlicable.dns, happlicable.dhcp4⟩⟩

theorem returns_dnsDhcpSet (h : Healthy w.files) (dnsDhcp : Option DnsDhcp) :
    wp (dnsDhcpSet dnsDhcp) (fun _ _ => True) w <->
      exists config, dnsDhcp = some config ∧ Applicable config := by
  cases dnsDhcp with
  | none => simp [dnsDhcpSet, dnsDhcpSaveToSettingFile, encodeDnsDhcp, field]
  | some config =>
      rw [returns_dnsDhcpSet_of_write (run_writeJson h _ _)]
      simp

/-- An array that counts nothing can be walked. -/
theorem entries_of_count {servers : ServerArray} (h : servers.count = 0) :
    servers.entries = some [] := by
  cases servers with
  | servers list => exact congrArg some (List.length_eq_zero_iff.mp h)
  | overwritten address count => exact if_pos h

theorem wp_dnsDhcpFree (dnsDhcp : DnsDhcp) (post : Unit -> World -> Prop) :
    wp (dnsDhcpFree (some dnsDhcp)) post w <->
      Releasable dnsDhcp ∧ post () w := by
  unfold dnsDhcpFree Releasable field
  rw [Option.bind_some]
  cases hdns : dnsDhcp.dns with
  | none => simp
  | some dns =>
      show wp (deref Fault.nullField dns.forwardingDns.entries >>= _) post w <-> _
      simp only [Option.some_inj, forall_eq', wp_bind, wp_deref, wp_ite]
      by_cases hcount : dns.forwardingDns.count = 0
      · simp [hcount, entries_of_count hcount]
      · simp [hcount]

theorem returns_dnsDhcpReloadFromSettingFile (h : Healthy w.files) :
    wp dnsDhcpReloadFromSettingFile (fun _ _ => True) w <->
      Applicable (storedDnsDhcp w) ∧ Releasable (storedDnsDhcp w) := by
  unfold dnsDhcpReloadFromSettingFile dnsDhcpGetFromSettingFile
  rw [wp_bind, wp_bind, wp_readJson h rfl, wp_pure]
  have hset : Respects (Beside [.dhcpSetting])
      (dnsDhcpSet (some (storedDnsDhcp w))) :=
    respects_dnsDhcpSet List.mem_cons_self _
  apply wp_bind_iff_of_respects hset
  · rw [returns_dnsDhcpSet h]
    simp only [Option.some_inj, exists_eq_left']
  · intro err w' _
    rw [wp_dnsDhcpFree, and_true]
    rfl

end

end Network
end Noc
