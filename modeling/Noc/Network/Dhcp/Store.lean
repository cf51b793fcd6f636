import Noc.Network.Dhcp.Struct
import Noc.World

/-!
# The DNS and DHCP store

Saving a configuration to its setting file and getting it back, from
`core/network/dhcp/dhcp.c`.
-/

namespace Noc
namespace Network

open Foundation
open Foundation.Exec
open Foundation.Json
open Utils

/-- Printing a configuration follows its pointer and the server arrays. -/
def encodeDnsDhcp (dnsDhcp : Option DnsDhcp) : Daemon Json := do
  let config <- field dnsDhcp
  if config.dns.all fun dns => dns.forwardingDns.readable then
    return cvtDnsDhcpToJson config
  else fail Fault.nullField

def dnsDhcpSaveToSettingFile (dnsDhcp : Option DnsDhcp) : Daemon Unit := do
  let json <- encodeDnsDhcp dnsDhcp
  let _ <- writeJson json .dhcpSetting
  return ()

def dnsDhcpGetFromSettingFile : Daemon DnsDhcp := do
  let json <- readJson .dhcpSetting
  return cvtJsonToDnsDhcp json

/-!
## What survives a save

A configuration comes back unchanged when it has a host name, both flags are
off and no server is NULL.
-/

/-- A configuration with both records and its server arrays intact. -/
def configuration (dns : Dns) (servers : List (Option String))
    (dhcp4 : Dhcp4) : DnsDhcp :=
  { dns := some { dns with forwardingDns := .servers servers }
    dhcp4 := some dhcp4 }

structure Survives (dns : Dns) (servers : List (Option String))
    (dhcp4 : Dhcp4) : Prop where
  hostname : dns.customHostname ≠ []
  additional : forall server, server ∈ dns.additionalDns -> server ≠ none
  forwarding : forall server, server ∈ servers -> server ≠ none
  forwardingOff : dns.forwardingDnsEnabled = false
  relayOff : dhcp4.relayEnabled = false

section

variable (dns : Dns) (servers : List (Option String)) (dhcp4 : Dhcp4)

/-- What the file gives back: without a host name no DNS record at all, and
the flags always off. -/
theorem cvtJsonToDnsDhcp_configuration :
    cvtJsonToDnsDhcp
        (some (cvtDnsDhcpToJson (configuration dns servers dhcp4))) =
      { dns :=
          if dns.customHostname = [] then none
          else
            some
              { customHostname := dns.customHostname
                additionalDns := stringArray (createStringArray dns.additionalDns)
                forwardingDns :=
                  .servers (stringArray (createStringArray servers))
                forwardingDnsEnabled := false }
        dhcp4 := some { dhcp4 with relayEnabled := false } } := by
  have hdns := cvtJsonToDns_cvtDnsToJson
    { dns with forwardingDns := .servers servers }
  have hdhcp4 := cvtJsonToDhcp4_cvtDhcp4ToJson dhcp4
  simp [cvtJsonToDnsDhcp, cvtDnsDhcpToJson, configuration, hdns, hdhcp4,
    ServerArray.toJson]

theorem cvtJsonToDnsDhcp_configuration_iff :
    cvtJsonToDnsDhcp
        (some (cvtDnsDhcpToJson (configuration dns servers dhcp4))) =
      configuration dns servers dhcp4 <-> Survives dns servers dhcp4 := by
  rw [cvtJsonToDnsDhcp_configuration]
  constructor
  · intro h
    have hdhcp4 := congrArg DnsDhcp.dhcp4 h
    have hdns := congrArg DnsDhcp.dns h
    have hrelay : { dhcp4 with relayEnabled := false } = dhcp4 :=
      Option.some_inj.mp hdhcp4
    change (if dns.customHostname = [] then none else _) = some _ at hdns
    split at hdns
    · cases hdns
    · rename_i hhostname
      have hsame := Option.some_inj.mp hdns
      refine ⟨hhostname, ?_, ?_, ?_, ?_⟩
      · exact (stringArray_createStringArray_iff _).mp
          (congrArg Dns.additionalDns hsame)
      · apply (stringArray_createStringArray_iff _).mp
        exact ServerArray.servers.inj (congrArg Dns.forwardingDns hsame)
      · exact (congrArg Dns.forwardingDnsEnabled hsame).symm
      · exact (congrArg Dhcp4.relayEnabled hrelay).symm
  · intro h
    have hadditional :=
      (stringArray_createStringArray_iff _).mpr h.additional
    have hforwarding :=
      (stringArray_createStringArray_iff _).mpr h.forwarding
    have hrelay : { dhcp4 with relayEnabled := false } = dhcp4 := by
      rw [← h.relayOff]
    rw [if_neg h.hostname, hadditional, hforwarding, hrelay, ← h.forwardingOff]
    rfl

end

/-- Saving a configuration and getting it back yields an equal one exactly when
it survives. -/
theorem dnsDhcpGet_after_save_iff {w : World} (h : Healthy w.files) (dns : Dns)
    (servers : List (Option String)) (dhcp4 : Dhcp4) :
    wp (do
        dnsDhcpSaveToSettingFile (some (configuration dns servers dhcp4))
        dnsDhcpGetFromSettingFile)
      (fun read _ => read = configuration dns servers dhcp4) w <->
      Survives dns servers dhcp4 := by
  rw [← cvtJsonToDnsDhcp_configuration_iff]
  have hreadable : (configuration dns servers dhcp4).dns.all
      (fun dns => dns.forwardingDns.readable) = true := rfl
  simp only [dnsDhcpSaveToSettingFile, encodeDnsDhcp, dnsDhcpGetFromSettingFile,
    field, wp_bind, wp_deref, Option.some_inj, exists_eq_left', hreadable,
    if_true, wp_pure]
  rw [wp_writeJson h, wp_readJson (healthy_storeJson h _ _) rfl]
  simp

def lanConfiguration : DnsDhcp :=
  configuration
    { customHostname := [{ name := some "nas", ip := some "192.168.1.5" }]
      additionalDns := [some "9.9.9.9"] }
    [some "1.1.1.1"]
    { startIp := some "192.168.1.100", pools := 50 }

/-- A configuration with a host name, and nothing enabled, comes back. -/
theorem dnsDhcpGet_after_save_lan :
    wp (do
        dnsDhcpSaveToSettingFile (some lanConfiguration)
        dnsDhcpGetFromSettingFile)
      (fun read _ => read = lanConfiguration) World.installed :=
  (dnsDhcpGet_after_save_iff healthy_installed _ _ _).mpr
    { hostname := by decide
      additional := by decide
      forwarding := by decide
      forwardingOff := rfl
      relayOff := rfl }

/-- Without a host name the DNS record is gone, and an enabled relay is off. -/
theorem not_dnsDhcpGet_after_save :
    ¬ forall (w : World) (dns : Dns) (servers : List (Option String))
      (dhcp4 : Dhcp4), Healthy w.files ->
      wp (do
          dnsDhcpSaveToSettingFile (some (configuration dns servers dhcp4))
          dnsDhcpGetFromSettingFile)
        (fun read _ => read = configuration dns servers dhcp4) w := by
  intro hclaim
  have hread := hclaim World.installed { customHostname := [] } [some "1.1.1.1"]
    { relayEnabled := true } healthy_installed
  rcases wp_iff.mp hread with ⟨read, w', hrun, hsame⟩
  cases hrun
  have hdns := congrArg DnsDhcp.dns hsame
  revert hdns
  decide

end Network
end Noc
