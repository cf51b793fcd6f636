import Noc.Mesh.Staging.Calls
import Noc.Utils.UciPackage

/-!
# Replacing a DNS and DHCP configuration

What the second of two configurations leaves of the first.  Every managed option
is cleared before it is written, except the relay sections: they are touched
only when the relay is on, and then one of them is replaced.
-/

namespace Noc
namespace Network

open Api
open Foundation
open Foundation.Exec
open Mesh
open Utils

/-!
## The managed options
-/

structure ManagedDhcp where
  address : Option UciValue
  server : Option UciValue
  dhcpOption : Option UciValue
  start : Option UciValue
  limit : Option UciValue
  relays : List UciSection
  hosts : List UciSection

/-- Nothing is set. -/
def ManagedDhcp.unset : ManagedDhcp where
  address := none
  server := none
  dhcpOption := none
  start := none
  limit := none
  relays := []
  hosts := []

def optionOf (p : UciPackage) (place : UciPlace) (option : String) : Option UciValue :=
  (p.find place).bind fun options => options option

/-- What the package `dhcp` holds of them. -/
def managedDhcp (p : UciPackage) : ManagedDhcp where
  address := optionOf p (.first "dnsmasq") "address"
  server := optionOf p (.first "dnsmasq") "server"
  dhcpOption := optionOf p (.named "lan") "dhcp_option"
  start := optionOf p (.named "lan") "start"
  limit := optionOf p (.named "lan") "limit"
  relays := p.typed "relay"
  hosts := p.typed "host"

/-- The sections whose options are set are there. -/
structure HasSections (p : UciPackage) : Prop where
  dnsmasq : p.typed "dnsmasq" ≠ []
  lan : p.named "lan" ≠ none

/-!
## What a configuration makes of them
-/

def addressValues (dns : Dns) : List (Option String) :=
  dns.customHostname.map fun customHostname =>
    some ("/" ++ formatted customHostname.domain ++ "/" ++
      formatted customHostname.ip)

def optionValues (servers : List String) : List (Option String) :=
  if servers = [] then []
  else [some ("6" ++ String.join (servers.map fun server => "," ++ server))]

def relaySettings (dhcp4 : Dhcp4) : List (String × Option String) :=
  [("interface", some "lan"),
   ("local_addr", dhcp4.relayLocalAddress),
   ("server_addr", dhcp4.relayServerAddress)]

def clientSettings (client : DhcpInfo) : List (String × Option String) :=
  [("name", client.hostName),
   ("mac", client.mac),
   ("ip", client.ip),
   ("dns", some "1")]

/-- The start of the pool and its limit. -/
def poolSettings (pools : Int32) (start : String) : List (String × Option String) :=
  [("start", some start),
   ("limit", some (toString (atoi start + pools).toInt))]

/-- A configuration as the setters read it: both records, the additional and the
forwarding servers, and the last piece of the start address. -/
structure Readable where
  dns : Dns
  dhcp4 : Dhcp4
  additional : List String
  forwarding : List (Option String)
  start : String

/-- The relays stay as they are when the relay is off; when it is on, the first
one is dropped and one is added. -/
def relaysAfter (dhcp4 : Dhcp4) (relays : List UciSection) : List UciSection :=
  if dhcp4.relayEnabled then
    relays.tail ++ [UciPackage.setOptions (relaySettings dhcp4) .empty]
  else relays

def Readable.applied (c : Readable) (m : ManagedDhcp) : ManagedDhcp where
  address := UciPackage.pushAll none (addressValues c.dns)
  server := UciPackage.pushAll none c.forwarding
  dhcpOption := UciPackage.pushAll none (optionValues c.additional)
  start := UciPackage.setOption (some c.start) m.start
  limit := UciPackage.setOption
    (some (toString (atoi c.start + c.dhcp4.pools).toInt)) m.limit
  relays := relaysAfter c.dhcp4 m.relays
  hosts := c.dhcp4.staticDhcp4Clients.map fun client =>
    UciPackage.setOptions (clientSettings client) .empty

/-!
## The commands
-/

def Readable.dnsCommands (c : Readable) : List UciCommand :=
  (.delete "dhcp.@dnsmasq[0].address" ::
      (addressValues c.dns).map (.addList "dhcp.@dnsmasq[0].address")) ++
    (.delete "dhcp.lan.dhcp_option" ::
      (optionValues c.additional).map (.addList "dhcp.lan.dhcp_option")) ++
    (.delete "dhcp.@dnsmasq[0].server" ::
      c.forwarding.map (.addList "dhcp.@dnsmasq[0].server"))

def Readable.dhcp4Commands (c : Readable) : List UciCommand :=
  relayCommands c.dhcp4 ++
    (.deleteAll "dhcp.@host[-1]" ::
      c.dhcp4.staticDhcp4Clients.flatMap staticClientCommands) ++
    (poolSettings c.dhcp4.pools c.start).map fun setting =>
      .set ("dhcp.lan." ++ setting.1) setting.2

def Readable.commands (c : Readable) : List UciCommand :=
  c.dnsCommands ++ c.dhcp4Commands

section

variable (p : UciPackage)

theorem apply_deleteRelay :
    p.apply (.delete "dhcp.@relay[0]") =
      { p with typed := Function.update p.typed "relay" (p.typed "relay").tail } := by
  have hname : uciName "dhcp.@relay[0]" = some { place := .first "relay" } := by
    decide
  unfold UciPackage.apply
  simp only [hname, Option.bind_some]
  cases hrelays : p.typed "relay" with
  | nil =>
      have hfind : p.find (.first "relay") = none := by
        simp [UciPackage.find, hrelays]
      rw [UciPackage.delete_of_none hfind, Option.getD_none, List.tail_nil, ← hrelays,
        Function.update_eq_self]
  | cons relay rest =>
      have hfind : p.find (.first "relay") = some relay := by
        simp [UciPackage.find, hrelays]
      rw [UciPackage.delete_of_section rfl hfind]
      simp [UciPackage.drop, hrelays]

theorem run_relayCommands (dhcp4 : Dhcp4) :
    p.run (relayCommands dhcp4) =
      { p with
        typed := Function.update p.typed "relay"
          (relaysAfter dhcp4 (p.typed "relay")) } := by
  unfold relayCommands relaysAfter
  split
  · have hnames : forall setting, setting ∈ relaySettings dhcp4 ->
        uciName ("dhcp.@relay[-1]." ++ setting.1) =
          some { place := .last "relay", option := some setting.1 } := by
      unfold relaySettings
      simp only [List.forall_mem_cons]
      exact ⟨by decide, by decide, by decide, List.forall_mem_nil _⟩
    have hadd : (p.apply (.delete "dhcp.@relay[0]")).run
        [.add "dhcp" "relay",
         .set "dhcp.@relay[-1].interface" (some "lan"),
         .set "dhcp.@relay[-1].local_addr" dhcp4.relayLocalAddress,
         .set "dhcp.@relay[-1].server_addr" dhcp4.relayServerAddress] = _ :=
      UciPackage.run_addSection hnames _
    rw [UciPackage.run_cons, hadd, apply_deleteRelay]
    simp
  · rw [Function.update_eq_self]
    rfl

theorem run_hostCommands (clients : List DhcpInfo) :
    p.run (.deleteAll "dhcp.@host[-1]" :: clients.flatMap staticClientCommands) =
      { p with
        typed := Function.update p.typed "host"
          (clients.map fun client =>
            UciPackage.setOptions (clientSettings client) .empty) } := by
  have hname : uciName "dhcp.@host[-1]" = some { place := .last "host" } := by
    decide
  have hclear : p.apply (.deleteAll "dhcp.@host[-1]") =
      { p with typed := Function.update p.typed "host" [] } := by
    simp only [UciPackage.apply, hname, Option.map_some, Option.getD_some]
    exact UciPackage.deleteLoop_last p "host"
  have hclients : forall (clients : List DhcpInfo) (p : UciPackage),
      p.run (clients.flatMap staticClientCommands) =
        { p with
          typed := Function.update p.typed "host"
            (p.typed "host" ++ clients.map fun client =>
              UciPackage.setOptions (clientSettings client) .empty) } := by
    intro clients
    induction clients with
    | nil =>
        intro p
        simp [UciPackage.run]
    | cons client rest ih =>
        intro p
        have hnames : forall setting, setting ∈ clientSettings client ->
            uciName ("dhcp.@host[-1]." ++ setting.1) =
              some { place := .last "host", option := some setting.1 } := by
          unfold clientSettings
          simp only [List.forall_mem_cons]
          exact ⟨by decide, by decide, by decide, by decide, List.forall_mem_nil _⟩
        have hadd : p.run (staticClientCommands client) = _ :=
          UciPackage.run_addSection hnames p
        rw [List.flatMap_cons, UciPackage.run_append, hadd, ih]
        simp
  show (p.apply _).run _ = _
  rw [hclear, hclients]
  simp

/-- The steps of a configuration, one after the other. -/
theorem run_commands (c : Readable) :
    p.run c.commands =
      UciPackage.edit
        (UciPackage.run
          (UciPackage.run
            (((p.edit (fun options => Function.update options "address"
                (UciPackage.pushAll none (addressValues c.dns))) (.first "dnsmasq")).edit
              (fun options => Function.update options "dhcp_option"
                (UciPackage.pushAll none (optionValues c.additional))) (.named "lan")).edit
              (fun options => Function.update options "server"
                (UciPackage.pushAll none c.forwarding)) (.first "dnsmasq"))
            (relayCommands c.dhcp4))
          (.deleteAll "dhcp.@host[-1]" ::
            c.dhcp4.staticDhcp4Clients.flatMap staticClientCommands))
        (UciPackage.setOptions (poolSettings c.dhcp4.pools c.start)) (.named "lan") := by
  have haddress : uciName "dhcp.@dnsmasq[0].address" =
      some { place := .first "dnsmasq", option := some "address" } := by decide
  have hserver : uciName "dhcp.@dnsmasq[0].server" =
      some { place := .first "dnsmasq", option := some "server" } := by decide
  have hoption : uciName "dhcp.lan.dhcp_option" =
      some { place := .named "lan", option := some "dhcp_option" } := by decide
  have hpool : forall setting, setting ∈ poolSettings c.dhcp4.pools c.start ->
      uciName ("dhcp.lan." ++ setting.1) =
        some { place := .named "lan", option := some setting.1 } := by
    unfold poolSettings
    simp only [List.forall_mem_cons]
    exact ⟨by decide, by decide, List.forall_mem_nil _⟩
  unfold Readable.commands Readable.dnsCommands Readable.dhcp4Commands
  rw [UciPackage.run_append, UciPackage.run_append, UciPackage.run_append,
    UciPackage.run_append, UciPackage.run_append,
    UciPackage.run_rewrite haddress, UciPackage.run_rewrite hoption,
    UciPackage.run_rewrite hserver, UciPackage.run_sets hpool]

theorem managedDhcp_run {p : UciPackage} (h : HasSections p) (c : Readable) :
    managedDhcp (p.run c.commands) = c.applied (managedDhcp p) := by
  rcases List.exists_cons_of_ne_nil h.dnsmasq with ⟨dnsmasq, others, hdnsmasq⟩
  rcases Option.ne_none_iff_exists'.mp h.lan with ⟨lan, hlan⟩
  rw [run_commands, run_relayCommands, run_hostCommands]
  simp [managedDhcp, Readable.applied, optionOf, UciPackage.find, UciPackage.edit,
    UciPackage.setOptions, poolSettings, hdnsmasq, hlan]

/-- The sections stay. -/
theorem hasSections_run {p : UciPackage} (h : HasSections p) (c : Readable) :
    HasSections (p.run c.commands) := by
  rcases List.exists_cons_of_ne_nil h.dnsmasq with ⟨dnsmasq, others, hdnsmasq⟩
  rcases Option.ne_none_iff_exists'.mp h.lan with ⟨lan, hlan⟩
  rw [run_commands, run_relayCommands, run_hostCommands]
  constructor
  · simp [UciPackage.edit, hdnsmasq]
  · simp [UciPackage.edit, hlan]

end

/-!
## Applying a configuration
-/

/-- The setters get through the configuration, and its start address is a dotted
quad. -/
structure Settable (config : DnsDhcp) : Prop where
  applicable : Applicable config
  quad : forall dhcp4, config.dhcp4 = some dhcp4 -> exists address a b c d,
    dhcp4.startIp = some address ∧ strtok '.' address = [a, b, c, d]

/-- What the setters read in it. -/
structure Reads (config : DnsDhcp) (c : Readable) : Prop where
  dns : config.dns = some c.dns
  dhcp4 : config.dhcp4 = some c.dhcp4
  readable : c.dns.forwardingDns.readable = true
  additional : c.dns.additionalDns = c.additional.map some
  forwarding : (if c.dns.forwardingDnsEnabled then c.dns.forwardingDns.entries
    else some []) = some c.forwarding
  pool : poolCommands c.dhcp4 =
    (poolSettings c.dhcp4.pools c.start).map fun setting =>
      .set ("dhcp.lan." ++ setting.1) setting.2

theorem exists_map_some {values : List (Option String)}
    (h : forall value, value ∈ values -> value ≠ none) :
    exists texts : List String, values = texts.map some := by
  induction values with
  | nil => exact ⟨[], rfl⟩
  | cons value rest ih =>
      rw [List.forall_mem_cons] at h
      rcases Option.ne_none_iff_exists'.mp h.1 with ⟨text, rfl⟩
      rcases ih h.2 with ⟨texts, rfl⟩
      exact ⟨text :: texts, rfl⟩

theorem exists_reads {config : DnsDhcp} (h : Settable config) :
    exists c, Reads config c := by
  rcases h.applicable.dns with ⟨dns, hdns, hadditional, hforwarding⟩
  rcases Option.ne_none_iff_exists'.mp h.applicable.dhcp4 with ⟨dhcp4, hdhcp4⟩
  rcases h.quad dhcp4 hdhcp4 with ⟨address, a, b, c, d, haddress, hquad⟩
  have hreadable := h.applicable.readable
  rw [hdns, Option.all_some] at hreadable
  rcases exists_map_some hadditional with ⟨servers, hservers⟩
  have hentries : exists forwarding, (if dns.forwardingDnsEnabled then
      dns.forwardingDns.entries else some []) = some forwarding := by
    split
    · rename_i henabled
      exact Option.ne_none_iff_exists'.mp (hforwarding henabled)
    · exact ⟨[], rfl⟩
  rcases hentries with ⟨forwarding, hentries⟩
  refine ⟨⟨dns, dhcp4, servers, forwarding, d⟩, hdns, hdhcp4, hreadable, hservers,
    hentries, ?_⟩
  unfold poolCommands
  rw [haddress, Option.map_some, Option.getD_some, hquad]
  rfl

section

variable {w : World} {config : DnsDhcp} {c : Readable}

theorem run_additionalDnsCommands (servers : List String) (w : World) :
    additionalDnsCommands (servers.map some) w =
      .ok ((optionValues servers).map (.addList "dhcp.lan.dhcp_option"), w) := by
  have hall : (servers.map some).mapM id = some servers := by
    induction servers with
    | nil => rfl
    | cons server rest ih => simp [ih]
  unfold additionalDnsCommands optionValues
  cases servers with
  | nil => rfl
  | cons server rest =>
      rw [if_neg (by simp), if_neg (List.cons_ne_nil _ _), hall]
      rfl

theorem run_forwardingDnsCommands (hreads : Reads config c) (w : World) :
    forwardingDnsCommands c.dns w =
      .ok (c.forwarding.map (.addList "dhcp.@dnsmasq[0].server"), w) := by
  have hforwarding := hreads.forwarding
  unfold forwardingDnsCommands
  split
  · rename_i henabled
    rw [if_pos henabled] at hforwarding
    rw [hforwarding]
    rfl
  · rename_i hdisabled
    rw [if_neg hdisabled] at hforwarding
    rw [← Option.some_inj.mp hforwarding]
    rfl

theorem run_dnsSet (hreads : Reads config c) (w : World) :
    dnsSet config.dns w = .ok (.success, w.runUci c.dnsCommands) := by
  have haddress : c.dns.customHostname.map customHostnameCommand =
      (addressValues c.dns).map (.addList "dhcp.@dnsmasq[0].address") := by
    unfold addressValues
    rw [List.map_map]
    rfl
  apply run_of_wp
  unfold dnsSet field appUci
  rw [hreads.dns, wp_bind, wp_deref]
  refine ⟨c.dns, rfl, ?_⟩
  rw [wp_bind, wp_modify, wp_bind, hreads.additional,
    wp_of_run (run_additionalDnsCommands _ _), wp_bind, wp_modify, wp_bind,
    wp_of_run (run_forwardingDnsCommands hreads _), wp_bind, wp_modify, wp_pure,
    haddress]
  simp [World.runUci, Readable.dnsCommands]

theorem run_dhcp4Set (hreads : Reads config c) (w : World) :
    dhcp4Set config.dhcp4 w = .ok (.success, w.runUci c.dhcp4Commands) := by
  apply run_of_wp
  unfold dhcp4Set field appUci
  rw [hreads.dhcp4, wp_bind, wp_deref]
  refine ⟨c.dhcp4, rfl, ?_⟩
  rw [wp_bind, wp_modify, wp_pure, hreads.pool]
  exact ⟨rfl, rfl⟩

theorem run_dnsDhcpSet (h : Healthy w.files) (hreads : Reads config c) :
    dnsDhcpSet (some config) w =
      .ok (.success,
        (w.storeJson .dhcpSetting (cvtDnsDhcpToJson config)).runUci
          (c.commands ++ [.commit "dhcp"])) := by
  have hreadable : (config.dns.all fun dns => dns.forwardingDns.readable) = true := by
    rw [hreads.dns]
    exact hreads.readable
  apply run_of_wp
  unfold dnsDhcpSet field appUci
  rw [wp_bind, wp_dnsDhcpSave (run_writeJson h _ _)]
  refine ⟨hreadable, ?_⟩
  rw [wp_bind, wp_deref]
  refine ⟨config, rfl, ?_⟩
  rw [wp_bind, wp_of_run (run_dnsSet hreads _), if_neg (by simp), wp_bind,
    wp_of_run (run_dhcp4Set hreads _), if_neg (by simp), wp_bind, wp_modify, wp_pure]
  simp [World.runUci, Readable.commands]

end

/-!
## One configuration after another
-/

/-- The daemon, what the UCI packages held at first and what was staged then. -/
structure Router where
  base : String -> UciPackage
  initial : StagingStore String UciCommand
  world : World

namespace Router

/-- The package `dhcp` with what is staged, and as it is in force. -/
def staged (router : Router) : UciPackage :=
  stagedPackage router.base (uciStore router.initial router.world) "dhcp"

def active (router : Router) : UciPackage :=
  committedPackage router.base (uciStore router.initial router.world) "dhcp"

def after (router : Router) (world : World) : Router :=
  { router with world := world }

end Router

/-- The second configuration leaves on a router what it leaves on a fresh one. -/
def LastWins (router fresh : Router) (config config' : DnsDhcp) : Prop :=
  wp (do
      let _ <- dnsDhcpSet (some config)
      dnsDhcpSet (some config'))
    (fun _ both =>
      wp (dnsDhcpSet (some config'))
        (fun _ alone =>
          managedDhcp (router.after both).active =
            managedDhcp (fresh.after alone).active)
        fresh.world)
    router.world

/-- A router on which files can be accessed and the sections are there. -/
structure Ready (router : Router) : Prop where
  files : Healthy router.world.files
  sections : HasSections router.staged

def relayOn (config : DnsDhcp) : Bool :=
  config.dhcp4.any Dhcp4.relayEnabled

theorem names_addLists {package args : String} (hargs : packageOf args = package)
    (values : List (Option String)) :
    NamesPackage package (.delete args :: values.map (.addList args)) := by
  intro command hmem
  rw [List.mem_cons, List.mem_map] at hmem
  rcases hmem with rfl | ⟨value, _, rfl⟩
  · exact hargs
  · exact hargs

section

variable {router fresh : Router} {config config' : DnsDhcp} {c c' : Readable}

theorem names_commands (hreads : Reads config c) :
    NamesPackage "dhcp" c.commands := by
  have hdns : NamesPackage "dhcp" c.dnsCommands :=
    ((names_addLists packageOf_address _).append
      (names_addLists packageOf_dhcpOption _)).append
      (names_addLists packageOf_server _)
  have hpool := names_poolCommands c.dhcp4
  rw [hreads.pool] at hpool
  exact hdns.append
    (((names_relayCommands _).append (names_hostCommands _)).append hpool)

/-- What a configuration leaves staged and in force. -/
theorem run_dnsDhcpSet_router (hready : Ready router) (hreads : Reads config c) :
    exists world, dnsDhcpSet (some config) router.world = .ok (.success, world) ∧
      Ready (router.after world) ∧
      managedDhcp (router.after world).active =
        c.applied (managedDhcp router.staged) ∧
      managedDhcp (router.after world).staged =
        c.applied (managedDhcp router.staged) := by
  let store := uciStore router.initial router.world
  let world := (router.world.storeJson .dhcpSetting (cvtDnsDhcpToJson config)).runUci
    (c.commands ++ [.commit "dhcp"])
  have hstore : uciStore router.initial world =
      (store.run (c.commands.map UciCommand.op)).apply
        (UciCommand.commit "dhcp").op := by
    show uciStore router.initial (World.runUci _ _) = _
    rw [uciStore_runUci, List.map_append, StagingStore.run_append]
    rfl
  have hrun : stagedPackage router.base (store.run (c.commands.map UciCommand.op))
      "dhcp" = router.staged.run c.commands :=
    stagedPackage_run (names_commands hreads)
  have hactive : (router.after world).active = router.staged.run c.commands := by
    show committedPackage router.base (uciStore router.initial world) "dhcp" = _
    rw [hstore, committedPackage_commit packageOf_dhcp, hrun]
  have hstaged : (router.after world).staged = router.staged.run c.commands := by
    show stagedPackage router.base (uciStore router.initial world) "dhcp" = _
    have hcommit : packageOf (UciCommand.commit "dhcp").args = "dhcp" := packageOf_dhcp
    rw [hstore, stagedPackage_apply hcommit, hrun]
    rfl
  refine ⟨world, run_dnsDhcpSet hready.files hreads, ⟨?_, ?_⟩, ?_, ?_⟩
  · exact healthy_storeJson hready.files _ _
  · rw [hstaged]
    exact hasSections_run hready.sections c
  · rw [hactive]
    exact managedDhcp_run hready.sections c
  · rw [hstaged]
    exact managedDhcp_run hready.sections c

theorem lastWins_iff_applied (hready : Ready router) (hfresh : Ready fresh)
    (hunset : managedDhcp fresh.staged = .unset) (hreads : Reads config c)
    (hreads' : Reads config' c') :
    LastWins router fresh config config' <->
      c'.applied (c.applied (managedDhcp router.staged)) =
        c'.applied .unset := by
  rcases run_dnsDhcpSet_router hready hreads with
    ⟨first, hfirst, hreadyFirst, -, hstagedFirst⟩
  rcases run_dnsDhcpSet_router hreadyFirst hreads' with
    ⟨both, hboth, -, hactiveBoth, -⟩
  rcases run_dnsDhcpSet_router hfresh hreads' with
    ⟨alone, halone, -, hactiveAlone, -⟩
  have hboth' : dnsDhcpSet (some config') first = .ok (.success, both) := hboth
  unfold LastWins
  rw [wp_bind, wp_of_run hfirst, wp_of_run hboth', wp_of_run halone, hactiveAlone,
    hunset, ← hstagedFirst, ← hactiveBoth]
  exact Iff.rfl

theorem relayOn_of_reads (hreads : Reads config c) :
    relayOn config = c.dhcp4.relayEnabled := by
  unfold relayOn
  rw [hreads.dhcp4, Option.any_some]

/-- Only the relays depend on what was there. -/
theorem applied_eq_iff (c : Readable) (m m' : ManagedDhcp) :
    c.applied m = c.applied m' <->
      relaysAfter c.dhcp4 m.relays = relaysAfter c.dhcp4 m'.relays := by
  unfold Readable.applied
  rw [ManagedDhcp.mk.injEq]
  simp [UciPackage.setOption]

theorem relaysAfter_eq_nil_iff (dhcp4 : Dhcp4) (relays : List UciSection) :
    relaysAfter dhcp4 relays = [] <-> dhcp4.relayEnabled = false ∧ relays = [] := by
  unfold relaysAfter
  split
  · rename_i henabled
    simp [henabled]
  · rename_i hdisabled
    simp [hdisabled]

theorem length_relaysAfter_le_one_iff (dhcp4 : Dhcp4) (relays : List UciSection) :
    (relaysAfter dhcp4 relays).length <= 1 <-> relays.length <= 1 := by
  unfold relaysAfter
  split
  · simp
    omega
  · exact Iff.rfl

theorem relaysAfter_eq_iff (dhcp4 dhcp4' : Dhcp4) (relays : List UciSection) :
    relaysAfter dhcp4' (relaysAfter dhcp4 relays) = relaysAfter dhcp4' [] <->
      if dhcp4'.relayEnabled then relays.length <= 1
      else dhcp4.relayEnabled = false ∧ relays = [] := by
  cases henabled : dhcp4'.relayEnabled with
  | true =>
      rw [if_pos rfl, ← length_relaysAfter_le_one_iff dhcp4]
      unfold relaysAfter
      rw [henabled, if_pos rfl, if_pos rfl]
      cases (if dhcp4.relayEnabled then _ else relays : List UciSection) <;> simp
  | false =>
      rw [if_neg Bool.false_ne_true, ← relaysAfter_eq_nil_iff]
      unfold relaysAfter
      rw [henabled, if_neg Bool.false_ne_true, if_neg Bool.false_ne_true]

/-- With its relay on, the second configuration wins on a router with at most one
relay section; with its relay off, where no relay is set and the first one sets
none. -/
theorem lastWins_iff (hready : Ready router) (hfresh : Ready fresh)
    (hunset : managedDhcp fresh.staged = .unset) (h : Settable config)
    (h' : Settable config') :
    LastWins router fresh config config' <->
      if relayOn config' then (managedDhcp router.staged).relays.length <= 1
      else relayOn config = false ∧ (managedDhcp router.staged).relays = [] := by
  rcases exists_reads h with ⟨c, hreads⟩
  rcases exists_reads h' with ⟨c', hreads'⟩
  rw [lastWins_iff_applied hready hfresh hunset hreads hreads', applied_eq_iff,
    relayOn_of_reads hreads, relayOn_of_reads hreads']
  exact relaysAfter_eq_iff c.dhcp4 c'.dhcp4 _

end

/-- A router whose sections hold no option. -/
def blankRouter : Router where
  base _ :=
    { named := fun _ => some .empty
      typed := fun type => if type = "dnsmasq" then [.empty] else [] }
  initial := { committed := fun _ => [], staged := fun _ => [] }
  world := World.installed

theorem ready_blankRouter : Ready blankRouter where
  files := healthy_installed
  sections :=
    { dnsmasq := List.cons_ne_nil _ _
      lan := Option.some_ne_none _ }

theorem unset_blankRouter : managedDhcp blankRouter.staged = .unset := rfl

theorem settable_lanConfiguration : Settable lanConfiguration where
  applicable :=
    { readable := rfl
      dns := ⟨_, rfl, by decide, nofun⟩
      dhcp4 := Option.some_ne_none _ }
  quad := by
    intro dhcp4 hdhcp4
    cases hdhcp4
    exact ⟨_, "192", "168", "1", "100", rfl, by decide⟩

/-- A configuration without a relay replaces itself. -/
theorem lastWins_iff_lan :
    LastWins blankRouter blankRouter lanConfiguration lanConfiguration :=
  (lastWins_iff ready_blankRouter ready_blankRouter unset_blankRouter
    settable_lanConfiguration settable_lanConfiguration).mpr ⟨rfl, rfl⟩

/-- The configuration of the LAN with a relay to another server. -/
def relayConfiguration : DnsDhcp :=
  { lanConfiguration with
    dhcp4 := some
      { startIp := some "192.168.1.100"
        pools := 50
        relayEnabled := true
        relayServerAddress := some "10.0.0.1"
        relayLocalAddress := some "192.168.1.1" } }

theorem settable_relayConfiguration : Settable relayConfiguration where
  applicable :=
    { readable := rfl
      dns := ⟨_, rfl, by decide, nofun⟩
      dhcp4 := Option.some_ne_none _ }
  quad := by
    intro dhcp4 hdhcp4
    cases hdhcp4
    exact ⟨_, "192", "168", "1", "100", rfl, by decide⟩

/-- The relay of the first configuration stays when the second one has none. -/
theorem not_lastWins_of_relay :
    ¬ forall (router fresh : Router) (config config' : DnsDhcp), Ready router ->
      Ready fresh -> managedDhcp fresh.staged = .unset -> Settable config ->
      Settable config' -> LastWins router fresh config config' := by
  intro hclaim
  have hwins := hclaim blankRouter blankRouter relayConfiguration lanConfiguration
    ready_blankRouter ready_blankRouter unset_blankRouter
    settable_relayConfiguration settable_lanConfiguration
  rcases exists_reads settable_relayConfiguration with ⟨c, hreads⟩
  rcases exists_reads settable_lanConfiguration with ⟨c', hreads'⟩
  rw [lastWins_iff_applied ready_blankRouter ready_blankRouter unset_blankRouter
    hreads hreads', applied_eq_iff] at hwins
  have hrelays := (relaysAfter_eq_iff c.dhcp4 c'.dhcp4 _).mp hwins
  rw [← relayOn_of_reads hreads, ← relayOn_of_reads hreads'] at hrelays
  have hoff : relayOn relayConfiguration = false := hrelays.1
  cases hoff

end Network
end Noc
