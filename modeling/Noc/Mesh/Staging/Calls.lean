import Noc.Mesh.Staging.Rules

/-!
# What each call stages

The setters of the LAN, the WAN and DHCP commit what they stage, and so do the
agent and the controller mode.  The standalone mode does not.
-/

namespace Noc
namespace Mesh

open Api
open Config
open Foundation
open Foundation.Exec
open Network
open Utils

/-!
## LAN and WAN
-/

section

variable {w : World}

/-- `write_data` leaves the mutex held when it reports an error. -/
theorem wlp_writeJson_held (tree : Json) (file : DaemonFile) :
    wlp (writeJson tree file) (fun ret w' =>
      ret = -1 -> w'.files.locked = true) w := by
  unfold writeJson onFiles
  rw [wlp_zoom, wlp_iff]
  intro ret fs' hrun
  have hends := ((wp_writeData (Body.json tree) file truncateMode
    (fun ret fs => ret = -1 -> fs.locked = true) w.files).mpr ?_)
  · exact (wp_of_run hrun _).mp hends
  · cases hlocked : w.files.locked with
    | true =>
        rw [writeData_of_locked hlocked] at hrun
        cases hrun
    | false =>
        refine ⟨rfl, ?_⟩
        rw [if_pos (Or.inl rfl)]
        split
        case isTrue => exact fun _ => rfl
        case isFalse => exact fun h => absurd h (by decide)

theorem wlp_save_held (tree : Json) (file : DaemonFile) :
    wlp (writeJson tree file >>= fun ret =>
        pure (if ret = -1 then ErrorCode.internalServer else .success))
      (fun err w' => err = .success ∨ w'.files.locked = true) w := by
  rw [wlp_bind]
  refine wlp_mono ?_ (wlp_writeJson_held tree file)
  intro ret w' hheld
  rw [wlp_pure]
  split
  case isTrue hfailed => exact Or.inr (hheld hfailed)
  case isFalse => exact Or.inl rfl

end

theorem stages_commit {package : String}
    (hpackage : packageOf package = package) :
    Stages [package] [] (appUci [.commit package]) := by
  have hafter : StagingStore.pendingAfter [package]
      ([UciCommand.commit package].map UciCommand.op) = [] := by
    simp [StagingStore.pendingAfter, StagingStore.pendingStep, UciCommand.op,
      hpackage]
  have hcommit : Stages [package] (StagingStore.pendingAfter [package]
      ([UciCommand.commit package].map UciCommand.op))
      (appUci [.commit package]) := stages_appUci _
  rw [hafter] at hcommit
  exact hcommit

theorem packageOf_network : packageOf "network" = "network" :=
  packageOf_ofList _

theorem packageOf_dhcp : packageOf "dhcp" = "dhcp" :=
  packageOf_ofList _

/-- The end both setters share: the record is saved, then the package is
committed. -/
theorem stages_save_commit (tree : Json) {file : DaemonFile}
    (hfile : file ∈ modeFiles) :
    Stages ["network"] []
      ((writeJson tree file >>= fun ret =>
          pure (if ret = -1 then ErrorCode.internalServer else .success)) >>=
        fun err => if err ≠ .success then pure err
          else appUci [.commit "network"] >>= fun _ => pure .success) := by
  apply stages_unless_error
  · exact stages_of_keeps
      (respects_bind (respects_writeJson hfile _) fun _ => respects_pure _)
  · exact fun w => wlp_save_held tree file
  · exact stages_bind (stages_commit packageOf_network) fun _ =>
      stages_of_keeps (respects_pure _)

theorem names_lanCommands (lan : Lan) : NamesPackage "network" (lanCommands lan) := by
  have hipaddr : packageOf "network.lan.ipaddr" = "network" :=
    packageOf_ofList _
  have hnetmask : packageOf "network.lan.netmask" = "network" :=
    packageOf_ofList _
  have hproto : packageOf "network.lan.proto" = "network" :=
    packageOf_ofList _
  unfold lanCommands NamesPackage
  split <;> simp [UciCommand.args, hipaddr, hnetmask, hproto]

theorem stages_lanSet (lan : Lan) : Stages [] [] (lanSet lan) := by
  have hstart : Stages [] ["network"] (appUci (lanCommands lan)) :=
    (stages_appUci_of_names (names_lanCommands lan)).mono
      (List.nil_subset _) (List.Subset.refl _)
  exact stages_bind hstart fun _ => stages_save_commit _ (by decide)

theorem names_wanCommands (wan : Wan) :
    NamesPackage "network"
      [.set "network.wan.proto" wan.proto,
       .set "network.wan.ipaddr" wan.ipaddr] := by
  have hproto : packageOf "network.wan.proto" = "network" :=
    packageOf_ofList _
  have hipaddr : packageOf "network.wan.ipaddr" = "network" :=
    packageOf_ofList _
  simp [NamesPackage, UciCommand.args, hproto, hipaddr]

theorem stages_wanSet (wan : Wan) : Stages [] [] (wanSet wan) := by
  have hstart : Stages [] ["network"] (appUci
      [.set "network.wan.proto" wan.proto,
       .set "network.wan.ipaddr" wan.ipaddr]) :=
    (stages_appUci_of_names (names_wanCommands wan)).mono (List.nil_subset _)
      (List.Subset.refl _)
  exact stages_bind hstart fun _ => stages_save_commit _ (by decide)

/-!
## DNS and DHCP

Everything both setters run is about the package `dhcp`.
-/

theorem packageOf_address : packageOf "dhcp.@dnsmasq[0].address" = "dhcp" :=
  packageOf_ofList _

theorem packageOf_dhcpOption : packageOf "dhcp.lan.dhcp_option" = "dhcp" :=
  packageOf_ofList _

theorem packageOf_server : packageOf "dhcp.@dnsmasq[0].server" = "dhcp" :=
  packageOf_ofList _

theorem wlp_additionalDnsCommands (additionalDns : List (Option String))
    (w : World) :
    wlp (additionalDnsCommands additionalDns)
      (fun commands _ => NamesPackage "dhcp" commands) w := by
  unfold additionalDnsCommands field
  rw [wlp_ite]
  split
  case isTrue => simp [NamesPackage]
  case isFalse =>
    apply wlp_bind_of_next
    intro servers w'
    simp [NamesPackage, UciCommand.args, packageOf_dhcpOption]

theorem wlp_forwardingDnsCommands (dns : Dns) (w : World) :
    wlp (forwardingDnsCommands dns)
      (fun commands _ => NamesPackage "dhcp" commands) w := by
  unfold forwardingDnsCommands field
  rw [wlp_ite]
  split
  case isTrue =>
    apply wlp_bind_of_next
    intro servers w'
    simp [NamesPackage, UciCommand.args, packageOf_server]
  case isFalse => simp [NamesPackage]

theorem NamesPackage.cons {package : String} {command : UciCommand}
    {commands : List UciCommand} (hcommand : packageOf command.args = package)
    (h : NamesPackage package commands) : NamesPackage package (command :: commands) :=
  List.forall_mem_cons.mpr ⟨hcommand, h⟩

theorem stages_dnsSet (dns : Option Dns) :
    Stages ["dhcp"] ["dhcp"] (dnsSet dns) := by
  refine stages_bind (stages_of_keeps (respects_deref _ _)) ?_
  intro dns
  have hnames : NamesPackage "dhcp" (dns.customHostname.map customHostnameCommand) := by
    simp [NamesPackage, customHostnameCommand, UciCommand.args, packageOf_address]
  refine stages_bind (stages_appUci_of_names (hnames.cons packageOf_address)) ?_
  intro _
  refine stages_bind_of_spec (stages_of_keeps (respects_additionalDnsCommands _))
    (wlp_additionalDnsCommands dns.additionalDns) ?_
  intro additional hadditional
  refine stages_bind (stages_appUci_of_names (hadditional.cons packageOf_dhcpOption)) ?_
  intro _
  refine stages_bind_of_spec (stages_of_keeps (respects_forwardingDnsCommands _))
    (wlp_forwardingDnsCommands dns) ?_
  intro forwarding hforwarding
  exact stages_bind (stages_appUci_of_names (hforwarding.cons packageOf_server)) fun _ =>
    stages_of_keeps (respects_pure _)

theorem NamesPackage.append {package : String} {commands later : List UciCommand}
    (h : NamesPackage package commands) (hlater : NamesPackage package later) :
    NamesPackage package (commands ++ later) :=
  List.forall_mem_append.mpr ⟨h, hlater⟩

theorem names_relayCommands (dhcp4 : Dhcp4) :
    NamesPackage "dhcp" (relayCommands dhcp4) := by
  have hrelay : packageOf "dhcp.@relay[0]" = "dhcp" :=
    packageOf_ofList _
  have hinterface : packageOf "dhcp.@relay[-1].interface" = "dhcp" :=
    packageOf_ofList _
  have hlocal : packageOf "dhcp.@relay[-1].local_addr" = "dhcp" :=
    packageOf_ofList _
  have hserver : packageOf "dhcp.@relay[-1].server_addr" = "dhcp" :=
    packageOf_ofList _
  unfold relayCommands
  split
  case isTrue =>
    simp [NamesPackage, UciCommand.args, hrelay, packageOf_dhcp, hinterface, hlocal,
      hserver]
  case isFalse => simp [NamesPackage]

theorem names_staticClients (clients : List DhcpInfo) :
    NamesPackage "dhcp" (clients.flatMap staticClientCommands) := by
  have hname : packageOf "dhcp.@host[-1].name" = "dhcp" :=
    packageOf_ofList _
  have hmac : packageOf "dhcp.@host[-1].mac" = "dhcp" :=
    packageOf_ofList _
  have hip : packageOf "dhcp.@host[-1].ip" = "dhcp" :=
    packageOf_ofList _
  have hdns : packageOf "dhcp.@host[-1].dns" = "dhcp" :=
    packageOf_ofList _
  intro command hmem
  rcases List.mem_flatMap.mp hmem with ⟨client, _, hcommand⟩
  have hclient : NamesPackage "dhcp" (staticClientCommands client) := by
    simp [NamesPackage, staticClientCommands, UciCommand.args, packageOf_dhcp, hname,
      hmac, hip, hdns]
  exact hclient command hcommand

theorem names_hostCommands (clients : List DhcpInfo) :
    NamesPackage "dhcp"
      (.deleteAll "dhcp.@host[-1]" :: clients.flatMap staticClientCommands) := by
  have hhost : packageOf "dhcp.@host[-1]" = "dhcp" :=
    packageOf_ofList _
  exact (names_staticClients clients).cons hhost

theorem names_poolCommands (dhcp4 : Dhcp4) :
    NamesPackage "dhcp" (poolCommands dhcp4) := by
  have hstart : packageOf "dhcp.lan.start" = "dhcp" :=
    packageOf_ofList _
  have hlimit : packageOf "dhcp.lan.limit" = "dhcp" :=
    packageOf_ofList _
  unfold poolCommands
  split
  · simp [NamesPackage, UciCommand.args, hstart, hlimit]
  · simp [NamesPackage]

theorem stages_dhcp4Set (dhcp4 : Option Dhcp4) :
    Stages ["dhcp"] ["dhcp"] (dhcp4Set dhcp4) := by
  refine stages_bind (stages_of_keeps (respects_deref _ _)) ?_
  intro dhcp4
  have hnames : NamesPackage "dhcp" (relayCommands dhcp4 ++
      .deleteAll "dhcp.@host[-1]" ::
      dhcp4.staticDhcp4Clients.flatMap staticClientCommands ++
      poolCommands dhcp4) :=
    ((names_relayCommands dhcp4).append (names_hostCommands _)).append
      (names_poolCommands dhcp4)
  exact stages_bind (stages_appUci_of_names hnames) fun _ =>
    stages_of_keeps (respects_pure _)

/-- Neither setter reports an error. -/
theorem wlp_dnsSet_success (dns : Option Dns) (w : World) :
    wlp (dnsSet dns) (fun err w' =>
      err = .success ∨ w'.files.locked = true) w :=
  wlp_mono (fun _ _ hsuccess => Or.inl hsuccess) (success_of_dnsSet dns)

theorem wlp_dhcp4Set_success (dhcp4 : Option Dhcp4) (w : World) :
    wlp (dhcp4Set dhcp4) (fun err w' =>
      err = .success ∨ w'.files.locked = true) w := by
  apply wlp_bind_of_next
  intro dhcp4 w
  apply wlp_bind_of_next
  intro _ w
  exact Or.inl rfl

theorem stages_dnsDhcpSet (dnsDhcp : Option DnsDhcp) :
    Stages [] [] (dnsDhcpSet dnsDhcp) := by
  have hsave : Respects KeepsUci (dnsDhcpSaveToSettingFile dnsDhcp) :=
    respects_bind (respects_encodeDnsDhcp _) fun _ =>
      respects_bind (respects_writeJson (by decide) _) fun _ => respects_pure _
  refine stages_bind (stages_of_keeps hsave) ?_
  intro _
  refine stages_bind (stages_of_keeps (respects_deref _ _)) ?_
  intro config
  have hdns : Stages [] ["dhcp"] (dnsSet config.dns) :=
    (stages_dnsSet config.dns).mono (List.nil_subset _) (List.Subset.refl _)
  apply stages_unless_error hdns (wlp_dnsSet_success config.dns)
  apply stages_unless_error (stages_dhcp4Set config.dhcp4)
    (wlp_dhcp4Set_success config.dhcp4)
  exact stages_bind (stages_commit packageOf_dhcp) fun _ =>
    stages_of_keeps (respects_pure _)

/-!
## The three modes
-/

theorem pendingAfter_agentCommands :
    StagingStore.pendingAfter [] (agentCommands.map UciCommand.op) = [] := by
  simp [agentCommands, lanSectionCommands, setTo, UciCommand.op, UciCommand.args,
    packageOf, StagingStore.pendingAfter, StagingStore.pendingStep]

theorem pendingAfter_controllerNetworkCommands :
    StagingStore.pendingAfter [] (controllerNetworkCommands.map UciCommand.op) ⊆
      ["repacd"] := by
  simp [controllerNetworkCommands, setTo, UciCommand.op, UciCommand.args,
    packageOf, StagingStore.pendingAfter, StagingStore.pendingStep]

theorem pendingAfter_controllerMeshCommands (iface : WifiIface) :
    StagingStore.pendingAfter ["repacd"]
      ((controllerMeshCommands iface).map UciCommand.op) = [] := by
  simp [controllerMeshCommands, setTo, UciCommand.op, UciCommand.args,
    packageOf, StagingStore.pendingAfter, StagingStore.pendingStep]

theorem mem_pendingAfter_standaloneNetworkCommands :
    "network" ∈ StagingStore.pendingAfter []
      (standaloneNetworkCommands.map UciCommand.op) := by
  simp [standaloneNetworkCommands, lanSectionCommands, setTo, UciCommand.op,
    UciCommand.args, packageOf, StagingStore.pendingAfter,
    StagingStore.pendingStep]

theorem stages_networkInit : Stages [] [] networkInit := by
  have hdhcp : Stages [] [] dnsDhcpReloadFromSettingFile := by
    refine stages_bind (stages_of_keeps (respects_bind (respects_readJson rfl)
      fun _ => respects_pure _)) ?_
    intro dnsDhcp
    exact stages_bind (stages_dnsDhcpSet _) fun _ =>
      stages_of_keeps (respects_dnsDhcpFree _)
  have hlan : Stages [] [] lanReloadFromSettingFile := by
    refine stages_bind (stages_of_keeps (respects_bind (respects_readJson rfl)
      fun _ => respects_pure _)) ?_
    intro read
    exact stages_ite (stages_of_keeps (respects_pure _)) (stages_lanSet _)
  have hwan : Stages [] [] wanReloadFromSettingFile := by
    refine stages_bind (stages_of_keeps (respects_bind (respects_readJson rfl)
      fun _ => respects_pure _)) ?_
    intro read
    exact stages_ite (stages_of_keeps (respects_pure _)) (stages_wanSet _)
  exact stages_bind hdhcp fun _ =>
    stages_bind (stages_of_keeps respects_iptablesRefresh) fun _ =>
      stages_bind hlan fun _ =>
        stages_bind hwan fun _ => stages_of_keeps (respects_pure _)

theorem stages_enter (mode : WorkMode) : Stages [] [] (enter mode) :=
  stages_of_keeps (respects_modify fun _ => ⟨rfl, id⟩)

theorem stages_runAgentMode (env : Surroundings) :
    Stages [] [] (runAgentMode env) := by
  have hcommands : Stages [] [] (appUci agentCommands) :=
    stages_appUci_of_pending pendingAfter_agentCommands
  exact stages_bind (stages_enter _) fun _ =>
    stages_bind (stages_of_keeps (respects_dropMqttBridgeServer (by decide)))
      fun _ =>
    stages_bind (stages_of_keeps (respects_ensureMqttBridgeClient (by decide)))
      fun _ =>
    stages_bind (stages_of_keeps (respects_mdnsRemovePublisher (by decide) rfl))
      fun _ =>
    stages_bind (stages_of_keeps (respects_mdnsRemovePublisher (by decide) rfl))
      fun _ =>
    stages_bind stages_networkInit fun _ =>
    stages_bind hcommands fun _ => stages_of_keeps (respects_waitForDeamon env)

theorem stages_runControllerMode (env : Surroundings) :
    Stages [] [] (runControllerMode env) := by
  have hnetwork : Stages [] ["repacd"] (appUci controllerNetworkCommands) :=
    (stages_appUci controllerNetworkCommands).mono (List.Subset.refl _)
      pendingAfter_controllerNetworkCommands
  have hmesh : forall iface : WifiIface,
      Stages ["repacd"] [] (appUci (controllerMeshCommands iface)) :=
    fun iface =>
      stages_appUci_of_pending (pendingAfter_controllerMeshCommands iface)
  exact stages_bind (stages_enter _) fun _ =>
    stages_bind (stages_of_keeps (respects_dropMqttBridgeClient (by decide)))
      fun _ =>
    stages_bind (stages_of_keeps (respects_ensureMqttBridgeServer (by decide)))
      fun _ =>
    stages_bind (stages_of_keeps (respects_mdnsRemovePublisher (by decide) rfl))
      fun _ =>
    stages_bind (stages_of_keeps (respects_mdnsRemovePublisher (by decide) rfl))
      fun _ =>
    stages_bind stages_networkInit fun _ =>
    stages_bind (stages_of_keeps respects_readMeshSetting) fun _ =>
    stages_bind hnetwork fun _ =>
    stages_bind (stages_of_keeps (respects_deref _ _)) fun _ =>
    stages_bind (stages_of_keeps (respects_deref _ _)) fun iface =>
    stages_bind (hmesh iface) fun _ =>
    stages_bind (stages_of_keeps (respects_waitForDeamon env)) fun _ =>
    stages_bind (stages_of_keeps (respects_getCurrentDeviceInfo env)) fun _ =>
    stages_of_keeps (respects_setDeviceListToFile (by decide) _)

/-- Whatever was staged before, the standalone mode leaves its network settings
staged: it commits `dhcp` only. -/
theorem wlp_runStandaloneMode (env : Surroundings)
    (initial : StagingStore String UciCommand) (w : World) :
    wlp (runStandaloneMode env)
      (fun _ w' => (uciStore initial w').staged "network" ≠ []) w := by
  have hpublisher : Respects KeepsUci (mdnsCreatePublisher env) :=
    respects_bind (respects_getCurrentDeviceInfo env) fun _ =>
      respects_bind (respects_writeText (by decide) _ (Or.inl rfl)) fun _ =>
        respects_pure _
  apply wlp_bind_of_next
  intro _ w
  apply wlp_bind_of_next
  intro _ w
  apply wlp_bind_of_next
  intro _ w
  apply wlp_bind_of_next
  intro _ w
  apply wlp_bind_of_next
  intro _ w
  unfold appUci
  rw [wlp_bind, wlp_modify]
  refine wlp_mono ?_ (hpublisher.wlp (w.runUci standaloneNetworkCommands))
  intro _ w' hkeeps
  have hnone : (uciStore initial w).StagedIn [] := List.forall_mem_nil _
  have hstaged := StagingStore.stagedIn_run hnone
    (standaloneNetworkCommands.map UciCommand.op) "network"
    mem_pendingAfter_standaloneNetworkCommands
  rw [← uciStore_runUci] at hstaged
  unfold uciStore at hstaged ⊢
  rw [hkeeps.uci]
  exact hstaged

end Mesh
end Noc
