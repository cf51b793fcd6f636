import Noc.Config.MqttBridge
import Noc.Mesh.WorkMode
import Noc.Network.Init

/-!
# Switching the mode

`run_standalone_mode`, `run_agent_mode` and `run_controller_mode`: each rewrites
the broker's configuration, applies the network settings anew and sets its own
UCI options.
-/

namespace Noc
namespace Mesh

open Config
open Foundation
open Foundation.Exec
open Network
open Utils

/-!
## UCI options
-/

def lanIpDefaultForStandalone : String := "192.168.124.1"
def lanIpDefaultForMesh : String := "192.168.123.1"

def setTo (args value : String) : UciCommand :=
  .set args (some value)

def standaloneRepacdCommands : List UciCommand :=
  [setTo "repacd.repacd.Ezmesh" "0",
   setTo "repacd.repacd.Enable" "0",
   setTo "repacd.MAPConfig.Enable" "0",
   .commit "repacd"]

/-- The LAN section of the standalone and the agent mode. -/
def lanSectionCommands (ipaddr proto : String) : List UciCommand :=
  [setTo "network.lan" "interface",
   setTo "network.lan.force_link" "'1'",
   setTo "network.lan.type" "'bridge'",
   setTo "network.lan.ipaddr" ipaddr,
   setTo "network.lan.netmask" "'255.255.255.0'",
   setTo "network.lan.ip6assign" "'60'",
   setTo "network.lan.multicast_querier" "'0'",
   setTo "network.lan.igmp_snooping" "'0'",
   setTo "network.lan.ieee1905managed" "'1'",
   setTo "network.lan.proto" proto,
   setTo "network.lan.ifname" "'eth1 eth2 eth3 eth4'"]

def standaloneNetworkCommands : List UciCommand :=
  lanSectionCommands lanIpDefaultForStandalone "'static'" ++
    [setTo "network.wan" "interface",
     setTo "network.wan.proto" "'dhcp'",
     setTo "network.wan.ifname" "'eth0'",
     setTo "dhcp.lan.ignore" "0",
     .commit "dhcp"]

def agentCommands : List UciCommand :=
  lanSectionCommands lanIpDefaultForMesh "'dhcp'" ++
    [.delete "network.wan",
     .commit "network",
     setTo "dhcp.lan.ignore" "1",
     .commit "dhcp",
     setTo "wireless.wifi0.repacd_map_bsta_preference" "1",
     setTo "wireless.wifi1.repacd_map_bsta_preference" "2",
     setTo "wireless.qcawifi" "qcawifi",
     setTo "wireless.qcawifi.samessid_disable" "1",
     .commit "wireless",
     setTo "wsplcd.config.MapMaxBss" "6",
     .commit "wsplcd",
     setTo "repacd.repacd.Ezmesh" "1",
     setTo "repacd.repacd.Enable" "1",
     setTo "repacd.repacd.ConfigREMode" "son",
     setTo "repacd.MAPConfig.FirstConfigRequired" "1",
     setTo "repacd.MAPConfig.Enable" "1",
     setTo "repacd.MAPConfig.MapVersionEnabled" "3",
     setTo "repacd.MAPConfig.OnboardingType" "'none'",
     setTo "repacd.MAPConfig.FronthaulAuthType" "1",
     .commit "repacd"]

def controllerNetworkCommands : List UciCommand :=
  [setTo "dhcp.lan.ignore" "0",
   .commit "dhcp",
   setTo "network.lan.proto" "static",
   setTo "network.lan.ipaddr" lanIpDefaultForMesh,
   setTo "network.wan" "interface",
   setTo "network.wan.ifname" "eth0",
   setTo "network.wan.proto" "dhcp",
   .commit "network",
   setTo "wireless.wifi0.repacd_create_ctrl_fbss" "1",
   setTo "wireless.wifi0.repacd_create_ctrl_bbss" "1",
   setTo "wireless.wifi1.repacd_create_ctrl_fbss" "1",
   setTo "wireless.wifi1.repacd_create_ctrl_bbss" "1",
   setTo "wireless.qcawifi" "qcawifi",
   setTo "wireless.qcawifi.samessid_disable" "1",
   .commit "wireless",
   setTo "repacd.repacd.Ezmesh" "1",
   setTo "repacd.repacd.Enable" "1",
   setTo "repacd.repacd.ConfigREMode" "son",
   setTo "repacd.MAPConfig.Enable" "1",
   setTo "repacd.MAPConfig.FirstConfigRequired" "1",
   setTo "repacd.MAPConfig.BSSInstantiationTemplate" "'scheme-a.conf'",
   setTo "repacd.MAPConfig.MapVersionEnabled" "3"]

def controllerMeshCommands (iface : WifiIface) : List UciCommand :=
  [setTo "repacd.MAPConfig.FronthaulSSID" ("'" ++ formatted iface.ssid ++ "'"),
   setTo "repacd.MAPConfig.FronthaulKey" ("'" ++ formatted iface.key ++ "'"),
   setTo "repacd.MAPConfig.BackhaulSSID" "'EzMeshBackhaul'",
   setTo "repacd.MAPConfig.BackhaulKey" "'QCOM#1WiFi'",
   setTo "repacd.MAPConfig.FronthaulAuthType" "1",
   .commit "repacd",
   setTo "ezlbd.Estimator_Adv.ActDetectMinInterval" "'10'",
   setTo "ezlbd.Estimator_Adv.ActDetectMinPktPerSec" "'5'",
   setTo "ezlbd.APSteer.LowRSSIAPSteerThreshold_SIG" "'35'",
   setTo "ezlbd.APSteer.APSteerMaxRetryCount" "'20'",
   setTo "ezlbd.StaDB.MarkAdvClientAsDualBand" "1",
   setTo "ezlbd.SteerExec_Adv.StartInBTMActiveState" "1",
   setTo "ezlbd.config.InactDetectionFromTx" "'1'",
   .commit "ezlbd",
   setTo "ezmesh.MultiAP.EnableChannelSelection" "1",
   setTo "ezmesh.MultiAP.BkScanIntervalMin" "0",
   setTo "ezmesh.MultiAP.ChannelSelectionDelaySec" "0",
   setTo "ezmesh.MultiAP.ChannelSelectionOnGlobalPref" "0",
   setTo "ezmesh.MultiAP.EnableTopologyOpt" "1",
   .commit "ezmesh"]

/-!
## Avahi
-/

/-- `remove` of a service file. -/
def mdnsRemovePublisher (serviceFile : DaemonFile) : Daemon Unit :=
  onFiles (modify fun fs =>
    { fs with content := Function.update fs.content serviceFile none })

def publisherText (device : DeviceInfo) : String :=
  "<?xml version=\"v1.0.0\" standalone='no'?><!--*-nxml-*-->\n" ++
    "<!DOCTYPE service-group SYSTEM \"avahi-service.dtd\">\n" ++
    "<service-group>\n" ++
    "<name>Ezm Service</name>\n" ++
    "<service>\n" ++
    "<type>_ezm._tcp</type>\n" ++
    "<txt-record>hub_id=" ++ formatted device.hubId ++ "</txt-record>\n" ++
    "<txt-record>ezm_id=" ++ formatted device.ezmId ++ "</txt-record>\n" ++
    "<txt-record>ezm_version=" ++ formatted device.ezmVersion ++
      "</txt-record>\n" ++
    "<txt-record>ezm_name=" ++ formatted device.ezmName ++ "</txt-record>\n" ++
    "<txt-record>role=" ++ formatted device.role ++ "</txt-record>\n" ++
    "<txt-record>mac=" ++ formatted device.mac ++ "</txt-record>\n" ++
    "<txt-record>ip=" ++ formatted device.ip ++ "</txt-record>\n" ++
    "</service>\n" ++
    "</service-group>"

def mdnsCreatePublisher (env : Surroundings) : Daemon Unit := do
  let device <- getCurrentDeviceInfo env
  let _ <- writeText (publisherText device) .avahiEzmService truncateMode
  return ()

/-!
## The three modes

The agent and the controller wait, without end, for the mesh daemon.
-/

def waitForDeamon (env : Surroundings) : Daemon Unit :=
  if env.deamonComesUp then return () else fail Fault.blocked

def enter (mode : WorkMode) : Daemon Unit :=
  modify fun w => w.enterMode mode

def standaloneSteps (env : Surroundings) : Daemon Unit := do
  dropMqttBridgeClient
  dropMqttBridgeServer
  appUci standaloneRepacdCommands
  networkInit
  appUci standaloneNetworkCommands
  mdnsCreatePublisher env

def runStandaloneMode (env : Surroundings) : Daemon Unit := do
  enter .standalone
  standaloneSteps env

def agentSteps (env : Surroundings) : Daemon Unit := do
  dropMqttBridgeServer
  ensureMqttBridgeClient
  mdnsRemovePublisher .avahiThingService
  mdnsRemovePublisher .avahiEzmService
  networkInit
  appUci agentCommands
  waitForDeamon env

def runAgentMode (env : Surroundings) : Daemon Unit := do
  enter .agent
  agentSteps env

def controllerSteps (env : Surroundings) : Daemon Unit := do
  dropMqttBridgeClient
  ensureMqttBridgeServer
  mdnsRemovePublisher .avahiThingService
  mdnsRemovePublisher .avahiEzmService
  networkInit
  let setting <- readMeshSetting
  appUci controllerNetworkCommands
  let wireless <- field setting.wireless
  let iface <- field wireless.wifiIface
  appUci (controllerMeshCommands iface)
  waitForDeamon env
  let controllerDevice <- getCurrentDeviceInfo env
  setDeviceListToFile [{ controllerDevice with status := deviceOn }]

def runControllerMode (env : Surroundings) : Daemon Unit := do
  enter .controller
  controllerSteps env

/-!
## What the steps leave alone
-/

/-- The files a switch of the mode writes. -/
def modeFiles : List DaemonFile :=
  [.mosquittoConf, .dhcpSetting, .lanSetting, .wanSetting, .meshDevices,
   .avahiEzmService, .avahiThingService]

theorem respects_mdnsRemovePublisher {rel : World -> World -> Prop}
    {touched : List DaemonFile} [KeptByHelpers rel touched]
    {serviceFile : DaemonFile} (hfile : serviceFile ∈ touched)
    (hinstalled : serviceFile.installed = false) :
    Respects rel (mdnsRemovePublisher serviceFile) :=
  KeptByHelpers.remove hfile hinstalled

section

variable (env : Surroundings)

theorem respects_waitForDeamon {rel : World -> World -> Prop}
    [IsPreorder World rel] : Respects rel (waitForDeamon env) :=
  respects_ite (respects_pure _) (respects_fail _)

section

variable {rel : World -> World -> Prop} {touched : List DaemonFile}
  [KeptByHelpers rel touched] [KeptByUci rel] (htouched : modeFiles ⊆ touched)

include htouched

theorem keeps_networkInit : Respects rel networkInit :=
  respects_networkInit (htouched (by decide)) (htouched (by decide))
    (htouched (by decide))

theorem keeps_standaloneSteps : Respects rel (standaloneSteps env) :=
  respects_bind (respects_dropMqttBridgeClient (htouched (by decide))) fun _ =>
    respects_bind (respects_dropMqttBridgeServer (htouched (by decide))) fun _ =>
      respects_bind (respects_appUci _) fun _ =>
        respects_bind (keeps_networkInit htouched) fun _ =>
          respects_bind (respects_appUci _) fun _ =>
            respects_bind (respects_getCurrentDeviceInfo env) fun _ =>
              respects_bind
                (respects_writeText (htouched (by decide)) _ (Or.inl rfl))
                fun _ => respects_pure _

theorem keeps_agentSteps : Respects rel (agentSteps env) :=
  respects_bind (respects_dropMqttBridgeServer (htouched (by decide))) fun _ =>
    respects_bind (respects_ensureMqttBridgeClient (htouched (by decide))) fun _ =>
      respects_bind (respects_mdnsRemovePublisher (htouched (by decide)) rfl)
        fun _ =>
        respects_bind (respects_mdnsRemovePublisher (htouched (by decide)) rfl)
          fun _ =>
          respects_bind (keeps_networkInit htouched) fun _ =>
            respects_bind (respects_appUci _) fun _ =>
              respects_waitForDeamon env

theorem keeps_controllerSteps : Respects rel (controllerSteps env) :=
  respects_bind (respects_dropMqttBridgeClient (htouched (by decide))) fun _ =>
    respects_bind (respects_ensureMqttBridgeServer (htouched (by decide))) fun _ =>
      respects_bind (respects_mdnsRemovePublisher (htouched (by decide)) rfl)
        fun _ =>
        respects_bind (respects_mdnsRemovePublisher (htouched (by decide)) rfl)
          fun _ =>
          respects_bind (keeps_networkInit htouched) fun _ =>
            respects_bind respects_readMeshSetting fun _ =>
              respects_bind (respects_appUci _) fun _ =>
                respects_bind (respects_deref _ _) fun _ =>
                  respects_bind (respects_deref _ _) fun _ =>
                    respects_bind (respects_appUci _) fun _ =>
                      respects_bind (respects_waitForDeamon env) fun _ =>
                        respects_bind (respects_getCurrentDeviceInfo env)
                          fun _ =>
                          respects_setDeviceListToFile (htouched (by decide)) _

end

theorem respects_standaloneSteps :
    Respects (Beside modeFiles) (standaloneSteps env) :=
  keeps_standaloneSteps env (List.Subset.refl _)

theorem respects_agentSteps : Respects (Beside modeFiles) (agentSteps env) :=
  keeps_agentSteps env (List.Subset.refl _)

theorem respects_controllerSteps :
    Respects (Beside modeFiles) (controllerSteps env) :=
  keeps_controllerSteps env (List.Subset.refl _)

end

/-!
## When a switch ends
-/

/-- What both modes of a device without a controller above it need. -/
structure SwitchReady (w : World) : Prop where
  bridge : BridgeReady w
  network : NetworkReady w
  address : HasAddress w

section

variable {w w' : World} (env : Surroundings)

theorem networkReady_congr
    (hdhcp : w'.json .dhcpSetting = w.json .dhcpSetting)
    (hnova : w'.json .iptablesNovaSetting = w.json .iptablesNovaSetting) :
    NetworkReady w' <-> NetworkReady w := by
  have hstored : storedDnsDhcp w' = storedDnsDhcp w := by
    unfold storedDnsDhcp
    rw [hdhcp]
  have hservices : storedNova w' = storedNova w := by
    unfold storedNova
    rw [hnova]
  constructor
  · intro hready
    exact
      { applicable := hstored ▸ hready.applicable
        releasable := hstored ▸ hready.releasable
        carries := hservices ▸ hready.carries }
  · intro hready
    exact
      { applicable := hstored.symm ▸ hready.applicable
        releasable := hstored.symm ▸ hready.releasable
        carries := hservices.symm ▸ hready.carries }

theorem networkReady_of_beside {touched : List DaemonFile}
    (h : Beside touched w w') (hdhcp : .dhcpSetting ∉ touched)
    (hnova : .iptablesNovaSetting ∉ touched) :
    NetworkReady w' <-> NetworkReady w :=
  networkReady_congr (h.json_eq hdhcp) (h.json_eq hnova)

theorem hasAddress_of_beside {touched : List DaemonFile}
    (h : Beside touched w w') (haddress : .wanAddress ∉ touched) :
    HasAddress w' <-> HasAddress w := by
  unfold HasAddress
  rw [h.lines_eq haddress]

theorem returns_after_bridge {next rest : Daemon Unit} {later : Prop}
    (hnext : forall w' : World, Healthy w'.files ->
      (wp next (fun _ _ => True) w' <-> w'.lines .mosquittoConf ≠ none))
    (hrespects : Respects (Beside [.mosquittoConf]) next)
    (hlater : forall w', Beside [.mosquittoConf] w w' ->
      (wp rest (fun _ _ => True) w' <-> later))
    (h : Healthy w.files) :
    wp (dropMqttBridgeClient >>= fun _ => next >>= fun _ => rest)
      (fun _ _ => True) w <-> BridgeReady w ∧ later := by
  have hbridge : Respects (Beside [.mosquittoConf])
      (dropMqttBridgeClient >>= fun _ => next) :=
    respects_bind (respects_dropMqttBridgeClient List.mem_cons_self) fun _ =>
      hrespects
  have hboth : wp ((dropMqttBridgeClient >>= fun _ => next) >>= fun _ => rest)
      (fun _ _ => True) w <-> BridgeReady w ∧ later :=
    wp_bind_iff_of_respects hbridge (returns_bridge hnext h)
      fun _ w' hbeside => hlater w' hbeside
  rw [wp_bind, wp_bind] at hboth
  rw [wp_bind]
  simpa only [wp_bind] using hboth

theorem returns_after_networkInit {rest : Daemon Unit} {later : Prop}
    (hlater : forall w',
      Beside [.dhcpSetting, .lanSetting, .wanSetting] w w' ->
      (wp rest (fun _ _ => True) w' <-> later))
    (h : Healthy w.files) :
    wp (networkInit >>= fun _ => rest) (fun _ _ => True) w <->
      NetworkReady w ∧ later := by
  have hrespects : Respects
      (Beside [.dhcpSetting, .lanSetting, .wanSetting]) networkInit :=
    respects_networkInit (by decide) (by decide) (by decide)
  exact wp_bind_iff_of_respects hrespects (returns_networkInit h)
    fun _ w' hbeside => hlater w' hbeside

theorem returns_mdnsCreatePublisher (h : Healthy w.files) :
    wp (mdnsCreatePublisher env) (fun _ _ => True) w <-> HasAddress w := by
  have hdevice : Respects (Beside []) (getCurrentDeviceInfo env) :=
    respects_getCurrentDeviceInfo env
  have hsplit : wp (mdnsCreatePublisher env) (fun _ _ => True) w <->
      HasAddress w ∧ True := by
    apply wp_bind_iff_of_respects hdevice (returns_getCurrentDeviceInfo env h)
    intro device w' hbeside
    rw [wp_bind, wp_writeText (hbeside.healthy h)]
    exact iff_of_true trivial trivial
  simpa using hsplit

theorem returns_standaloneSteps (h : Healthy w.files) :
    wp (standaloneSteps env) (fun _ _ => True) w <->
      BridgeReady w ∧ NetworkReady w ∧ HasAddress w := by
  refine returns_after_bridge
    (fun w' hw' => returns_dropMqttBridgeServer hw')
    (respects_dropMqttBridgeServer List.mem_cons_self) ?_ h
  intro w1 hbridge
  have huci : Respects (Beside [.mosquittoConf])
      (appUci standaloneRepacdCommands) := respects_appUci _
  apply wp_bind_iff_of_returns huci trivial
  intro _ w2 hset
  have hfirst := hbridge.trans hset
  rw [← networkReady_of_beside hfirst (by decide) (by decide)]
  refine returns_after_networkInit ?_ (hfirst.healthy h)
  intro w3 hinit
  have huci' : Respects (Beside modeFiles)
      (appUci standaloneNetworkCommands) := respects_appUci _
  apply wp_bind_iff_of_returns huci' trivial
  intro _ w4 hset'
  have hall : Beside modeFiles w w4 :=
    ((hfirst.mono (by decide)).trans (hinit.mono (by decide))).trans hset'
  rw [← hasAddress_of_beside hall (by decide)]
  exact returns_mdnsCreatePublisher env (hall.healthy h)

theorem switchReady_iff :
    SwitchReady w <-> BridgeReady w ∧ NetworkReady w ∧ HasAddress w :=
  ⟨fun h => ⟨h.bridge, h.network, h.address⟩, fun h => ⟨h.1, h.2.1, h.2.2⟩⟩

/-- Neither switch depends on the mesh setting. -/
theorem switchReady_of_content
    (h : forall file, file ≠ .meshSetting ->
      w'.files.content file = w.files.content file) :
    SwitchReady w' <-> SwitchReady w := by
  have hjson : forall file, file ≠ .meshSetting ->
      w'.json file = w.json file := by
    intro file hfile
    unfold World.json
    rw [h file hfile]
  have hlines : forall file, file ≠ .meshSetting ->
      w'.lines file = w.lines file := by
    intro file hfile
    unfold World.lines
    rw [h file hfile]
  rw [switchReady_iff, switchReady_iff,
    networkReady_congr (hjson _ (by decide)) (hjson _ (by decide))]
  unfold BridgeReady HasAddress
  rw [hlines _ (by decide), hlines _ (by decide)]

theorem networkReady_enterMode (mode : WorkMode) :
    NetworkReady (w.enterMode mode) <-> NetworkReady w :=
  networkReady_congr rfl rfl

theorem returns_runStandaloneMode (h : Healthy w.files) :
    wp (runStandaloneMode env) (fun _ _ => True) w <-> SwitchReady w := by
  have hentered : Healthy (w.enterMode .standalone).files := h
  unfold runStandaloneMode enter
  rw [wp_bind, wp_modify, returns_standaloneSteps env hentered,
    networkReady_enterMode, switchReady_iff]
  rfl

theorem returns_waitForDeamon :
    wp (waitForDeamon env) (fun _ _ => True) w <->
      env.deamonComesUp = true := by
  unfold waitForDeamon
  cases env.deamonComesUp <;> simp

/-- What the controller's steps need after the network is set up. -/
theorem returns_controllerDevice (h : Healthy w.files) :
    wp (waitForDeamon env >>= fun _ => getCurrentDeviceInfo env >>=
        fun device => setDeviceListToFile [{ device with status := deviceOn }])
      (fun _ _ => True) w <-> env.deamonComesUp = true ∧ HasAddress w := by
  have hwait : Respects (Beside []) (waitForDeamon env) :=
    respects_waitForDeamon env
  apply wp_bind_iff_of_respects hwait (returns_waitForDeamon env)
  intro _ w' hwaited
  have hdevice : Respects (Beside []) (getCurrentDeviceInfo env) :=
    respects_getCurrentDeviceInfo env
  have hw' := hwaited.healthy h
  have hsplit : wp (getCurrentDeviceInfo env >>= fun device =>
        setDeviceListToFile [{ device with status := deviceOn }])
      (fun _ _ => True) w' <-> HasAddress w' ∧ True := by
    apply wp_bind_iff_of_respects hdevice (returns_getCurrentDeviceInfo env hw')
    intro device w'' hread
    rw [wp_of_run (run_setDeviceListToFile (hread.healthy hw') _)]
  rw [hsplit, and_true]
  exact hasAddress_of_beside hwaited (by simp)

/-- The stored setting has an interface to configure. -/
def MeshSetting.HasIface (setting : MeshSetting) : Prop :=
  exists wireless iface, setting.wireless = some wireless ∧
    wireless.wifiIface = some iface

theorem returns_mdnsRemovePublisher (serviceFile : DaemonFile) :
    wp (mdnsRemovePublisher serviceFile) (fun _ _ => True) w :=
  trivial

theorem storedSetting_of_beside {touched : List DaemonFile}
    (h : Beside touched w w') (hsetting : .meshSetting ∉ touched) :
    storedSetting w' = storedSetting w := by
  unfold storedSetting
  rw [h.json_eq hsetting]

theorem returns_controllerSteps (h : Healthy w.files) :
    wp (controllerSteps env) (fun _ _ => True) w <->
      BridgeReady w ∧ NetworkReady w ∧ (storedSetting w).HasIface ∧
        env.deamonComesUp = true ∧ HasAddress w := by
  refine returns_after_bridge
    (fun w' hw' => returns_ensureMqttBridgeServer hw')
    (respects_ensureMqttBridgeServer List.mem_cons_self) ?_ h
  intro w1 hbridge
  have hthing : Respects
      (Beside [.mosquittoConf, .avahiThingService, .avahiEzmService])
      (mdnsRemovePublisher .avahiThingService) :=
    respects_mdnsRemovePublisher (by decide) rfl
  apply wp_bind_iff_of_returns hthing (returns_mdnsRemovePublisher _)
  intro _ w2 hremoved
  have hezm : Respects
      (Beside [.mosquittoConf, .avahiThingService, .avahiEzmService])
      (mdnsRemovePublisher .avahiEzmService) :=
    respects_mdnsRemovePublisher (by decide) rfl
  apply wp_bind_iff_of_returns hezm (returns_mdnsRemovePublisher _)
  intro _ w3 hremoved'
  have hfirst := ((hbridge.mono (by decide)).trans hremoved).trans hremoved'
  rw [← networkReady_of_beside hfirst (by decide) (by decide)]
  refine returns_after_networkInit ?_ (hfirst.healthy h)
  intro w4 hinit
  have hall : Beside modeFiles w w4 :=
    (hfirst.mono (by decide)).trans (hinit.mono (by decide))
  have hw4 := hall.healthy h
  rw [wp_bind, wp_of_run (run_readMeshSetting hw4),
    storedSetting_of_beside hall (by decide)]
  unfold MeshSetting.HasIface appUci field
  rw [wp_bind, wp_modify, wp_bind, wp_deref]
  cases hwireless : (storedSetting w).wireless with
  | none => simp
  | some wireless =>
      simp only [Option.some_inj, exists_eq_left', exists_and_left]
      rw [wp_bind, wp_deref]
      cases hiface : wireless.wifiIface with
      | none => simp
      | some iface =>
          have hw6 : Healthy ((w4.runUci controllerNetworkCommands).runUci
              (controllerMeshCommands iface)).files := hw4
          have hfound : exists found, iface = found := ⟨iface, rfl⟩
          simp only [Option.some_inj, exists_eq_left']
          rw [wp_bind, wp_modify, returns_controllerDevice env hw6,
            and_iff_right hfound]
          have haddress : HasAddress w4 <-> HasAddress w :=
            hasAddress_of_beside hall (by decide)
          exact and_congr_right' haddress

theorem returns_runControllerMode (h : Healthy w.files) :
    wp (runControllerMode env) (fun _ _ => True) w <->
      SwitchReady w ∧ (storedSetting w).HasIface ∧ env.deamonComesUp = true := by
  have hentered : Healthy (w.enterMode .controller).files := h
  unfold runControllerMode enter
  rw [wp_bind, wp_modify, returns_controllerSteps env hentered,
    networkReady_enterMode, switchReady_iff]
  constructor
  · rintro ⟨hbridge, hnetwork, hiface, hup, haddress⟩
    exact ⟨⟨hbridge, hnetwork, haddress⟩, hiface, hup⟩
  · rintro ⟨⟨hbridge, hnetwork, haddress⟩, hiface, hup⟩
    exact ⟨hbridge, hnetwork, hiface, hup, haddress⟩

end

end Mesh
end Noc
