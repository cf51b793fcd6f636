import Noc.Utils.Dotenv

/-!
# The settings of the daemon

`load_config` of `config.c` sets the variables of the configuration file that
the environment does not have, and reads each setting from the variable of its
name; one that is not set, or empty, has its default.
-/

namespace Noc
namespace Config

open Foundation.Tokens
open Utils

/-- `config_t`. -/
structure Settings where
  mosquittoHost : String
  mosquittoPort : Int32
  subTopicPattern : String
  pubTopicPattern : String
  broadcastRequestName : String
  meshSettingFile : String
  meshDevicesFile : String
  dhcpSettingFile : String
  lanSettingFile : String
  wanSettingFile : String
  routeSettingFile : String
  iptablesDnatForwardingSettingFile : String
  iptablesDnatDmzSettingFile : String
  iptablesNovaSettingFile : String
  generalErrorTableFile : String
  generalMqttErrorTableFile : String
  ezmErrorTableFile : String
  setupAgentFile : String
  setupControllerFile : String
  setupWpsFile : String
  serviceInfoFile : String
  ezmVersion : String
  ezmName : String
  pairCheckPollingTime : Int32
  pairTimeout : Int32
  uuidSize : Int32

inductive TextSetting where
  | mosquittoHost
  | subTopicPattern
  | pubTopicPattern
  | broadcastRequestName
  | meshSettingFile
  | meshDevicesFile
  | dhcpSettingFile
  | lanSettingFile
  | wanSettingFile
  | routeSettingFile
  | iptablesDnatForwardingSettingFile
  | iptablesDnatDmzSettingFile
  | iptablesNovaSettingFile
  | generalErrorTableFile
  | generalMqttErrorTableFile
  | ezmErrorTableFile
  | setupAgentFile
  | setupControllerFile
  | setupWpsFile
  | serviceInfoFile
  | ezmVersion
  | ezmName
  deriving DecidableEq

inductive NumberSetting where
  | mosquittoPort
  | pairCheckPollingTime
  | pairTimeout
  | uuidSize
  deriving DecidableEq

namespace TextSetting

def key : TextSetting -> String
  | mosquittoHost => "mosquitto_host"
  | subTopicPattern => "sub_topic_pattern"
  | pubTopicPattern => "pub_topic_pattern"
  | broadcastRequestName => "broadcast_request_name"
  | meshSettingFile => "mesh_setting_file"
  | meshDevicesFile => "mesh_devices_file"
  | dhcpSettingFile => "dhcp_setting_file"
  | lanSettingFile => "lan_setting_file"
  | wanSettingFile => "wan_setting_file"
  | routeSettingFile => "route_setting_file"
  | iptablesDnatForwardingSettingFile => "iptables_dnat_forwarding_setting_file"
  | iptablesDnatDmzSettingFile => "iptables_dnat_dmz_setting_file"
  | iptablesNovaSettingFile => "iptables_nova_setting_file"
  | generalErrorTableFile => "general_error_table_file"
  | generalMqttErrorTableFile => "general_mqtt_error_table_file"
  | ezmErrorTableFile => "ezm_error_table_file"
  | setupAgentFile => "setup_agent_file"
  | setupControllerFile => "setup_controller_file"
  | setupWpsFile => "setup_wps_file"
  | serviceInfoFile => "service_info_file"
  | ezmVersion => "ezm_version"
  | ezmName => "ezm_name"

/-- The version is the text `EZM_VERSION` the daemon was built with. -/
def default (builtVersion : String) : TextSetting -> String
  | mosquittoHost => "localhost"
  | subTopicPattern => "hub/event/%s"
  | pubTopicPattern => "ezm/event/%s"
  | broadcastRequestName => "broadcast.ezm.device_list.reported"
  | meshSettingFile => "/data/config/ezm/mesh_setting.json"
  | meshDevicesFile => "/data/config/ezm/mesh_devices.json"
  | dhcpSettingFile => "/data/config/ezm/dns_dhcp_setting.json"
  | lanSettingFile => "/data/config/ezm/lan_setting.json"
  | wanSettingFile => "/data/config/ezm/wan_setting.json"
  | routeSettingFile => "/data/config/ezm/route_setting.json"
  | iptablesDnatForwardingSettingFile =>
      "/data/config/ezm/iptable_dnat_forwarding_setting.json"
  | iptablesDnatDmzSettingFile => "/data/config/ezm/iptable_dnat_dmz_setting.json"
  | iptablesNovaSettingFile => "/data/config/ezm/iptable_nova_setting.json"
  | generalErrorTableFile => "/data/error_tables/100_general.json"
  | generalMqttErrorTableFile => "/data/error_tables/101_general_mqtt.json"
  | ezmErrorTableFile => "/data/error_tables/240_ezm.json"
  | setupAgentFile => "/data/script/ezm/setup_agent.sh"
  | setupControllerFile => "/data/script/ezm/setup_controller.sh"
  | setupWpsFile => "/data/script/ezm/setup_wps.sh"
  | serviceInfoFile => "/data/database/hub/services_info.json"
  | ezmVersion => builtVersion
  | ezmName => "NovaController"

def get (settings : Settings) : TextSetting -> String
  | mosquittoHost => settings.mosquittoHost
  | subTopicPattern => settings.subTopicPattern
  | pubTopicPattern => settings.pubTopicPattern
  | broadcastRequestName => settings.broadcastRequestName
  | meshSettingFile => settings.meshSettingFile
  | meshDevicesFile => settings.meshDevicesFile
  | dhcpSettingFile => settings.dhcpSettingFile
  | lanSettingFile => settings.lanSettingFile
  | wanSettingFile => settings.wanSettingFile
  | routeSettingFile => settings.routeSettingFile
  | iptablesDnatForwardingSettingFile => settings.iptablesDnatForwardingSettingFile
  | iptablesDnatDmzSettingFile => settings.iptablesDnatDmzSettingFile
  | iptablesNovaSettingFile => settings.iptablesNovaSettingFile
  | generalErrorTableFile => settings.generalErrorTableFile
  | generalMqttErrorTableFile => settings.generalMqttErrorTableFile
  | ezmErrorTableFile => settings.ezmErrorTableFile
  | setupAgentFile => settings.setupAgentFile
  | setupControllerFile => settings.setupControllerFile
  | setupWpsFile => settings.setupWpsFile
  | serviceInfoFile => settings.serviceInfoFile
  | ezmVersion => settings.ezmVersion
  | ezmName => settings.ezmName

end TextSetting

namespace NumberSetting

def key : NumberSetting -> String
  | mosquittoPort => "mosquitto_port"
  | pairCheckPollingTime => "pair_check_polling_time"
  | pairTimeout => "pair_timeout"
  | uuidSize => "uuid_size"

def default : NumberSetting -> Int32
  | mosquittoPort => 1883
  | pairCheckPollingTime => 5000
  | pairTimeout => 60000
  | uuidSize => 37

def get (settings : Settings) : NumberSetting -> Int32
  | mosquittoPort => settings.mosquittoPort
  | pairCheckPollingTime => settings.pairCheckPollingTime
  | pairTimeout => settings.pairTimeout
  | uuidSize => settings.uuidSize

end NumberSetting

/-- What `load_config` reads of the environment. -/
def readSettings (builtVersion : String) (env : Environment) : Settings where
  mosquittoHost := envGet env "mosquitto_host" "localhost"
  mosquittoPort := envGetInt env "mosquitto_port" 1883
  subTopicPattern := envGet env "sub_topic_pattern" "hub/event/%s"
  pubTopicPattern := envGet env "pub_topic_pattern" "ezm/event/%s"
  broadcastRequestName := envGet env "broadcast_request_name"
    "broadcast.ezm.device_list.reported"
  meshSettingFile := envGet env "mesh_setting_file" "/data/config/ezm/mesh_setting.json"
  meshDevicesFile := envGet env "mesh_devices_file" "/data/config/ezm/mesh_devices.json"
  dhcpSettingFile := envGet env "dhcp_setting_file"
    "/data/config/ezm/dns_dhcp_setting.json"
  lanSettingFile := envGet env "lan_setting_file" "/data/config/ezm/lan_setting.json"
  wanSettingFile := envGet env "wan_setting_file" "/data/config/ezm/wan_setting.json"
  routeSettingFile := envGet env "route_setting_file"
    "/data/config/ezm/route_setting.json"
  iptablesDnatForwardingSettingFile := envGet env "iptables_dnat_forwarding_setting_file"
    "/data/config/ezm/iptable_dnat_forwarding_setting.json"
  iptablesDnatDmzSettingFile := envGet env "iptables_dnat_dmz_setting_file"
    "/data/config/ezm/iptable_dnat_dmz_setting.json"
  iptablesNovaSettingFile := envGet env "iptables_nova_setting_file"
    "/data/config/ezm/iptable_nova_setting.json"
  generalErrorTableFile := envGet env "general_error_table_file"
    "/data/error_tables/100_general.json"
  generalMqttErrorTableFile := envGet env "general_mqtt_error_table_file"
    "/data/error_tables/101_general_mqtt.json"
  ezmErrorTableFile := envGet env "ezm_error_table_file"
    "/data/error_tables/240_ezm.json"
  setupAgentFile := envGet env "setup_agent_file" "/data/script/ezm/setup_agent.sh"
  setupControllerFile := envGet env "setup_controller_file"
    "/data/script/ezm/setup_controller.sh"
  setupWpsFile := envGet env "setup_wps_file" "/data/script/ezm/setup_wps.sh"
  serviceInfoFile := envGet env "service_info_file"
    "/data/database/hub/services_info.json"
  ezmVersion := envGet env "ezm_version" builtVersion
  ezmName := envGet env "ezm_name" "NovaController"
  pairCheckPollingTime := envGetInt env "pair_check_polling_time" 5000
  pairTimeout := envGetInt env "pair_timeout" 60000
  uuidSize := envGetInt env "uuid_size" 37

/-- The file is loaded into the environment, which keeps what it has. -/
def loadConfig (builtVersion : String) (files : Files) (configFile : List Char)
    (env : Environment) : Environment × Settings :=
  let (_, env) := envLoad files configFile false env
  (env, readSettings builtVersion env)

/-!
## What a setting is
-/

/-- The value of a variable that is set and not empty. -/
def chosen {β : Type} (read : List Char -> β) (default : β) :
    Option (List Char) -> β
  | none => default
  | some [] => default
  | some value => read value

/-- What a variable is when the lines of a file are loaded: what it was, or what
the first line that names it makes of it. -/
inductive Decided (env : Environment) (lines : List (List Char)) (name : List Char) :
    Option (List Char) -> Prop where
  | kept {value : List Char} (hset : env name = some value) :
      Decided env lines name (some value)
  | first {before after : List (List Char)} {line original : List Char}
      (hunset : env name = none) (hlines : lines = before ++ line :: after)
      (hbinding : bindingOf line = some (name, original))
      (hfirst : forall other, other ∈ before -> ¬ Binds other name) :
      Decided env lines name
        (some ((parseValue (before.foldl (parseLine false) env) original).drop 1))
  | unset (hunset : env name = none)
      (hnone : forall line, line ∈ lines -> ¬ Binds line name) :
      Decided env lines name none

/-- The lines of the configuration file. -/
def configLines (files : Files) (configFile : List Char) : List (List Char) :=
  match files (defaultPath configFile) with
  | some text => linesOf text
  | none =>
      match files configFile with
      | some text => linesOf text
      | none => []

section

variable {env : Environment} {lines : List (List Char)} {name : List Char}

theorem envLoad_eq (files : Files) (configFile : List Char) (env : Environment) :
    (envLoad files configFile false env).2 =
      (configLines files configFile).foldl (parseLine false) env := by
  unfold envLoad configLines
  cases files (defaultPath configFile) with
  | some text => rfl
  | none =>
      cases files configFile with
      | some text => rfl
      | none => rfl

/-- The first line that names a variable, when one does. -/
theorem exists_first (h : exists line, line ∈ lines ∧ Binds line name) :
    exists before line after original, lines = before ++ line :: after ∧
      bindingOf line = some (name, original) ∧
      forall other, other ∈ before -> ¬ Binds other name := by
  induction lines with
  | nil =>
      rcases h with ⟨line, hmem, _⟩
      cases hmem
  | cons line rest ih =>
      by_cases hbinds : Binds line name
      · rcases hbinds with ⟨original, hbinding⟩
        exact ⟨[], line, rest, original, rfl, hbinding, fun _ hmem => by cases hmem⟩
      · have hlater : exists line, line ∈ rest ∧ Binds line name := by
          rcases h with ⟨other, hmem, hother⟩
          rcases List.mem_cons.mp hmem with rfl | hmem
          · exact absurd hother hbinds
          · exact ⟨other, hmem, hother⟩
        rcases ih hlater with ⟨before, found, after, original, rfl, hbinding, hfirst⟩
        refine ⟨line :: before, found, after, original, rfl, hbinding, ?_⟩
        intro other hmem
        rcases List.mem_cons.mp hmem with rfl | hmem
        · exact hbinds
        · exact hfirst other hmem

theorem decided_foldl (env : Environment) (lines : List (List Char))
    (name : List Char) :
    Decided env lines name (lines.foldl (parseLine false) env name) := by
  have hloaded := loaded_foldl false env lines
  cases hset : env name with
  | some value =>
      rw [hloaded.set rfl name value hset]
      exact Decided.kept hset
  | none =>
      by_cases hbinds : exists line, line ∈ lines ∧ Binds line name
      · rcases exists_first hbinds with
          ⟨before, line, after, original, hlines, hbinding, hfirst⟩
        rw [hloaded.first rfl before line after name original hlines hbinding hfirst
          hset]
        exact Decided.first hset hlines hbinding hfirst
      · have hnone : forall line, line ∈ lines -> ¬ Binds line name :=
          fun line hmem hline => hbinds ⟨line, hmem, hline⟩
        rw [hloaded.kept name hnone, hset]
        exact Decided.unset hset hnone

theorem envGet_eq (env : Environment) {key : String} (hkey : key.toList ≠ [])
    (default : String) :
    envGet env key default = chosen String.ofList default (env key.toList) := by
  unfold envGet getenv
  rw [if_neg hkey]
  cases env key.toList with
  | none => rfl
  | some value => cases value <;> rfl

theorem envGetInt_eq (env : Environment) {key : String} (hkey : key.toList ≠ [])
    (default : Int32) :
    envGetInt env key default =
      chosen (fun value => Foundation.atoi (String.ofList value)) default
        (env key.toList) := by
  unfold envGetInt getenv
  rw [if_neg hkey]
  cases env key.toList with
  | none => rfl
  | some value => cases value <;> rfl

theorem TextSetting.key_ne_nil (setting : TextSetting) :
    setting.key.toList ≠ [] := by
  rw [Ne, String.toList_eq_nil_iff]
  cases setting <;> decide

theorem NumberSetting.key_ne_nil (setting : NumberSetting) :
    setting.key.toList ≠ [] := by
  rw [Ne, String.toList_eq_nil_iff]
  cases setting <;> decide

theorem TextSetting.get_readSettings (builtVersion : String) (env : Environment)
    (setting : TextSetting) :
    setting.get (readSettings builtVersion env) =
      chosen String.ofList (setting.default builtVersion) (env setting.key.toList) := by
  rw [← envGet_eq env setting.key_ne_nil]
  cases setting <;> dsimp only [get, readSettings, key, default]

theorem NumberSetting.get_readSettings (builtVersion : String) (env : Environment)
    (setting : NumberSetting) :
    setting.get (readSettings builtVersion env) =
      chosen (fun value => Foundation.atoi (String.ofList value)) setting.default
        (env setting.key.toList) := by
  rw [← envGetInt_eq env setting.key_ne_nil]
  cases setting <;> dsimp only [get, readSettings, key, default]

/-- Every setting is what the variable of its name is, and its default when that
is not set or empty; and to load the configuration again changes nothing. -/
theorem loadConfig_decided (builtVersion : String) (files : Files)
    (configFile : List Char) (env : Environment) :
    (forall setting : TextSetting, exists value,
      Decided env (configLines files configFile) setting.key.toList value ∧
        setting.get (loadConfig builtVersion files configFile env).2 =
          chosen String.ofList (setting.default builtVersion) value) ∧
    (forall setting : NumberSetting, exists value,
      Decided env (configLines files configFile) setting.key.toList value ∧
        setting.get (loadConfig builtVersion files configFile env).2 =
          chosen (fun value => Foundation.atoi (String.ofList value))
            setting.default value) ∧
    loadConfig builtVersion files configFile
        (loadConfig builtVersion files configFile env).1 =
      loadConfig builtVersion files configFile env := by
  have hload : loadConfig builtVersion files configFile env =
      ((configLines files configFile).foldl (parseLine false) env,
        readSettings builtVersion
          ((configLines files configFile).foldl (parseLine false) env)) := by
    rw [← envLoad_eq]
    rfl
  rw [hload]
  refine ⟨?_, ?_, ?_⟩
  · intro setting
    exact ⟨_, decided_foldl env _ _, setting.get_readSettings _ _⟩
  · intro setting
    exact ⟨_, decided_foldl env _ _, setting.get_readSettings _ _⟩
  · have hagain := foldl_foldl env (configLines files configFile)
    show ((envLoad files configFile false _).2,
      readSettings builtVersion (envLoad files configFile false _).2) = _
    rw [envLoad_eq, hagain]

end

end Config
end Noc
