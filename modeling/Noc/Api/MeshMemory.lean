import Noc.Api.MemoryReady

/-!
# The memory of the mesh handlers

What the handlers of the mesh and of its devices need of a request, and with that
what every handler does.
-/

namespace Noc
namespace Api
namespace Memory

open Foundation
open Mesh
open Network
open Network.Buffer
open Utils

section

variable {env : Surroundings} {msgJson : Json} {w : World}

/-!
## The mesh
-/

theorem needs_networkInit (h : Healthy w.files) (hready : NetworkReady w) :
    Needs (networkInit w) [] (SettingsReady w) := by
  have hneeds := (((needs_dnsDhcpSet h hready.applicable hready.releasable).append
    (needs_composed (.iptablesRefresh (firewallFiles w)))).append
      (needs_lanSet h (storedLan w))).append (needs_wanSet h (storedWan w))
  refine hneeds.congr ?_
  constructor
  · rintro ⟨⟨⟨hdnsDhcp, hfirewall⟩, hlan⟩, hwan⟩
    exact ⟨hdnsDhcp, hfirewall, hlan, hwan⟩
  · intro hsettings
    exact ⟨⟨⟨hsettings.dnsDhcp, hsettings.firewall⟩, hsettings.lan⟩, hsettings.wan⟩

/-- Quotes take no part in a format. -/
theorem fieldPlain_quoted_iff (text : String) :
    FieldPlain (some ("'" ++ text ++ "'")) <-> takesNoArgument text = true := by
  have hquote := takesNoArgument_separated (show '\'' ≠ '%' by decide) (by decide) text ""
  have hempty : takesNoArgument "" = true := by decide
  rw [hempty, Bool.and_true, String.append_empty] at hquote
  unfold FieldPlain
  rw [formatted_some, String.append_assoc, takesNoArgument_behind (by decide)]
  exact (congrArg (· = true) hquote).to_iff

theorem utf8ByteSize_quoted (text : String) :
    ("'" ++ text ++ "'").utf8ByteSize = text.utf8ByteSize + 2 := by
  have hquote : "'".utf8ByteSize = 1 := by decide
  rw [String.utf8ByteSize_append, String.utf8ByteSize_append, hquote]
  omega

/-- The other commands are constants. -/
theorem needs_controllerMeshCommands (iface : WifiIface) :
    Needs ([.write 128 ("'" ++ formatted iface.ssid ++ "'"),
        .write 128 ("'" ++ formatted iface.key ++ "'")] ++
      appUci (controllerMeshCommands iface)) [] (IfaceReady iface) := by
  have hwrites : Needs ([.write 128 ("'" ++ formatted iface.ssid ++ "'")] ++
      [.write 128 ("'" ++ formatted iface.key ++ "'")] : Uses) [] _ :=
    (needs_write _ _).append (needs_write _ _)
  refine (hwrites.append (needs_appUci _)).congr ?_
  let constant := (controllerMeshCommands {}).drop 2
  have hconstant : (forall command, command ∈ constant -> InBuffer command.line) ∧
      PlainLines constant := by
    unfold PlainLines
    decide +kernel
  have hcommands : controllerMeshCommands iface =
      .set "repacd.MAPConfig.FronthaulSSID" (some ("'" ++ formatted iface.ssid ++ "'")) ::
        .set "repacd.MAPConfig.FronthaulKey" (some ("'" ++ formatted iface.key ++ "'")) ::
          constant := rfl
  rw [hcommands, List.forall_mem_cons, List.forall_mem_cons, plainLines_cons,
    plainLines_cons, takesNoArgument_set (by decide), takesNoArgument_set (by decide),
    fieldPlain_quoted_iff, fieldPlain_quoted_iff,
    inBuffer_set_iff "repacd.MAPConfig.FronthaulSSID" 160 (by decide),
    inBuffer_set_iff "repacd.MAPConfig.FronthaulKey" 161 (by decide),
    and_iff_left hconstant.1, and_iff_left hconstant.2]
  unfold IfaceReady QuotedReady FieldPlain fieldSize
  rw [formatted_some, formatted_some, utf8ByteSize_quoted, utf8ByteSize_quoted]
  constructor
  · rintro ⟨⟨hssid, hkey⟩, _, hplain⟩
    exact ⟨⟨by omega, hplain.1⟩, by omega, hplain.2⟩
  · rintro ⟨⟨hssid, hplainSsid⟩, hkey, hplainKey⟩
    exact ⟨⟨by omega, by omega⟩, ⟨by omega, by omega⟩, hplainSsid, hplainKey⟩

theorem needs_runControllerMode (h : Healthy w.files) (hready : NetworkReady w)
    (iface : WifiIface) :
    Needs (runControllerMode iface w) [] (SettingsReady w ∧ IfaceReady iface) := by
  have hconstant : (forall command, command ∈ controllerNetworkCommands ->
      InBuffer command.line) ∧ PlainLines controllerNetworkCommands := by
    unfold PlainLines
    decide +kernel
  have hneeds := ((needs_networkInit h hready).append
    ((needs_appUci controllerNetworkCommands).congr (iff_of_true hconstant trivial))).append
      (needs_controllerMeshCommands iface)
  rw [and_true, ← List.append_assoc] at hneeds
  exact hneeds

theorem clean_createMesh (h : Healthy w.files)
    (hready : (storedSetting w).mode ≠ some .controller -> NetworkReady w) :
    Clean [] (createMesh msgJson w) <->
      NameFits msgJson ∧ ((storedSetting w).mode ≠ some .controller ->
        forall iface, requestedIface msgJson = some iface ->
          SettingsReady w ∧ IfaceReady iface) := by
  unfold createMesh
  split
  · rename_i hmode
    rw [forall_prop_of_true hmode]
    exact clean_applyRecord fun iface _ =>
      clean_opened_payload (needs_runControllerMode h (hready hmode) iface)
  · rename_i hmode
    exact clean_respond.trans (and_iff_left fun h => absurd h hmode).symm

/-- While the mesh daemon is down only the name counts. -/
theorem clean_checkingDeamon {down running : Uses} {condition : Prop}
    (hdown : env.deamonIsRunning = false -> (Clean [] down <-> NameFits msgJson))
    (hrunning : env.deamonIsRunning = true ->
      (Clean [] running <-> NameFits msgJson ∧ condition)) :
    Clean [] (if env.deamonIsRunning = false then down else running) <->
      NameFits msgJson ∧ (env.deamonIsRunning = true -> condition) := by
  cases hdeamon : env.deamonIsRunning with
  | false =>
      rw [if_pos rfl, hdown hdeamon]
      exact (and_iff_left fun h => absurd h Bool.false_ne_true).symm
  | true =>
      rw [if_neg (by decide), forall_prop_of_true rfl]
      exact hrunning hdeamon

/-- The second name is put together as the first is. -/
theorem clean_respondDeamonDown (hname : downName msgJson = answerName msgJson) :
    Clean [] (respondDeamonDown msgJson) <-> NameFits msgJson := by
  have hrename : Needs (cvtReqNameToResName .answerName (downName msgJson)) [.answerName]
      (NameFits msgJson) := by
    rw [hname]
    exact ((needs_write 200 _).append (needs_release _)).congr (and_iff_left trivial)
  have hneeds := ((needs_receive msgJson).append hrename).append
    (needs_msgRespondFree .downName [.payload])
  have hnodup : ([.requestName, .answerName, .downName, .envelope, .payload] :
      List Block).Nodup := by
    decide
  refine hneeds.clean_iff.trans ((and_iff_left hnodup).trans ?_)
  rw [and_true, and_self]

/-- The name and the key stand in quotes; the other commands are constants. -/
theorem inBuffer_changeWifiIface_iff (ssid key : String) :
    (forall text, text ∈ (changeWifiIfaceCommands ssid key).map UciCommand.line ++
        ["/etc/init.d/repacd restart"] -> InBuffer text) <->
      ssid.utf8ByteSize <= 158 ∧ key.utf8ByteSize <= 159 := by
  have hconstant : InBuffer (UciCommand.set "repacd.MAPConfig.FirstConfigRequired"
        (some "'1'")).line ∧ InBuffer (UciCommand.commit "repacd").line ∧
      InBuffer "/etc/init.d/repacd restart" := by
    decide
  have hssid : InBuffer (UciCommand.set "repacd.MAPConfig.FronthaulSSID"
        (some ("'" ++ ssid ++ "'"))).line <-> ssid.utf8ByteSize <= 158 := by
    rw [inBuffer_set_iff _ 160 (by decide)]
    unfold fieldSize
    rw [formatted_some, utf8ByteSize_quoted]
    omega
  have hkey : InBuffer (UciCommand.set "repacd.MAPConfig.FronthaulKey"
        (some ("'" ++ key ++ "'"))).line <-> key.utf8ByteSize <= 159 := by
    rw [inBuffer_set_iff _ 161 (by decide)]
    unfold fieldSize
    rw [formatted_some, utf8ByteSize_quoted]
    omega
  rw [List.forall_mem_append, List.forall_mem_singleton, List.forall_mem_map,
    and_iff_left hconstant.2.2, ← hssid, ← hkey]
  unfold changeWifiIfaceCommands
  simp only [List.forall_mem_cons, List.not_mem_nil, false_implies, implies_true,
    and_true, hconstant]

theorem changeFits_iff {iface : WifiIface} {ssid key : String}
    (hssid : iface.ssid = some ssid) (hkey : iface.key = some key) :
    ChangeFits iface <-> ssid.utf8ByteSize <= 158 ∧ key.utf8ByteSize <= 159 := by
  constructor
  · intro hfits
    exact hfits ssid key hssid hkey
  · intro hfits ssid' key' hssid' hkey'
    rw [hssid] at hssid'
    rw [hkey] at hkey'
    cases hssid'
    cases hkey'
    exact hfits

theorem needs_changeWifiIface (iface : WifiIface) :
    Needs (changeWifiIface iface) [] (ChangeFits iface) := by
  unfold changeWifiIface
  split
  · rename_i ssid key hssid hkey
    apply (needs_writes 200 _).congr
    rw [changeFits_iff hssid hkey, ← inBuffer_changeWifiIface_iff]
    exact forall₂_congr fun text _ => Nat.lt_succ_iff
  · rename_i hnone
    apply needs_nil.congr
    apply iff_of_true trivial
    intro ssid key hssid hkey
    exact absurd hkey (hnone ssid key hssid)

/-- Nothing is done for a record that is not there. -/
theorem needs_whenPresent {α : Type} {record : Option α} {apply : α -> Uses}
    {condition : α -> Prop} (h : forall value, Needs (apply value) [] (condition value)) :
    Needs ((record.map apply).getD []) []
      (forall value, record = some value -> condition value) := by
  cases record with
  | none => exact needs_nil.congr (iff_of_true trivial fun _ hvalue => by cases hvalue)
  | some value =>
      apply (h value).congr
      simp only [Option.some_inj, forall_eq']

theorem clean_updateMesh
    (hname : env.deamonIsRunning = false -> downName msgJson = answerName msgJson)
    (hrequested : env.deamonIsRunning = true -> (storedSetting w).mode = some .controller ->
      requestedSetting msgJson ≠ none) :
    Clean [] (updateMesh env msgJson w) <->
      NameFits msgJson ∧ (env.deamonIsRunning = true ->
        (storedSetting w).mode = some .controller ->
        forall requested, requestedSetting msgJson = some requested ->
          appStrstr (storedSetting w).meshId requested.meshId = true ->
          forall iface, requestedIface msgJson = some iface -> ChangeFits iface) := by
  unfold updateMesh
  apply clean_checkingDeamon fun hdown => clean_respondDeamonDown (hname hdown)
  intro hrunning
  split
  · rename_i hmode
    exact clean_respond.trans (and_iff_left fun h => absurd h hmode).symm
  · rename_i hmode
    rw [not_not] at hmode
    rcases Option.ne_none_iff_exists'.mp (hrequested hrunning hmode) with
      ⟨requested, hsetting⟩
    rw [hsetting, forall_prop_of_true hmode]
    simp only [Option.some_inj, forall_eq']
    have hchange : Needs (if appStrstr (storedSetting w).meshId requested.meshId then
          ((requestedIface msgJson).map changeWifiIface).getD []
        else []) [] (appStrstr (storedSetting w).meshId requested.meshId = true ->
          forall iface, requestedIface msgJson = some iface -> ChangeFits iface) := by
      split
      · rename_i hfound
        rw [forall_prop_of_true hfound]
        exact needs_whenPresent needs_changeWifiIface
      · rename_i hfound
        exact needs_nil.congr (iff_of_true trivial fun h => absurd h hfound)
    have hrecords : forall b, b ∈ [Block.stored 0] ++ [] ++ [.payload] -> OfRecord b := by
      unfold OfRecord
      simp
    have hnodup : ([Block.stored 0] ++ [] ++ [Block.payload]).Nodup := by
      decide
    rw [List.append_assoc (receive msgJson), List.append_assoc (receive msgJson)]
    apply (clean_opened ((needs_release (Block.stored 0)).append hchange) hrecords).trans
    rw [and_iff_left hnodup, true_and]

/-- What was never allocated is released on every path that deletes the mesh. -/
theorem not_clean_of_releaseUnallocated {front back : Uses} {released : List Block} :
    ¬ Clean released (front ++ MemoryUse.releaseUnallocated :: back) := by
  rw [clean_append]
  rintro ⟨_, hsound, _⟩
  exact hsound

theorem clean_deleteMesh
    (hname : env.deamonIsRunning = false -> downName msgJson = answerName msgJson) :
    Clean [] (deleteMesh env msgJson w) <->
      NameFits msgJson ∧ (env.deamonIsRunning = true ->
        (storedSetting w).mode ≠ some .controller) := by
  unfold deleteMesh
  apply clean_checkingDeamon fun hdown => clean_respondDeamonDown (hname hdown)
  intro _
  split
  · rename_i hmode
    exact clean_respond.trans (and_iff_left hmode).symm
  · rename_i hmode
    refine iff_of_false ?_ fun h => hmode h.2
    rw [List.append_assoc (receive msgJson ++ runStandaloneMode w)]
    exact not_clean_of_releaseUnallocated

/-!
## Devices
-/

/-- Of the three paths the longest two end in eleven bytes. -/
theorem needs_paths (device : DeviceInfo) :
    Needs [.write 1024 (authenDir (formatted device.ezmId)),
        .write 1024 (Mqtt.caFileName (formatted device.ezmId)),
        .write 1024 (secretFileName (formatted device.ezmId))] ([] : List Block)
      (fieldSize device.ezmId <= 988) := by
  have hconstant : "/data/config/ezm/authen/".utf8ByteSize = 24 ∧
      "/cafile.pem".utf8ByteSize = 11 ∧ "/secret.txt".utf8ByteSize = 11 := by
    decide
  refine ((needs_write _ _).append ((needs_write _ _).append (needs_write _ _))).congr ?_
  unfold authenDir Mqtt.caFileName secretFileName fieldSize
  simp only [String.utf8ByteSize_append]
  omega

/-- By induction on the devices: what is done with one depends on its role and on
whether it can be reached, and so does going on. -/
theorem needs_pairDevices (message : Json) (devices : List DeviceInfo) :
    Needs (pairDevices env message devices) [] (PairingFits env message devices) := by
  induction devices with
  | nil => exact needs_nil
  | cons device rest ih =>
      unfold pairDevices PairingFits mqttPublishMessageToExternal
      split
      · rename_i hrole
        rw [forall_prop_of_true hrole]
        cases hreaches : env.reaches device.ip device.ezmId with
        | true =>
            have hneeds := ((needs_paths device).append (needs_write 4096
              (activationCmd env device message))).append ih
            refine hneeds.congr ?_
            rw [forall_prop_of_true rfl, and_assoc]
        | false =>
            have hneeds := ((needs_paths device).append needs_nil).append needs_nil
            refine hneeds.congr ?_
            simp
      · rename_i hrole
        exact needs_nil.congr (iff_of_true trivial fun h => absurd h hrole)

theorem clean_requestPairMeshDevices :
    Clean [] (requestPairMeshDevices env msgJson) <->
      NameFits msgJson ∧ (env.deamonIsRunning = true ->
        PairingFits env ((activation msgJson).getD .null)
          ((requestedDevices msgJson).getD [])) := by
  unfold requestPairMeshDevices
  apply clean_checkingDeamon fun _ => clean_respond
  intro _
  rw [List.append_assoc]
  exact clean_opened_payload (needs_pairDevices _ _)

theorem clean_requestDevicesAvailableForPairing :
    Clean [] (requestDevicesAvailableForPairing env msgJson w) <->
      NameFits msgJson ∧ (env.deamonIsRunning = true -> (firewallFiles w).Fit) := by
  unfold requestDevicesAvailableForPairing
  apply clean_checkingDeamon fun _ => clean_respond
  intro _
  rw [List.append_assoc]
  exact clean_opened_payload (needs_composed (.iptablesRefresh (firewallFiles w)))

theorem clean_deleteMeshDevices :
    Clean [] (deleteMeshDevices env msgJson w) <->
      NameFits msgJson ∧ (env.deamonIsRunning = true ->
        forall deleted, requestedDevices msgJson = some deleted ->
          findsDevice env deleted w = true ->
          (forall device, device ∈ deleted ->
            (subTopic device.ezmId).utf8ByteSize < 100) ∧
          forall polled, polled ∈ env.polled ->
            (devicesBefore env w).length <= polled.length) := by
  unfold deleteMeshDevices
  apply clean_checkingDeamon fun _ => clean_respond
  intro _
  apply clean_applyRecord
  intro deleted _
  split
  · rename_i hfinds
    rw [forall_prop_of_true hfinds]
    have htopics : Needs ((deleted.map fun device =>
        subTopic device.ezmId).map (.write 100) : Uses) [] _ :=
      (needs_writes 100 _).congr List.forall_mem_map
    split
    · rename_i hshort
      rcases List.any_eq_true.mp hshort with ⟨polled, hmem, hless⟩
      apply iff_of_false
      · rw [← List.append_assoc]
        exact not_clean_of_releaseUnallocated
      · rintro ⟨_, _, hpolled⟩
        exact absurd (of_decide_eq_true hless) (Nat.not_lt.mpr (hpolled polled hmem))
    · rename_i hshort
      have hpolled : forall polled, polled ∈ env.polled ->
          (devicesBefore env w).length <= polled.length := by
        intro polled hmem
        by_contra hless
        exact hshort (List.any_eq_true.mpr
          ⟨polled, hmem, decide_eq_true (Nat.lt_of_not_le hless)⟩)
      apply (clean_opened_payload htopics).trans
      rw [and_iff_left hpolled]
  · rename_i hfinds
    exact (clean_opened_payload needs_nil).trans
      (and_congr_right fun _ => iff_of_true trivial fun h => absurd h hfinds)

/-!
## Every handler
-/

/-- What a request that is decoded as an object carries. -/
theorem requestedDnsDhcp_of_dataFits {fits : DnsDhcp -> Prop}
    (h : DataFits msgJson Foundation.Json.isObject cvtJsonToDnsDhcp fits)
    {dnsDhcp : DnsDhcp} (hrequested : requestedDnsDhcp msgJson = some dnsDhcp) :
    fits dnsDhcp := by
  rcases h with ⟨data, hdata, hkind, hfits⟩
  unfold requestedDnsDhcp payload at hrequested
  rw [hdata] at hrequested
  have hdecoded : cvtJsonToData data .networkDnsDhcp =
      .dnsDhcp (cvtJsonToDnsDhcp (some data)) := if_pos hkind
  rw [Option.map_some, Option.bind_some, hdecoded] at hrequested
  cases hrequested
  exact hfits

/-- Where every pointer is there and the answer has its own name. -/
theorem clean_uses_iff (h : Healthy w.files) {handler : MessageHandler}
    (hfields : FieldsPresent env msgJson w handler)
    (hname : handler.replyName env msgJson = answerName msgJson) :
    Clean [] (uses env msgJson w handler) <->
      NameFits msgJson ∧ MemoryReady env msgJson w handler := by
  have hdown : checkedName env msgJson = answerName msgJson ->
      env.deamonIsRunning = false -> downName msgJson = answerName msgJson := by
    intro hchecked hdown
    rwa [checkedName, if_pos hdown] at hchecked
  cases handler with
  | createMesh =>
      apply clean_createMesh h
      intro hmode
      have hcreatable := hfields.2
      rw [if_neg hmode] at hcreatable
      exact hcreatable.ready.network
  | updateMesh =>
      apply clean_updateMesh (hdown hname)
      intro hrunning hmode
      have hup : ¬ env.deamonIsRunning = false := by
        rw [hrunning]
        decide
      unfold FieldsPresent at hfields
      rw [if_neg hup] at hfields
      have hupdatable := hfields.2
      rw [if_pos hmode] at hupdatable
      rcases hupdatable with ⟨requested, hrequested, _⟩
      rw [hrequested]
      exact Option.some_ne_none _
  | deleteMesh => exact clean_deleteMesh (hdown hname)
  | requestPairMeshDevices => exact clean_requestPairMeshDevices
  | requestDevicesAvailableForPairing => exact clean_requestDevicesAvailableForPairing
  | deleteMeshDevices => exact clean_deleteMeshDevices
  | requestActivateAgentDevice => exact absurd hfields id
  | requestInactivateAgentDevice => exact absurd hfields id
  | createLan => exact clean_createLan h
  | createWan => exact clean_createWan h
  | createDnsDhcp =>
      have hdata : DataFits msgJson Foundation.Json.isObject cvtJsonToDnsDhcp
          fun dnsDhcp => Applicable dnsDhcp ∧ Releasable dnsDhcp := hfields
      exact clean_createDnsDhcp h fun _ => requestedDnsDhcp_of_dataFits hdata
  | createStaticRoute => exact clean_createStaticRoute
  | deleteStaticRoute => exact clean_deleteStaticRoute
  | updateStaticRoutes => exact clean_updateStaticRoutes
  | updateDnatPortForwardingProfiles => exact clean_updateDnatPortForwardingProfiles
  | createDnatPortForwardingProfile => exact clean_createDnatPortForwardingProfile
  | deleteDnatPortForwardingProfile => exact clean_deleteDnatPortForwardingProfile
  | createDnatDmz => exact clean_createDnatDmz
  | createNovaServicesPortProfiles =>
      exact clean_createNovaServicesPortProfiles.trans (and_iff_left trivial).symm
  | _ => exact clean_respond.trans (and_iff_left trivial).symm

end

end Memory
end Api
end Noc
