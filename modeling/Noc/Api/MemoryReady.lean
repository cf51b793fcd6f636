import Noc.Api.ReleasedOnce
import Noc.Network.Buffer.Sizes

/-!
# Requests that keep to their memory

For each handler, what a request and the stored files have to be like for every
text to stay in its array, every format to take no argument and every block to be
released once.
-/

namespace Noc
namespace Api
namespace Memory

open Foundation
open Foundation.Exec
open Foundation.Json
open Mesh
open Network
open Network.Buffer
open Utils

/-!
## Conditions
-/

def NameFits (msgJson : Json) : Prop :=
  (answerName msgJson).utf8ByteSize < 200

def LanReady (lan : Lan) : Prop :=
  LanFits lan ∧ LanPlain lan

def WanReady (wan : Wan) : Prop :=
  WanFits wan ∧ WanPlain wan

/-- For a configuration that can be applied and forwards nothing. -/
def DnsDhcpReady (dnsDhcp : DnsDhcp) : Prop :=
  (forall dns, dnsDhcp.dns = some dns -> DnsDhcpFits dns dnsDhcp.dhcp4) ∧
    DnsDhcpPlain dnsDhcp

/-- What is applied again when the mode is switched. -/
structure SettingsReady (w : World) : Prop where
  dnsDhcp : DnsDhcpReady (storedDnsDhcp w)
  firewall : (firewallFiles w).Fit
  lan : LanReady (storedLan w)
  wan : WanReady (storedWan w)

/-- A text of 127 bytes with its quotes. -/
def QuotedReady (field : Option String) : Prop :=
  fieldSize field <= 125 ∧ FieldPlain field

def IfaceReady (iface : WifiIface) : Prop :=
  QuotedReady iface.ssid ∧ QuotedReady iface.key

/-- Nothing is changed unless both fields are there. -/
def ChangeFits (iface : WifiIface) : Prop :=
  forall ssid key, iface.ssid = some ssid -> iface.key = some key ->
    ssid.utf8ByteSize <= 158 ∧ key.utf8ByteSize <= 159

def PairingFits (env : Surroundings) (message : Json) : List DeviceInfo -> Prop
  | [] => True
  | device :: rest =>
      device.role = some "standalone" -> fieldSize device.ezmId <= 988 ∧
        (env.reaches device.ip device.ezmId = true ->
          (activationCmd env device message).utf8ByteSize < 4096 ∧
            PairingFits env message rest)

def RouteTextsPlain (routes : List Route) : Prop :=
  forall route, route ∈ routes -> forall text, text ∈ routeTexts route ->
    takesNoArgument text = true

def withForwarding (iptables : List Iptable) (w : World) : FirewallFiles :=
  { firewallFiles w with forwarding := iptables }

/-- The name apart, which is put together in every handler. -/
def MemoryReady (env : Surroundings) (msgJson : Json) (w : World) :
    MessageHandler -> Prop
  | .createMesh => (storedSetting w).mode ≠ some .controller ->
      forall iface, requestedIface msgJson = some iface ->
        SettingsReady w ∧ IfaceReady iface
  | .updateMesh => env.deamonIsRunning = true ->
      (storedSetting w).mode = some .controller ->
      forall requested, requestedSetting msgJson = some requested ->
        appStrstr (storedSetting w).meshId requested.meshId = true ->
        forall iface, requestedIface msgJson = some iface -> ChangeFits iface
  | .deleteMesh => env.deamonIsRunning = true ->
      (storedSetting w).mode ≠ some .controller
  | .requestPairMeshDevices => env.deamonIsRunning = true ->
      PairingFits env ((activation msgJson).getD .null)
        ((requestedDevices msgJson).getD [])
  | .requestDevicesAvailableForPairing => env.deamonIsRunning = true ->
      (firewallFiles w).Fit
  | .deleteMeshDevices => env.deamonIsRunning = true ->
      forall deleted, requestedDevices msgJson = some deleted ->
        findsDevice env deleted w = true ->
        (forall device, device ∈ deleted ->
          (subTopic device.ezmId).utf8ByteSize < 100) ∧
        forall polled, polled ∈ env.polled ->
          (devicesBefore env w).length <= polled.length
  | .requestActivateAgentDevice | .requestInactivateAgentDevice => False
  | .createLan => forall lan, requestedLan msgJson = some lan -> LanReady lan
  | .createWan => forall wan, requestedWan msgJson = some wan -> WanReady wan
  | .createDnsDhcp => forall dnsDhcp, requestedDnsDhcp msgJson = some dnsDhcp ->
      DnsDhcpReady dnsDhcp
  | .createStaticRoute => forall creates, requestedRoutes msgJson = some creates ->
      (forall route, route ∈ creates -> RouteFits route) ∧
        RouteTextsPlain (storedRoutes w ++ createdRoutes env.uuid creates)
  | .deleteStaticRoute => forall deletes, requestedRoutes msgJson = some deletes ->
      DeletesFit deletes (storedRoutes w) ∧ DeletesOnce deletes (storedRoutes w)
  | .updateStaticRoutes => forall updates, requestedRoutes msgJson = some updates ->
      FindsNone updates (storedRoutes w)
  | .updateDnatPortForwardingProfiles =>
      forall updates, requestedForwarding msgJson = some updates ->
        (withForwarding ((storedForwarding w).map fun iptables =>
          (inPlaceOf updates iptables).1) w).Fit ∧
        UpdatesOnce updates (storedForwarding w)
  | .createDnatPortForwardingProfile =>
      forall creates, requestedForwarding msgJson = some creates ->
        (withForwarding (storedForwarding w ++ createdProfiles env.uuid creates) w).Fit
  | .deleteDnatPortForwardingProfile =>
      forall deletes, requestedForwarding msgJson = some deletes ->
        (withForwarding (deletes.foldl deleteProfile (storedForwarding w)) w).Fit
  | .createDnatDmz => forall dmz, requestedDmz msgJson = some dmz ->
      { firewallFiles w with dmz := dmz : FirewallFiles }.Fit
  | .createNovaServicesPortProfiles | .requestMesh | .requestMeshDevices
  | .updateMeshDevices | .requestMeshQuality | .requestLan | .requestWan
  | .requestDnsDhcp | .requestDhcp4Leases | .requestStaticRoutes
  | .requestDnatPortForwardingProfiles | .requestDnatDmz
  | .requestNovaServicesPortProfiles => True

/-!
## Pieces of a handler
-/

section

variable {env : Surroundings} {msgJson : Json} {w : World}

theorem needs_receive (msgJson : Json) :
    Needs (receive msgJson) [.requestName] (NameFits msgJson) :=
  ((needs_write 200 _).append (needs_release _)).congr (and_iff_left trivial)

theorem needs_msgRespondFree (name : Block) (payload : List Block) :
    Needs (msgRespondFree name payload) (name :: .envelope :: payload) True :=
  needs_releases _

theorem needs_composed (call : Call) : Needs (composed call) [] call.Fits := by
  refine (needs_writes 200 _).congr ?_
  rw [← inBuffer_emitted_iff]
  unfold InBuffer
  exact forall₂_congr fun text _ => Nat.lt_succ_iff

theorem needs_logged {α : Type} (program : Daemon α) :
    Needs (logged program w) [] (PlainLines (handed program w)) :=
  (needs_prints _).congr List.forall_mem_map

theorem needs_appUci (commands : List UciCommand) :
    Needs (appUci commands) []
      ((forall command, command ∈ commands -> InBuffer command.line) ∧
        PlainLines commands) := by
  refine ((needs_writes 200 _).append (needs_prints _)).congr ?_
  rw [List.forall_mem_map, List.forall_mem_map]
  exact and_congr_left fun _ => forall₂_congr fun command _ => Nat.lt_succ_iff

theorem needs_lanSet (h : Healthy w.files) (lan : Lan) :
    Needs (lanSet lan w) [] (LanReady lan) := by
  have hlogged : PlainLines (handed (Network.lanSet lan) w) <-> LanPlain lan := by
    rw [handed_lanSet h]
    exact plainLines_lan_iff lan
  exact (needs_composed _).append ((needs_logged _).congr hlogged)

theorem needs_wanSet (h : Healthy w.files) (wan : Wan) :
    Needs (wanSet wan w) [] (WanReady wan) := by
  have hlogged : PlainLines (handed (Network.wanSet wan) w) <-> WanPlain wan := by
    rw [handed_wanSet h]
    exact plainLines_wan_iff wan
  exact (needs_composed _).append ((needs_logged _).congr hlogged)

theorem needs_dnsDhcpSet (h : Healthy w.files) {dnsDhcp : DnsDhcp}
    (happlicable : Applicable dnsDhcp) (hreleasable : Releasable dnsDhcp) :
    Needs (dnsDhcpSet dnsDhcp w) [] (DnsDhcpReady dnsDhcp) := by
  rcases happlicable.dns with ⟨dns, hdns, hthere, _⟩
  rcases Option.ne_none_iff_exists'.mp happlicable.dhcp4 with ⟨dhcp4, hdhcp4⟩
  rcases exists_map_some hthere with ⟨servers, hservers⟩
  have hlogged : PlainLines (handed (Network.dnsDhcpSet (some dnsDhcp)) w) <->
      DnsDhcpPlain dnsDhcp := by
    rw [handed_of_run (run_dnsDhcpSet_of_releasable h happlicable.readable hdns hdhcp4
      hservers hreleasable) rfl, plainLines_dnsDhcp_iff hservers]
    constructor
    · rintro ⟨hdnsPlain, hdhcp4Plain⟩
      constructor
      · intro other hother
        rw [hdns] at hother
        cases hother
        exact hdnsPlain
      · intro other hother
        rw [hdhcp4] at hother
        cases hother
        exact hdhcp4Plain
    · intro hplain
      exact ⟨hplain.dns dns hdns, hplain.dhcp4 dhcp4 hdhcp4⟩
  have hfits : (Call.dnsDhcpSet dnsDhcp).Fits <->
      forall dns, dnsDhcp.dns = some dns -> DnsDhcpFits dns dnsDhcp.dhcp4 :=
    forall_prop_of_true happlicable.readable
  exact ((needs_composed _).congr hfits).append ((needs_logged _).congr hlogged)

/-- Whatever a handler does between its opening and the release of its answer. -/
theorem clean_opened {body : Uses} {blocks payload : List Block} {condition : Prop}
    (hbody : Needs body blocks condition)
    (hrecords : forall b, b ∈ blocks ++ payload -> OfRecord b) :
    Clean [] (receive msgJson ++ (body ++ msgRespondFree .answerName payload)) <->
      NameFits msgJson ∧ condition ∧ (blocks ++ payload).Nodup := by
  have hneeds := (needs_receive msgJson).append
    (hbody.append (needs_msgRespondFree .answerName payload))
  have hperm : (Block.requestName :: (blocks ++ .answerName :: .envelope :: payload)).Perm
      (.requestName :: .answerName :: .envelope :: (blocks ++ payload)) :=
    (List.perm_middle.trans (List.perm_middle.cons _)).cons _
  have hfresh : forall b, ¬ OfRecord b -> b ∉ blocks ++ payload :=
    fun b hb hmem => hb (hrecords b hmem)
  have hnodup : (Block.requestName :: .answerName :: .envelope :: (blocks ++ payload)).Nodup <->
      (blocks ++ payload).Nodup := by
    simp only [List.nodup_cons, List.mem_cons, reduceCtorEq, false_or, true_and,
      hfresh .requestName id, hfresh .answerName id, hfresh .envelope id, not_false_iff]
  rw [hneeds.clean_iff, and_true, and_assoc]
  exact and_congr_right fun _ => and_congr_right fun _ => hperm.nodup_iff.trans hnodup

/-- A handler that releases its payload as a whole. -/
theorem clean_opened_payload {body : Uses} {condition : Prop}
    (hbody : Needs body [] condition) :
    Clean [] (receive msgJson ++ (body ++ msgRespondFree .answerName [.payload])) <->
      NameFits msgJson ∧ condition := by
  have hpayload : forall b, b ∈ ([] ++ [Block.payload] : List Block) -> OfRecord b := by
    intro b hmem
    rw [List.mem_singleton.mp hmem]
    trivial
  rw [clean_opened hbody hpayload]
  exact and_congr_right fun _ => and_iff_left (List.nodup_singleton _)

theorem clean_respond : Clean [] (respond msgJson) <-> NameFits msgJson :=
  (clean_opened_payload needs_nil).trans (and_iff_left trivial)

theorem clean_applyRecord {α : Type} {record : Option α} {apply : α -> Uses}
    {condition : α -> Prop}
    (h : forall value, record = some value ->
      (Clean [] (receive msgJson ++ apply value) <->
        NameFits msgJson ∧ condition value)) :
    Clean [] (applyRecord msgJson record apply) <->
      NameFits msgJson ∧ forall value, record = some value -> condition value := by
  cases record with
  | none => exact clean_respond.trans (and_iff_left fun _ hvalue => by cases hvalue).symm
  | some value =>
      refine (h value rfl).trans (and_congr_right fun _ => ?_)
      simp only [Option.some_inj, forall_eq']

/-!
## Network
-/

theorem clean_createLan (h : Healthy w.files) :
    Clean [] (createLan msgJson w) <->
      NameFits msgJson ∧ forall lan, requestedLan msgJson = some lan -> LanReady lan :=
  clean_applyRecord fun lan _ => clean_opened_payload (needs_lanSet h lan)

theorem clean_createWan (h : Healthy w.files) :
    Clean [] (createWan msgJson w) <->
      NameFits msgJson ∧ forall wan, requestedWan msgJson = some wan -> WanReady wan :=
  clean_applyRecord fun wan _ => clean_opened_payload (needs_wanSet h wan)

theorem clean_createDnsDhcp (h : Healthy w.files)
    (hset : forall dnsDhcp, requestedDnsDhcp msgJson = some dnsDhcp ->
      Applicable dnsDhcp ∧ Releasable dnsDhcp) :
    Clean [] (createDnsDhcp msgJson w) <->
      NameFits msgJson ∧ forall dnsDhcp, requestedDnsDhcp msgJson = some dnsDhcp ->
        DnsDhcpReady dnsDhcp :=
  clean_applyRecord fun dnsDhcp hrequested =>
    clean_opened_payload (needs_dnsDhcpSet h (hset dnsDhcp hrequested).1
      (hset dnsDhcp hrequested).2)

/-!
## Static routes
-/

theorem all_strings_cvtRouteToJson (route : Route) :
    (strings (cvtRouteToJson route)).all takesNoArgument =
      (routeTexts route).all takesNoArgument := by
  have hkeys : takesNoArgument "id" = true ∧ takesNoArgument "interface" = true ∧
      takesNoArgument "ip_mask" = true ∧ takesNoArgument "target_ip" = true ∧
      takesNoArgument "name" = true := by
    decide
  have htext : forall (key : String) (field : Option String),
      takesNoArgument key = true ->
      ((ofString field).map fun value =>
        takesNoArgument key && (strings value).all takesNoArgument).getD true =
        (field.map takesNoArgument).getD true := by
    intro key field hkey
    cases field with
    | none => rfl
    | some text =>
        show (takesNoArgument key && (takesNoArgument text && true)) = takesNoArgument text
        rw [hkey, Bool.true_and, Bool.and_true]
  have hreduced : forall fields : List (Option String),
      fields.reduceOption.all takesNoArgument =
        fields.all fun field => (field.map takesNoArgument).getD true := by
    intro fields
    unfold List.reduceOption
    rw [List.all_filterMap]
    congr 1
    funext field
    cases field <;> rfl
  unfold cvtRouteToJson routeTexts
  rw [all_strings_mkObject, hreduced]
  simp only [List.all_cons, List.all_nil, htext _ _ hkeys.1, htext _ _ hkeys.2.1,
    htext _ _ hkeys.2.2.1, htext _ _ hkeys.2.2.2.1, htext _ _ hkeys.2.2.2.2]

/-- The list of the answer is a format of the texts in it. -/
theorem takesNoArgument_routeList_iff (routes : List Route) :
    takesNoArgument (cvtRouteListToJson routes).text = true <-> RouteTextsPlain routes := by
  rw [takesNoArgument_text]
  show (itemStrings (routes.map cvtRouteToJson)).all takesNoArgument = true <-> _
  rw [itemStrings_map, List.all_flatMap, List.all_eq_true]
  apply forall₂_congr
  intro route _
  rw [all_strings_cvtRouteToJson, List.all_eq_true]

theorem clean_createStaticRoute :
    Clean [] (createStaticRoute env msgJson w) <->
      NameFits msgJson ∧ forall creates, requestedRoutes msgJson = some creates ->
        (forall route, route ∈ creates -> RouteFits route) ∧
          RouteTextsPlain (storedRoutes w ++ createdRoutes env.uuid creates) := by
  apply clean_applyRecord
  intro creates _
  let created := createdRoutes env.uuid creates
  let blocks := released holdsRouteText
    (placed .stored (storedRoutes w) ++ placed .requested created)
  have hbody := (needs_composed (.routeCreate creates 0)).append
    ((needs_print (cvtRouteListToJson (storedRoutes w ++ created)).text).congr
      (takesNoArgument_routeList_iff _))
  have hrecords : forall b, b ∈ [] ++ [] ++ blocks -> OfRecord b :=
    fun b hmem => ofRecord_of_cases (record_of_mem_created hmem)
  exact (clean_opened hbody hrecords).trans
    (and_congr_right fun _ => and_iff_left nodup_created)

theorem needs_routeListFree (routes : List (Block × Route)) :
    Needs (routeListFree routes) (released holdsRouteText routes) True :=
  needs_releases _

theorem clean_deleteStaticRoute :
    Clean [] (deleteStaticRoute msgJson w) <->
      NameFits msgJson ∧ forall deletes, requestedRoutes msgJson = some deletes ->
        DeletesFit deletes (storedRoutes w) ∧ DeletesOnce deletes (storedRoutes w) := by
  apply clean_applyRecord
  intro deletes _
  have hbody := (needs_composed (.routeDelete deletes (storedRoutes w) 0)).append
    (needs_routeListFree (placed .requested deletes))
  have hrecords : forall b, b ∈ ([] ++ released holdsRouteText (placed .requested deletes)) ++
      released holdsRouteText
        (deletedRoutes deletes (placed .stored (storedRoutes w))) -> OfRecord b := by
    intro b hmem
    rcases List.mem_append.mp hmem with hmem | hmem
    · exact ofRecord_of_cases (Or.inl (requested_of_mem_released hmem))
    · exact ofRecord_of_cases
        (Or.inr (stored_of_mem_released (deletedRoutes_subset _) hmem))
  refine (clean_opened hbody hrecords).trans (and_congr_right fun _ => ?_)
  rw [and_true, List.nil_append, nodup_delete_iff]
  rfl

/-- Where nothing is found no command is composed. -/
theorem updatesFit_of_findsNone {updates stored : List Route}
    (h : FindsNone updates stored) : UpdatesFit updates stored := by
  induction updates with
  | nil => trivial
  | cons update rest ih =>
      have hnone := h update List.mem_cons_self
      have hfind : stored.find? (matchesId update) = none :=
        List.find?_eq_none.mpr fun route hmem => by simp [hnone route hmem]
      have hsame : updatedRoutes update stored = stored :=
        updateFirst_of_forall_not hnone _
      constructor
      · intro index hindex
        rw [hfind] at hindex
        cases hindex
      · rw [hsame]
        exact ih fun other hmem => h other (List.mem_cons_of_mem update hmem)

/-- An update that finds a route releases the texts of its record twice. -/
theorem clean_updateStaticRoutes :
    Clean [] (updateStaticRoutes msgJson w) <->
      NameFits msgJson ∧ forall updates, requestedRoutes msgJson = some updates ->
        FindsNone updates (storedRoutes w) := by
  apply clean_applyRecord
  intro updates _
  have hbody := (needs_composed (.routeUpdate updates (storedRoutes w) 0)).append
    (needs_routeListFree (placed .requested updates))
  have hrecords : forall b, b ∈ ([] ++ released holdsRouteText (placed .requested updates)) ++
      released holdsRouteText (updatedList (placed .requested updates)
        (placed .stored (storedRoutes w))) -> OfRecord b := by
    intro b hmem
    apply ofRecord_of_cases
    rcases List.mem_append.mp hmem with hmem | hmem
    · exact Or.inl (requested_of_mem_released hmem)
    · rcases mem_released.mp hmem with ⟨record, hrecord, _, rfl⟩
      rcases List.mem_append.mp (updatedList_subset _ _ hrecord) with hrecord | hrecord
      · exact Or.inl (exists_of_mem_placed hrecord)
      · exact Or.inr (exists_of_mem_placed hrecord)
  refine (clean_opened hbody hrecords).trans (and_congr_right fun _ => ?_)
  rw [and_true, List.nil_append, nodup_update_iff]
  exact and_iff_right_of_imp updatesFit_of_findsNone

/-!
## Firewall
-/

theorem firewallFiles_storeForwarding (iptables : List Iptable) :
    firewallFiles (storeForwarding iptables w) = withForwarding iptables w := by
  unfold firewallFiles withForwarding
  rw [storedForwarding_storeForwarding, storedNova_storeForwarding]
  rfl

theorem firewallFiles_storeDmz (iptables : Iptable) :
    firewallFiles (storeDmz iptables w) = { firewallFiles w with dmz := iptables } := by
  unfold firewallFiles
  rw [storedDmz_storeDmz, storedNova_storeDmz]
  rfl

/-- A change to the list of profiles, which is written before the firewall is
rebuilt. -/
theorem clean_forwarding (call : FirewallFiles -> Call)
    {iptables : List (Block × Iptable)} {changed : List Iptable}
    (hfits : forall files, (call files).Fits <-> files.Fit)
    (hchanged : iptables.map Prod.snd = changed)
    (hrecords : forall b, b ∈ released holdsProfileText iptables -> OfRecord b) :
    Clean [] (receive msgJson ++
        (composed (call (firewallFiles (storeForwarding (iptables.map Prod.snd) w))) ++
          respondForwarding iptables)) <->
      NameFits msgJson ∧ (withForwarding changed w).Fit ∧
        (released holdsProfileText iptables).Nodup := by
  have hbody := (needs_composed (call (firewallFiles
    (storeForwarding (iptables.map Prod.snd) w)))).congr (hfits _)
  rw [hchanged, firewallFiles_storeForwarding] at hbody ⊢
  exact clean_opened hbody hrecords

theorem clean_createDnatPortForwardingProfile :
    Clean [] (createDnatPortForwardingProfile env msgJson w) <->
      NameFits msgJson ∧ forall creates, requestedForwarding msgJson = some creates ->
        (withForwarding (storedForwarding w ++
          createdProfiles env.uuid creates) w).Fit := by
  apply clean_applyRecord
  intro creates _
  have hchanged : (placed Block.stored (storedForwarding w) ++
      placed .requested (createdProfiles env.uuid creates)).map Prod.snd =
      storedForwarding w ++ createdProfiles env.uuid creates := by
    rw [List.map_append, map_snd_placed, map_snd_placed]
  dsimp only
  rw [← hchanged]
  refine (clean_forwarding (.forwardingCreate 0) (fun _ => forall_prop_of_true rfl) rfl
    fun b hmem => ofRecord_of_cases (record_of_mem_created hmem)).trans ?_
  exact and_congr_right fun _ => and_iff_left nodup_created

theorem clean_updateDnatPortForwardingProfiles :
    Clean [] (updateDnatPortForwardingProfiles msgJson w) <->
      NameFits msgJson ∧ forall updates, requestedForwarding msgJson = some updates ->
        (withForwarding ((storedForwarding w).map fun iptables =>
          (inPlaceOf updates iptables).1) w).Fit ∧
        UpdatesOnce updates (storedForwarding w) := by
  apply clean_applyRecord
  intro updates _
  refine (clean_forwarding (.forwardingUpdate updates (storedForwarding w) 0)
    (fun _ => forall_prop_of_true rfl) map_snd_updatedProfiles
    fun b hmem => ofRecord_of_cases (record_of_mem_updatedProfiles hmem)).trans ?_
  rw [nodup_updatedProfiles_iff]

theorem clean_deleteDnatPortForwardingProfile :
    Clean [] (deleteDnatPortForwardingProfile msgJson w) <->
      NameFits msgJson ∧ forall deletes, requestedForwarding msgJson = some deletes ->
        (withForwarding (deletes.foldl deleteProfile (storedForwarding w)) w).Fit := by
  apply clean_applyRecord
  intro deletes _
  have hchanged := map_snd_remainingProfiles deletes
    (placed .stored (storedForwarding w))
  rw [map_snd_placed] at hchanged
  have hsub := remainingProfiles_sublist deletes (placed .stored (storedForwarding w))
  refine (clean_forwarding (.forwardingDelete deletes (storedForwarding w) 0)
    (fun _ => forall_prop_of_true rfl) hchanged fun b hmem =>
      ofRecord_of_cases (Or.inr (stored_of_mem_released hsub.subset hmem))).trans ?_
  exact and_congr_right fun _ => and_iff_left
    (nodup_released ((nodup_placed stored_injective).sublist (hsub.map _)))

theorem clean_createDnatDmz :
    Clean [] (createDnatDmz msgJson w) <->
      NameFits msgJson ∧ forall dmz, requestedDmz msgJson = some dmz ->
        { firewallFiles w with dmz := dmz : FirewallFiles }.Fit := by
  apply clean_applyRecord
  intro dmz _
  have hfits : (Call.dmzUpdate 0 (firewallFiles (storeDmz dmz w))).Fits <->
      { firewallFiles w with dmz := dmz : FirewallFiles }.Fit := by
    rw [firewallFiles_storeDmz]
    exact forall_prop_of_true (by decide)
  exact clean_opened_payload ((needs_composed _).congr hfits)

theorem clean_createNovaServicesPortProfiles :
    Clean [] (createNovaServicesPortProfiles msgJson) <-> NameFits msgJson := by
  have h : Clean [] (createNovaServicesPortProfiles msgJson) <->
      NameFits msgJson ∧ forall services, requestedNova msgJson = some services -> True :=
    clean_applyRecord fun services _ =>
      clean_opened_payload (needs_composed (.novaServiceSet services 0))
  exact h.trans (and_iff_left fun _ _ => trivial)

end

end Memory
end Api
end Noc
