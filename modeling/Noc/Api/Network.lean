import Noc.Api.Reply
import Noc.Network.Iptables.Store
import Noc.Network.Route.Store

/-!
# The network handlers

The handlers of `api/network`.  One kind answers with what it loads; the other
applies the record of the request and passes over a request that has none.
-/

namespace Noc
namespace Api

open Foundation
open Foundation.Exec
open Foundation.Json
open Mesh
open Network
open Utils

/-!
## The two kinds
-/

def requestSetting (env : Surroundings) (load : Daemon (ErrorCode × Data))
    (msgType : MsgType) (msgJson : Json) : Daemon Unit := do
  let (_, msgRespond) <- receive msgJson .empty
  let (err, data) <- load
  let msgRespond <- msgRespond.putData data
  let msgRespond := msgRespond.withError env err
  mqttPublishMessage msgRespond msgType
  msgRespondFree msgRespond msgType

/-- `apply` returns what the response's data becomes; for a handler that leaves
it alone that is the record itself. -/
def applyRecord {α : Type} (env : Surroundings) (record : Data -> Option α)
    (apply : α -> Daemon (ErrorCode × Data))
    (release : Option α -> Daemon Unit) (msgType : MsgType) (msgJson : Json) :
    Daemon Unit := do
  let (msgRequest, msgRespond) <- receive msgJson msgType
  let data <- field msgRequest.data
  match record data with
  | none =>
      release none
      msgRespondFree msgRespond msgType
  | some value =>
      let (err, result) <- apply value
      let msgRespond <- msgRespond.putData result
      let msgRespond := msgRespond.withError env err
      mqttPublishMessage msgRespond msgType
      release (some value)
      msgRespondFree msgRespond msgType

/-- Most handlers release nothing besides the response. -/
def keep {α : Type} (_ : Option α) : Daemon Unit :=
  return ()

/-- Pair an operation's code with the response's data. -/
def coded {α : Type} (wrap : α -> Data) (program : Daemon (ErrorCode × α)) :
    Daemon (ErrorCode × Data) := do
  let (err, value) <- program
  return (err, wrap value)

/-- An operation whose handler answers with the record it was given. -/
def given {α : Type} (wrap : α -> Data) (set : α -> Daemon ErrorCode)
    (value : α) : Daemon (ErrorCode × Data) := do
  let err <- set value
  return (err, wrap value)

/-!
## LAN and WAN
-/

def createLan (env : Surroundings) : Json -> Daemon Unit :=
  applyRecord env Data.toLan (given .lan lanSet) keep .networkLan

def requestLan (env : Surroundings) : Json -> Daemon Unit :=
  requestSetting env (coded .lan lanGet) .networkLan

def createWan (env : Surroundings) : Json -> Daemon Unit :=
  applyRecord env Data.toWan (given .wan wanSet) keep .networkWan

def requestWan (env : Surroundings) : Json -> Daemon Unit :=
  requestSetting env (coded .wan wanGet) .networkWan

/-!
## DNS and DHCP

The creation alone does not test its record.
-/

/-- Setting the pool splits the start address where it stands, so that it ends
behind its first piece. -/
def startIpSplit (dnsDhcp : DnsDhcp) : DnsDhcp :=
  { dnsDhcp with
    dhcp4 := dnsDhcp.dhcp4.map fun dhcp4 =>
      { dhcp4 with startIp := dhcp4.startIp.map (splitText '.') } }

def createDnsDhcp (env : Surroundings) (msgJson : Json) : Daemon Unit := do
  let (msgRequest, msgRespond) <- receive msgJson .networkDnsDhcp
  let data <- field msgRequest.data
  let dnsDhcp <- field data.toDnsDhcp
  let err <- dnsDhcpSet (some dnsDhcp)
  let msgRespond := (msgRespond.withData (.dnsDhcp (startIpSplit dnsDhcp))).withError
    env err
  mqttPublishMessage msgRespond .networkDnsDhcp
  msgRespondFree msgRespond .networkDnsDhcp

def requestDnsDhcp (env : Surroundings) : Json -> Daemon Unit :=
  requestSetting env
    (do
      let dnsDhcp <- dnsDhcpGetFromSettingFile
      return (.success, .dnsDhcp dnsDhcp))
    .networkDnsDhcp

def requestDhcp4Leases (env : Surroundings) : Json -> Daemon Unit :=
  requestSetting env (coded .dhcp4Lease dhcpLeaseGet) .networkDhcp4Leases

/-!
## Static routes

An update and a deletion release the list of the request as well.
-/

def createStaticRoute (env : Surroundings) : Json -> Daemon Unit :=
  applyRecord env Data.toRoutesList
    (fun routes => coded .routesList (routeCreate env.uuid routes)) keep
    .networkStaticRoute

def requestStaticRoutes (env : Surroundings) : Json -> Daemon Unit :=
  requestSetting env (coded .routesList routeRequest) .networkStaticRoute

def deleteStaticRoute (env : Surroundings) : Json -> Daemon Unit :=
  applyRecord env Data.toRoutesList
    (fun routes => coded .routesList (routeDelete routes)) routeListFree
    .networkStaticRoute

def updateStaticRoutes (env : Surroundings) : Json -> Daemon Unit :=
  applyRecord env Data.toRoutesList
    (fun routes => coded .routesList (routeUpdate routes)) routeListFree
    .networkStaticRoute

/-!
## Firewall
-/

def createDnatPortForwardingProfile (env : Surroundings) :
    Json -> Daemon Unit :=
  applyRecord env Data.toIptableList
    (fun iptables =>
      coded .iptableList (iptablesDnatForwardingCreate env.uuid iptables)) keep
    .iptablesDnatProfile

def requestDnatPortForwardingProfiles (env : Surroundings) :
    Json -> Daemon Unit :=
  requestSetting env (coded .iptableList iptablesDnatForwardingRequest)
    .iptablesDnatProfile

def updateDnatPortForwardingProfiles (env : Surroundings) :
    Json -> Daemon Unit :=
  applyRecord env Data.toIptableList
    (fun iptables =>
      coded .iptableList (iptablesDnatForwardingUpdate iptables)) keep
    .iptablesDnatProfile

def deleteDnatPortForwardingProfile (env : Surroundings) :
    Json -> Daemon Unit :=
  applyRecord env Data.toIptableList
    (fun iptables =>
      coded .iptableList (iptablesDnatForwardingDelete iptables)) keep
    .iptablesDnatProfile

def requestDnatDmz (env : Surroundings) : Json -> Daemon Unit :=
  requestSetting env (coded .iptable iptableDnatDmzRequestFromSettingFile)
    .iptablesDnatDmzProfile

def createDnatDmz (env : Surroundings) : Json -> Daemon Unit :=
  applyRecord env Data.toIptable (given .iptable iptableDnatDmzUpdate) keep
    .iptablesDnatDmzProfile

def createNovaServicesPortProfiles (env : Surroundings) :
    Json -> Daemon Unit :=
  applyRecord env Data.toIptableNovaServiceList
    (given .iptableNovaServiceList iptableNovaServiceSet) keep
    .iptableNovaServicePortProfile

def requestNovaServicesPortProfiles (env : Surroundings) :
    Json -> Daemon Unit :=
  requestSetting env
    (coded .iptableNovaServiceList iptableNovaServiceRequestFromSettingFile)
    .iptableNovaServicePortProfile

/-!
## When the two kinds answer
-/

/-- The request's `data` member is of a kind and decodes to what fits. -/
def DataFits {α : Type} (msgJson : Json) (isKind : Json -> Bool)
    (decode : Option Json -> α) (fits : α -> Prop) : Prop :=
  exists data, getItem (some msgJson) "data" = some data ∧
    isKind data = true ∧ fits (decode (some data))

section

variable {msgJson : Json} {msgType : MsgType} {msgRespond : MsgRespond}
  {env : Surroundings} {w after : World} {α : Type}

theorem answers_requestSetting {load : Daemon (ErrorCode × Data)}
    {err : ErrorCode} {data : Data} (hrouted : Routed msgJson)
    (hload : load w = .ok ((err, data), after))
    (hpublished : after.published = w.published) :
    Answers env msgJson (requestSetting env load msgType msgJson) w <->
      HasData msgJson ∧ Encodable (some data) msgType ∧
        Freeable (some data) msgType := by
  rcases run_receive (w := w) hrouted .empty with ⟨msgRespond, hopened, hrun⟩
  unfold Answers requestSetting
  rw [wp_bind, wp_of_run hrun]
  show wp (load >>= _) _ w <-> _
  rw [wp_bind, wp_of_run hload]
  show wp (msgRespond.putData data >>= _) _ after <-> _
  rw [wp_bind, wp_putData, hopened.hasData_iff]
  apply and_congr_right
  intro _
  exact wp_publish_free hpublished hopened.envelope (Option.some_ne_none _)

/-- A release that finds its pointer has no effect. -/
theorem bind_of_released {release next : Daemon Unit}
    (hrelease : forall w', release w' = .ok ((), w')) :
    (release >>= fun _ => next) = next := by
  funext w'
  exact bind_of_run (hrelease w') fun _ => next

theorem answers_applyRecord {record : Data -> Option α}
    {apply : α -> Daemon (ErrorCode × Data)}
    {release : Option α -> Daemon Unit} {isKind : Json -> Bool}
    {decode : Option Json -> α} {returns : α -> Prop}
    (out : α -> ErrorCode × Data) (after : α -> World)
    (hrouted : Routed msgJson)
    (hrecord : forall json, record (cvtJsonToData json msgType) =
      if isKind json then some (decode (some json)) else none)
    (happly : forall value post, wp (apply value) post w <->
      returns value ∧ post (out value) (after value))
    (hpublished : forall value, (after value).published = w.published)
    (hrespond : forall value, returns value ->
      Encodable (some (out value).2) msgType ∧
        Freeable (some (out value).2) msgType)
    (hrelease : forall value w', release (some value) w' = .ok ((), w'))
    (hkeeps : Respects (Beside []) (release none)) :
    Answers env msgJson
        (applyRecord env record apply release msgType msgJson) w <->
      DataFits msgJson isKind decode returns := by
  rcases run_receive (w := w) hrouted msgType with ⟨msgRespond, hopened, hrun⟩
  unfold Answers applyRecord DataFits
  rw [wp_bind, wp_of_run hrun]
  show wp (field (payload msgJson msgType) >>= _) _ w <-> _
  unfold field
  rw [wp_bind, wp_deref]
  have hdata := hopened.data
  unfold payload at hdata ⊢
  cases hitem : getItem (some msgJson) "data" with
  | none => simp
  | some json =>
      rw [hitem] at hdata
      simp only [Option.map_some, Option.some_inj, exists_eq_left']
      rw [hrecord]
      by_cases hkind : isKind json = true
      · rw [if_pos hkind]
        show wp (apply (decode (some json)) >>= _) _ w <-> _
        rw [wp_bind, happly, and_iff_right hkind]
        refine Iff.trans (and_congr_right ?_) (and_iff_left trivial)
        intro hreturns
        refine iff_of_true ?_ trivial
        show wp (msgRespond.putData (out (decode (some json))).2 >>= _) _ _
        rw [wp_bind, wp_putData]
        refine ⟨by simp [hdata], ?_⟩
        let answer := (msgRespond.withData (out (decode (some json))).2).withError
          env (out (decode (some json))).1
        show wp (mqttPublishMessage answer msgType >>= fun _ =>
          release (some (decode (some json))) >>= fun _ =>
            msgRespondFree answer msgType) _ _
        have henvelope : answer.envelope = envelope msgJson := hopened.envelope
        have herror : answer.respondData.error ≠ none := Option.some_ne_none _
        rw [bind_of_released (hrelease _),
          wp_publish_free (hpublished _) henvelope herror]
        exact hrespond _ hreturns
      · rw [if_neg hkind]
        refine iff_of_false ?_ (by simp [hkind])
        exact not_answers_of_respects
          (respects_bind hkeeps fun _ => respects_msgRespondFree)

theorem wp_coded {wrap : α -> Data} {program : Daemon (ErrorCode × α)}
    (post : ErrorCode × Data -> World -> Prop) :
    wp (coded wrap program) post w <->
      wp program (fun out w' => post (out.1, wrap out.2) w') w := by
  unfold coded
  rw [wp_bind]
  rfl

theorem run_coded {wrap : α -> Data} {program : Daemon (ErrorCode × α)}
    {err : ErrorCode} {value : α} (h : program w = .ok ((err, value), after)) :
    coded wrap program w = .ok ((err, wrap value), after) := by
  apply run_of_wp
  rw [wp_coded, wp_of_run h]
  exact ⟨rfl, rfl⟩

theorem wp_given {wrap : α -> Data} {set : α -> Daemon ErrorCode} (value : α)
    (post : ErrorCode × Data -> World -> Prop) :
    wp (given wrap set value) post w <->
      wp (set value) (fun err w' => post (err, wrap value) w') w := by
  unfold given
  rw [wp_bind]
  rfl

/-!
## LAN and WAN
-/

theorem answers_createLan (h : Healthy w.files) (hrouted : Routed msgJson) :
    Answers env msgJson (createLan env msgJson) w <->
      DataFits msgJson isObject cvtJsonToLan fun _ => True := by
  apply answers_applyRecord (fun lan => (.success, .lan lan))
    (fun lan => lanApplied lan w) hrouted
  · intro json
    cases json <;> rfl
  · intro value post
    rw [wp_given, wp_of_run (run_lanSet h value), true_and]
  · intro value
    rfl
  · intro value _
    exact ⟨Option.some_ne_none _, fun _ _ => trivial⟩
  · intro value w'
    rfl
  · exact respects_pure _

theorem answers_createWan (h : Healthy w.files) (hrouted : Routed msgJson) :
    Answers env msgJson (createWan env msgJson) w <->
      DataFits msgJson isObject cvtJsonToWan fun _ => True := by
  apply answers_applyRecord (fun wan => (.success, .wan wan))
    (fun wan => wanApplied wan w) hrouted
  · intro json
    cases json <;> rfl
  · intro value post
    rw [wp_given, wp_of_run (run_wanSet h value), true_and]
  · intro value
    rfl
  · intro value _
    exact ⟨Option.some_ne_none _, fun _ _ => trivial⟩
  · intro value w'
    rfl
  · exact respects_pure _

theorem answers_requestLan (h : Healthy w.files) (hrouted : Routed msgJson) :
    Answers env msgJson (requestLan env msgJson) w <-> HasData msgJson := by
  have hload : coded .lan lanGet w = .ok ((.success, .lan (storedLan w)), w) :=
    run_coded (run_lanGetFromLanSettingFile h)
  refine (answers_requestSetting hrouted hload rfl).trans ?_
  exact and_iff_left ⟨Option.some_ne_none _, fun _ _ => trivial⟩

theorem answers_requestWan (h : Healthy w.files) (hrouted : Routed msgJson) :
    Answers env msgJson (requestWan env msgJson) w <-> HasData msgJson := by
  have hload : coded .wan wanGet w = .ok ((.success, .wan (storedWan w)), w) :=
    run_coded (run_wanGetFromSettingFile h)
  refine (answers_requestSetting hrouted hload rfl).trans ?_
  exact and_iff_left ⟨Option.some_ne_none _, fun _ _ => trivial⟩

/-!
## DNS and DHCP

A configuration that can be released can be printed.
-/

theorem encodable_dnsDhcp_of_releasable {dnsDhcp : DnsDhcp}
    (h : Releasable dnsDhcp) :
    Encodable (some (.dnsDhcp dnsDhcp)) .networkDnsDhcp := by
  have hreadable : (dnsDhcp.dns.all fun dns => dns.forwardingDns.readable) =
      true := by
    unfold Releasable at h
    cases hdns : dnsDhcp.dns with
    | none => rfl
    | some dns =>
        have hcount := h dns hdns
        cases hservers : dns.forwardingDns with
        | servers list => simp [hservers, ServerArray.readable]
        | overwritten address count =>
            rw [hservers] at hcount
            have hzero : count = 0 := hcount
            simp [hservers, ServerArray.readable, hzero]
  simp [Encodable, cvtDataToJson, cvtUnionToJson, Data.toDnsDhcp,
    encodedDnsDhcp, hreadable]

theorem freeable_dnsDhcp_iff (dnsDhcp : DnsDhcp) :
    Freeable (some (.dnsDhcp dnsDhcp)) .networkDnsDhcp <->
      Releasable dnsDhcp := by
  simp [Freeable, Data.toDnsDhcp]

theorem sendable_dnsDhcp_iff (dnsDhcp : DnsDhcp) :
    Encodable (some (.dnsDhcp dnsDhcp)) .networkDnsDhcp ∧
      Freeable (some (.dnsDhcp dnsDhcp)) .networkDnsDhcp <->
    Releasable dnsDhcp := by
  rw [freeable_dnsDhcp_iff]
  exact and_iff_right_of_imp encodable_dnsDhcp_of_releasable

theorem answers_requestDnsDhcp (h : Healthy w.files)
    (hrouted : Routed msgJson) :
    Answers env msgJson (requestDnsDhcp env msgJson) w <->
      HasData msgJson ∧ Releasable (storedDnsDhcp w) := by
  have hload : (do
      let dnsDhcp <- dnsDhcpGetFromSettingFile
      return (.success, .dnsDhcp dnsDhcp) : Daemon (ErrorCode × Data)) w =
        .ok ((.success, .dnsDhcp (storedDnsDhcp w)), w) := by
    apply run_of_wp
    unfold dnsDhcpGetFromSettingFile
    rw [wp_bind, wp_bind, wp_readJson h rfl]
    exact ⟨rfl, rfl⟩
  refine (answers_requestSetting hrouted hload rfl).trans ?_
  exact and_congr_right' (sendable_dnsDhcp_iff _)

/-- Splitting the start address leaves the servers alone. -/
theorem releasable_startIpSplit_iff (dnsDhcp : DnsDhcp) :
    Releasable (startIpSplit dnsDhcp) <-> Releasable dnsDhcp :=
  Iff.rfl

theorem answers_createDnsDhcp (h : Healthy w.files)
    (hrouted : Routed msgJson) :
    Answers env msgJson (createDnsDhcp env msgJson) w <->
      DataFits msgJson isObject cvtJsonToDnsDhcp fun dnsDhcp =>
        Applicable dnsDhcp ∧ Releasable dnsDhcp := by
  rcases run_receive (w := w) hrouted .networkDnsDhcp with
    ⟨msgRespond, hopened, hrun⟩
  unfold Answers createDnsDhcp DataFits
  rw [wp_bind, wp_of_run hrun]
  show wp (field (payload msgJson .networkDnsDhcp) >>= _) _ w <-> _
  unfold field
  rw [wp_bind, wp_deref]
  unfold payload
  cases hitem : getItem (some msgJson) "data" with
  | none => simp
  | some json =>
      simp only [Option.map_some, Option.some_inj, exists_eq_left']
      cases json with
      | obj members =>
          let config := cvtJsonToDnsDhcp (some (.obj members))
          have hset : Respects (Beside [.dhcpSetting]) (dnsDhcpSet (some config)) :=
            respects_dnsDhcpSet List.mem_cons_self _
          have hanswer : forall err (w' : World), Beside [.dhcpSetting] w w' ->
              (wp (mqttPublishMessage ((msgRespond.withData
                    (.dnsDhcp (startIpSplit config))).withError env err)
                  .networkDnsDhcp >>= fun _ =>
                    msgRespondFree ((msgRespond.withData
                      (.dnsDhcp (startIpSplit config))).withError env err)
                      .networkDnsDhcp)
                (fun _ w'' =>
                  AnsweredBetween env msgJson w.published w''.published) w' <->
              Releasable config) := by
            intro err w' hbeside
            rw [← releasable_startIpSplit_iff, ← sendable_dnsDhcp_iff]
            exact wp_publish_free hbeside.published hopened.envelope
              (Option.some_ne_none _)
          show wp (deref Fault.nullField (some config) >>= _) _ w <-> _
          rw [wp_bind, wp_deref]
          simp only [Option.some_inj, exists_eq_left', isObject, true_and]
          refine (wp_bind_iff_of_respects hset (returns_dnsDhcpSet h _)
            hanswer).trans ?_
          simp only [Option.some_inj, exists_eq_left']
          rfl
      | _ => simp [cvtJsonToData, isObject, Data.toDnsDhcp]

theorem exists_run_dhcpLeaseGet (h : Healthy w.files) :
    exists err leases after, dhcpLeaseGet w = .ok ((err, leases), after) ∧
      after.published = w.published := by
  have hreturns : wp dhcpLeaseGet (fun _ w' => w'.published = w.published) w := by
    unfold dhcpLeaseGet readLines onFiles readLine
    rw [wp_bind, wp_zoom, wp_bind, wp_readData]
    refine ⟨h.unlocked, ?_⟩
    cases opened .dhcpLease w.files with
    | none => rfl
    | some body =>
        by_cases hlines : body.lines = []
        · simp [hlines]
        · simp [hlines]
  rcases wp_iff.mp hreturns with ⟨out, after, hrun, hpublished⟩
  exact ⟨out.1, out.2, after, hrun, hpublished⟩

/-- A lease file that is not there yet is no obstacle. -/
theorem answers_requestDhcp4Leases (h : Healthy w.files)
    (hrouted : Routed msgJson) :
    Answers env msgJson (requestDhcp4Leases env msgJson) w <->
      HasData msgJson := by
  rcases exists_run_dhcpLeaseGet h with ⟨err, leases, after, hrun, hpublished⟩
  have hload : coded .dhcp4Lease dhcpLeaseGet w =
      .ok ((err, .dhcp4Lease leases), after) := run_coded hrun
  refine (answers_requestSetting hrouted hload hpublished).trans ?_
  exact and_iff_left ⟨Option.some_ne_none _, fun _ _ => trivial⟩

/-!
## Static routes
-/

theorem returns_routeUpdate (h : Healthy w.files) (updates : List Route) :
    wp (routeUpdate updates) (fun _ w' => w'.published = w.published) w := by
  unfold routeUpdate
  rw [wp_bind, wp_of_run (run_routeRequestFromSettingFile h), wp_bind]
  have hloop := wp_routeLoop updateCommands updatedRoutes updates
    (fun _ _ w' => Healthy w'.files ∧ w'.published = w.published)
    (fun _ _ _ _ _ hinv => hinv) (storedRoutes w) false w ⟨h, rfl⟩
  refine wp_mono ?_ hloop
  rintro ⟨routes, foundId⟩ w' ⟨hw', hpublished⟩
  cases foundId with
  | false => exact hpublished
  | true =>
      show wp (routeSaveToSettingFile routes >>= _) _ w'
      rw [wp_bind, wp_of_run (run_routeSaveToSettingFile hw' routes)]
      exact hpublished

theorem returns_routeDelete (h : Healthy w.files) (deletes : List Route) :
    wp (routeDelete deletes) (fun _ w' => w'.published = w.published) w := by
  unfold routeDelete
  rw [wp_bind, wp_of_run (run_routeRequestFromSettingFile h), wp_bind]
  have hloop := wp_routeLoop deleteCommands remainingRoutes deletes
    (fun _ _ w' => Healthy w'.files ∧ w'.published = w.published)
    (fun _ _ _ _ _ hinv => hinv) (storedRoutes w) false w ⟨h, rfl⟩
  refine wp_mono ?_ hloop
  rintro ⟨routes, foundId⟩ w' ⟨hw', hpublished⟩
  show wp (routeSaveToSettingFile _ >>= _) _ w'
  rw [wp_bind, wp_of_run (run_routeSaveToSettingFile hw' _)]
  exact hpublished

/-- The three changes of the route list fit one record. -/
theorem answers_applyRoutes {apply : List Route -> Daemon (ErrorCode × List Route)}
    {release : Option (List Route) -> Daemon Unit} (hrouted : Routed msgJson)
    (hreturns : forall routes,
      wp (apply routes) (fun _ w' => w'.published = w.published) w)
    (hrelease : forall routes w', release (some routes) w' = .ok ((), w'))
    (hkeeps : Respects (Beside []) (release none)) :
    Answers env msgJson
        (applyRecord env Data.toRoutesList
          (fun routes => coded .routesList (apply routes)) release
          .networkStaticRoute msgJson) w <->
      DataFits msgJson isArray cvtJsonToRouteList fun _ => True := by
  have hruns : forall routes, exists out after,
      apply routes w = .ok (out, after) ∧ after.published = w.published :=
    fun routes => wp_iff.mp (hreturns routes)
  choose out after hrun using hruns
  apply answers_applyRecord
    (fun routes => ((out routes).1, .routesList (out routes).2)) after hrouted
  · intro json
    cases json <;> rfl
  · intro routes post
    rw [wp_coded, wp_of_run (hrun routes).1, true_and]
  · intro routes
    exact (hrun routes).2
  · intro routes _
    refine ⟨Option.some_ne_none _, ?_⟩
    rintro member hmember
    cases hmember
    exact Option.some_ne_none _
  · exact hrelease
  · exact hkeeps

theorem respects_routeListFree {touched : List DaemonFile}
    (routeList : Option (List Route)) :
    Respects (Beside touched) (routeListFree routeList) :=
  respects_bind (respects_deref _ _) fun _ => respects_pure _

theorem answers_createStaticRoute (h : Healthy w.files)
    (hrouted : Routed msgJson) :
    Answers env msgJson (createStaticRoute env msgJson) w <->
      DataFits msgJson isArray cvtJsonToRouteList fun _ => True := by
  apply answers_applyRoutes hrouted
  · intro routes
    rw [wp_of_run (run_routeCreate h env.uuid routes)]
    rfl
  · intro routes w'
    rfl
  · exact respects_pure _

theorem answers_updateStaticRoutes (h : Healthy w.files)
    (hrouted : Routed msgJson) :
    Answers env msgJson (updateStaticRoutes env msgJson) w <->
      DataFits msgJson isArray cvtJsonToRouteList fun _ => True :=
  answers_applyRoutes hrouted (returns_routeUpdate h) (fun _ _ => rfl)
    (respects_routeListFree none)

theorem answers_deleteStaticRoute (h : Healthy w.files)
    (hrouted : Routed msgJson) :
    Answers env msgJson (deleteStaticRoute env msgJson) w <->
      DataFits msgJson isArray cvtJsonToRouteList fun _ => True :=
  answers_applyRoutes hrouted (returns_routeDelete h) (fun _ _ => rfl)
    (respects_routeListFree none)

theorem answers_requestStaticRoutes (h : Healthy w.files)
    (hrouted : Routed msgJson) :
    Answers env msgJson (requestStaticRoutes env msgJson) w <->
      HasData msgJson := by
  have hload : coded .routesList routeRequest w =
      .ok ((.success, .routesList (storedRoutes w)), w) := by
    apply run_coded
    apply run_of_wp
    unfold routeRequest
    rw [wp_bind, wp_of_run (run_routeRequestFromSettingFile h)]
    exact ⟨rfl, rfl⟩
  refine (answers_requestSetting hrouted hload rfl).trans ?_
  refine and_iff_left ⟨Option.some_ne_none _, ?_⟩
  rintro member hmember
  cases hmember
  exact Option.some_ne_none _

/-!
## Firewall

Every change of the rules refreshes the firewall, which follows the ports of
every stored Nova service.
-/

theorem answers_applyForwarding
    {apply : List Iptable -> Daemon (ErrorCode × List Iptable)}
    {out : List Iptable -> ErrorCode × List Iptable}
    {after : List Iptable -> World} (hrouted : Routed msgJson)
    (happly : forall iptables post, wp (apply iptables) post w <->
      CarriesPortProfiles (storedNova w) ∧ post (out iptables) (after iptables))
    (hpublished : forall iptables, (after iptables).published = w.published) :
    Answers env msgJson
        (applyRecord env Data.toIptableList
          (fun iptables => coded .iptableList (apply iptables)) keep
          .iptablesDnatProfile msgJson) w <->
      DataFits msgJson isArray cvtJsonToIptableList fun _ =>
        CarriesPortProfiles (storedNova w) := by
  apply answers_applyRecord
    (fun iptables => ((out iptables).1, .iptableList (out iptables).2)) after
    hrouted
  · intro json
    cases json <;> rfl
  · intro iptables post
    rw [wp_coded, happly]
  · exact hpublished
  · intro iptables _
    exact ⟨Option.some_ne_none _, fun _ _ => trivial⟩
  · intro iptables w'
    rfl
  · exact respects_pure _

theorem answers_createDnatPortForwardingProfile (h : Healthy w.files)
    (hrouted : Routed msgJson) :
    Answers env msgJson (createDnatPortForwardingProfile env msgJson) w <->
      DataFits msgJson isArray cvtJsonToIptableList fun _ =>
        CarriesPortProfiles (storedNova w) :=
  answers_applyForwarding hrouted
    (fun _ => wp_iptablesDnatForwardingCreate h env.uuid _) fun _ => rfl

theorem answers_updateDnatPortForwardingProfiles (h : Healthy w.files)
    (hrouted : Routed msgJson) :
    Answers env msgJson (updateDnatPortForwardingProfiles env msgJson) w <->
      DataFits msgJson isArray cvtJsonToIptableList fun _ =>
        CarriesPortProfiles (storedNova w) :=
  answers_applyForwarding hrouted
    (fun _ => wp_iptablesDnatForwardingUpdate h _) fun _ => rfl

theorem answers_deleteDnatPortForwardingProfile (h : Healthy w.files)
    (hrouted : Routed msgJson) :
    Answers env msgJson (deleteDnatPortForwardingProfile env msgJson) w <->
      DataFits msgJson isArray cvtJsonToIptableList fun _ =>
        CarriesPortProfiles (storedNova w) :=
  answers_applyForwarding hrouted
    (fun _ => wp_iptablesDnatForwardingDelete h _) fun _ => rfl

theorem answers_requestDnatPortForwardingProfiles (h : Healthy w.files)
    (hrouted : Routed msgJson) :
    Answers env msgJson (requestDnatPortForwardingProfiles env msgJson) w <->
      HasData msgJson := by
  have hload : coded .iptableList iptablesDnatForwardingRequest w =
      .ok ((.success, .iptableList (storedForwarding w)), w) :=
    run_coded (run_iptablesDnatForwardingRequest h)
  refine (answers_requestSetting hrouted hload rfl).trans ?_
  exact and_iff_left ⟨Option.some_ne_none _, fun _ _ => trivial⟩

theorem answers_createDnatDmz (h : Healthy w.files) (hrouted : Routed msgJson) :
    Answers env msgJson (createDnatDmz env msgJson) w <->
      DataFits msgJson isObject cvtJsonToIptable fun _ =>
        CarriesPortProfiles (storedNova w) := by
  apply answers_applyRecord (fun iptables => (.success, .iptable iptables))
    (fun iptables => refreshed (storeDmz iptables w)) hrouted
  · intro json
    cases json <;> rfl
  · intro iptables post
    rw [wp_given, wp_iptableDnatDmzUpdate h]
  · intro iptables
    rfl
  · intro iptables _
    exact ⟨Option.some_ne_none _, fun _ _ => trivial⟩
  · intro iptables w'
    rfl
  · exact respects_pure _

theorem answers_requestDnatDmz (h : Healthy w.files)
    (hrouted : Routed msgJson) :
    Answers env msgJson (requestDnatDmz env msgJson) w <-> HasData msgJson := by
  have hload : coded .iptable iptableDnatDmzRequestFromSettingFile w =
      .ok ((.success, .iptable (storedDmz w)), w) := by
    apply run_coded
    apply run_of_wp
    unfold iptableDnatDmzRequestFromSettingFile
    rw [wp_bind, wp_readJson h rfl]
    exact ⟨rfl, rfl⟩
  refine (answers_requestSetting hrouted hload rfl).trans ?_
  exact and_iff_left ⟨Option.some_ne_none _, fun _ _ => trivial⟩

theorem encodable_novaServices_iff (services : List IptableNovaService) :
    Encodable (some (.iptableNovaServiceList services))
        .iptableNovaServicePortProfile <->
      CarriesPortProfiles services := by
  have hencode := cvtIptableNovaServiceListToJson_eq_none_iff services
  simp [Encodable, cvtDataToJson, cvtUnionToJson, Data.toIptableNovaServiceList,
    hencode]

theorem answers_createNovaServicesPortProfiles (h : Healthy w.files)
    (hrouted : Routed msgJson) :
    Answers env msgJson (createNovaServicesPortProfiles env msgJson) w <->
      DataFits msgJson isArray cvtJsonToIptableNovaServiceList
        CarriesPortProfiles := by
  apply answers_applyRecord
    (fun services => (.internalServer, .iptableNovaServiceList services))
    (fun services => w.storeJson .iptablesNovaSetting
      ((cvtIptableNovaServiceListToJson services).getD .null)) hrouted
  · intro json
    cases json <;> rfl
  · intro services post
    have hencode := cvtIptableNovaServiceListToJson_eq_none_iff services
    rw [wp_given, wp_iptableNovaServiceSet h]
    cases htree : cvtIptableNovaServiceListToJson services with
    | none => simp [hencode.mp htree]
    | some tree =>
        have hcarries : CarriesPortProfiles services := by
          by_contra hnot
          rw [hencode.mpr hnot] at htree
          cases htree
        simp [hcarries]
  · intro services
    rfl
  · intro services hcarries
    exact ⟨(encodable_novaServices_iff services).mpr hcarries,
      fun _ _ => trivial⟩
  · intro services w'
    rfl
  · exact respects_pure _

theorem answers_requestNovaServicesPortProfiles (h : Healthy w.files)
    (hrouted : Routed msgJson) :
    Answers env msgJson (requestNovaServicesPortProfiles env msgJson) w <->
      HasData msgJson ∧ CarriesPortProfiles (storedNova w) := by
  have hload : coded .iptableNovaServiceList
      iptableNovaServiceRequestFromSettingFile w =
        .ok ((.success, .iptableNovaServiceList (storedNova w)), w) := by
    apply run_coded
    apply run_of_wp
    unfold iptableNovaServiceRequestFromSettingFile
    rw [wp_bind, wp_readJson h rfl]
    exact ⟨rfl, rfl⟩
  refine (answers_requestSetting hrouted hload rfl).trans ?_
  rw [encodable_novaServices_iff]
  exact and_congr_right' (and_iff_left fun _ _ => trivial)

end

end Api
end Noc
