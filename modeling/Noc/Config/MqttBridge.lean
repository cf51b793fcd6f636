import Noc.World

/-!
# The MQTT bridge

The client and server blocks `config/mqtt_bridge/mqtt_bridge.c` adds to the
broker's configuration file and cuts off again.
-/

namespace Noc
namespace Config

open Foundation
open Foundation.Exec
open Utils

inductive MqttBridgeRet where
  | fileNotFound
  | serverBridgeNotFound
  | serverBridgeExisted
  | clientBridgeExisted
  | clientBridgeNotFound
  | success
  deriving DecidableEq, Repr

/-!
## Blocks
-/

def mosquittoIpController : String := "192.168.123.1"
def mosquittoPortController : String := "1884"
def mosquittoPasswordFile : String := "/etc/mosquitto/password.pwd"
def mosquittoUsername : String := "mqtt-bridge"
def mosquittoPasswd : String := "novaintechs"

def serverBlock : String :=
  "\nlistener " ++ mosquittoPortController ++ " " ++ mosquittoIpController ++
    "\nallow_anonymous false\n" ++
    "password_file " ++ mosquittoPasswordFile ++ "\n "

def clientBlock : String :=
  "\nconnection mqtt-bridge \n" ++
    "address " ++ mosquittoIpController ++ ":" ++ mosquittoPortController ++
    " \n" ++
    "topic ezm/# both 1 \n" ++
    "topic hub/# both 1 \n" ++
    "topic zib/# both 1 \n" ++
    "topic zwa/# both 1 \n" ++
    "try_private false \n" ++
    "remote_username " ++ mosquittoUsername ++ "  \n" ++
    "remote_password " ++ mosquittoPasswd ++ "  \n"

/-!
## Looking a block up

Every look reads the file anew.  `read_line` leaves the count alone when the
file has no line, and the loops then run over a NULL array.
-/

/-- A line that is no comment and holds the pattern. -/
def isDirective (pattern line : String) : Bool :=
  line.toList.head? != some '#' && strstr line pattern

def listenerPattern : String := "listener " ++ mosquittoPortController

def confLines : Daemon (List String) := do
  let lines <- readLines .mosquittoConf
  field lines

def tokenAt (tokens : List String) (i : Nat) : Daemon String :=
  deref Fault.pastSplit tokens[i]?

/-- The last token of the listener's line. -/
def listenerIp (line : String) : Daemon String :=
  let listenerInfo := strtok ' ' line
  tokenAt listenerInfo (listenerInfo.length - 1)

/-- The second token of the address line, up to its first colon.  Only the
presence of a first token is tested. -/
def connectionIp (line : String) : Daemon (Option String) := do
  let brokerInfo := strtok ' ' line
  if 1 <= brokerInfo.length then
    let ipPort <- tokenAt brokerInfo 1
    let ip <- field (strtok ':' ipPort).head?
    return some ip
  else return none

def getListenerIpDefaultPort : Daemon (Option String) := do
  let lines <- confLines
  match lines.find? (isDirective listenerPattern) with
  | none => return none
  | some line =>
      let ip <- listenerIp line
      return some ip

def firstConnectionIp : List String -> Daemon (Option String)
  | [] => return none
  | line :: rest => do
      if isDirective "address" line then
        match <- connectionIp line with
        | some ip => return some ip
        | none => firstConnectionIp rest
      else firstConnectionIp rest

def getBridgeClientConnectionIp : Daemon (Option String) := do
  let lines <- confLines
  firstConnectionIp lines

def requestMqttBridgeClient : Daemon (Option String) :=
  getBridgeClientConnectionIp

def requestMqttBridgeServer : Daemon (Option String) :=
  getListenerIpDefaultPort

/-!
## Creating and deleting
-/

def createMqttBridgeServer : Daemon MqttBridgeRet := do
  if <- onFiles (checkFileExist .mosquittoConf) then
    match <- getListenerIpDefaultPort with
    | some _ => return .serverBridgeExisted
    | none =>
        let _ <- writeText serverBlock .mosquittoConf appendMode
        return .success
  else return .fileNotFound

def createMqttBridgeClient : Daemon MqttBridgeRet := do
  match <- getBridgeClientConnectionIp with
  | none =>
      let _ <- writeText clientBlock .mosquittoConf appendMode
      return .success
  | some _ => return .clientBridgeExisted

/-- The lines above the first directive with the pattern. -/
def linesAbove (pattern : String) (lines : List String) : List String :=
  lines.takeWhile fun line => !isDirective pattern line

/-- `rm`, then an `fopen` of one's own that does not take the mutex. -/
def rewriteConf (lines : List String) : Daemon Unit :=
  onFiles do
    if <- fopenWrite then
      modify (store .mosquittoConf (Body.text (joined '\n' lines)))
    else fail Fault.nullField

/-- Everything from the first directive with the pattern on is cut off. -/
def deleteBridge (pattern : String) : Daemon MqttBridgeRet := do
  let lines <- confLines
  if lines.any (isDirective pattern) then
    rewriteConf (linesAbove pattern lines)
    return .success
  else return .clientBridgeNotFound

def deleteMqttBridgeClient : Daemon MqttBridgeRet :=
  deleteBridge "connection"

def deleteMqttBridgeServer : Daemon MqttBridgeRet :=
  deleteBridge listenerPattern

/-!
## Steps of a mode switch
-/

def dropMqttBridgeClient : Daemon Unit := do
  if (<- requestMqttBridgeClient).isSome then
    let _ <- deleteMqttBridgeClient
    return ()
  else return ()

def dropMqttBridgeServer : Daemon Unit := do
  if (<- requestMqttBridgeServer).isSome then
    let _ <- deleteMqttBridgeServer
    return ()
  else return ()

def ensureMqttBridgeClient : Daemon Unit := do
  if (<- requestMqttBridgeClient).isSome then return ()
  else
    let _ <- createMqttBridgeClient
    return ()

def ensureMqttBridgeServer : Daemon Unit := do
  if (<- requestMqttBridgeServer).isSome then return ()
  else
    let _ <- createMqttBridgeServer
    return ()

/-!
## Results on a healthy file system

A look returns when the file has a line and, for the client, when the address
line names a broker.
-/

/-- The broker an address line names. -/
def brokerIp (line : String) : Option String :=
  (strtok ' ' line)[1]?.bind fun ipPort => (strtok ':' ipPort).head?

def NamesBroker (lines : List String) : Prop :=
  forall line, lines.find? (isDirective "address") = some line ->
    brokerIp line ≠ none

section

variable {w : World}

theorem wp_confLines (h : Healthy w.files)
    (post : List String -> World -> Prop) :
    wp confLines post w <->
      exists lines, w.lines .mosquittoConf = some lines ∧ post lines w := by
  unfold confLines field
  rw [wp_bind, wp_readLines h rfl, wp_deref]

theorem strtok_ne_nil_of_isDirective {pattern line : String} {c separator : Char}
    (hmem : c ∈ pattern.toList) (hc : c ≠ separator)
    (h : isDirective pattern line = true) : strtok separator line ≠ [] := by
  have hfound : strstr line pattern = true := by
    simp only [isDirective, Bool.and_eq_true] at h
    exact h.2
  have hline : c ∈ line.toList := (strstr_iff.mp hfound).subset hmem
  simpa [strtok] using tokensFrom_ne_nil_of_mem separator hline hc []

theorem wp_connectionIp {line : String} (h : isDirective "address" line = true)
    (post : Option String -> World -> Prop) :
    wp (connectionIp line) post w <->
      brokerIp line ≠ none ∧ post (brokerIp line) w := by
  have htokens : 1 <= (strtok ' ' line).length :=
    List.length_pos_of_ne_nil
      (strtok_ne_nil_of_isDirective (c := 'a') (by decide) (by decide) h)
  unfold connectionIp tokenAt field brokerIp
  rw [wp_ite, if_pos htokens, wp_bind, wp_deref]
  cases (strtok ' ' line)[1]? with
  | none => simp
  | some ipPort =>
      simp only [Option.some_inj, exists_eq_left', Option.bind_some, wp_bind,
        wp_deref]
      cases (strtok ':' ipPort).head? <;> simp

theorem wp_firstConnectionIp (lines : List String)
    (post : Option String -> World -> Prop) :
    wp (firstConnectionIp lines) post w <->
      NamesBroker lines ∧
        post ((lines.find? (isDirective "address")).bind brokerIp) w := by
  unfold NamesBroker
  induction lines with
  | nil => simp [firstConnectionIp]
  | cons line rest ih =>
      unfold firstConnectionIp
      cases hline : isDirective "address" line with
      | false => simpa [hline] using ih
      | true =>
          rw [if_pos rfl, wp_bind, wp_connectionIp hline]
          cases hip : brokerIp line with
          | none => simp [hline, hip]
          | some ip => simp [hline, hip]

theorem wp_requestMqttBridgeClient (h : Healthy w.files)
    (post : Option String -> World -> Prop) :
    wp requestMqttBridgeClient post w <->
      exists lines, w.lines .mosquittoConf = some lines ∧ NamesBroker lines ∧
        post ((lines.find? (isDirective "address")).bind brokerIp) w := by
  unfold requestMqttBridgeClient getBridgeClientConnectionIp
  rw [wp_bind, wp_confLines h]
  simp only [wp_firstConnectionIp]

/-- The listener's line always has a last token. -/
theorem wp_requestMqttBridgeServer (h : Healthy w.files)
    (post : Option String -> World -> Prop) :
    wp requestMqttBridgeServer post w <->
      exists lines, w.lines .mosquittoConf = some lines ∧
        post ((lines.find? (isDirective listenerPattern)).bind fun line =>
          (strtok ' ' line).getLast?) w := by
  unfold requestMqttBridgeServer getListenerIpDefaultPort
  rw [wp_bind, wp_confLines h]
  apply exists_congr
  intro lines
  apply and_congr_right
  intro _
  cases hfind : lines.find? (isDirective listenerPattern) with
  | none => simp
  | some line =>
      have hne : strtok ' ' line ≠ [] :=
        strtok_ne_nil_of_isDirective (c := 'l') (by decide) (by decide)
          (List.find?_some hfind)
      have hlast : listenerIp line w =
          .ok ((strtok ' ' line).getLast hne, w) := by
        apply run_of_wp
        show wp (deref Fault.pastSplit
          (strtok ' ' line)[(strtok ' ' line).length - 1]?) _ w
        rw [← List.getLast?_eq_getElem?, List.getLast?_eq_some_getLast hne]
        exact ⟨rfl, rfl⟩
      show wp (listenerIp line >>= _) post w <-> post (strtok ' ' line).getLast? w
      rw [wp_bind, wp_of_run hlast, List.getLast?_eq_some_getLast hne]
      rfl

/-- Cutting a block off leaves the lines above it. -/
def cutAbove (pattern : String) (lines : List String) (w : World) : World :=
  if lines.any (isDirective pattern) then
    w.storeText .mosquittoConf (joined '\n' (linesAbove pattern lines))
  else w

theorem wp_deleteBridge (h : Healthy w.files) (pattern : String)
    (post : MqttBridgeRet -> World -> Prop) :
    wp (deleteBridge pattern) post w <->
      exists lines, w.lines .mosquittoConf = some lines ∧
        post (if lines.any (isDirective pattern) then .success
          else .clientBridgeNotFound) (cutAbove pattern lines w) := by
  unfold deleteBridge
  rw [wp_bind, wp_confLines h]
  apply exists_congr
  intro lines
  apply and_congr_right
  intro _
  unfold cutAbove
  cases lines.any (isDirective pattern) with
  | false => rfl
  | true =>
      have hrewrite : rewriteConf (linesAbove pattern lines) w =
          .ok ((), w.storeText .mosquittoConf
            (joined '\n' (linesAbove pattern lines))) := by
        apply run_of_wp
        unfold rewriteConf onFiles fopenWrite
        rw [wp_zoom, wp_bind, wp_bind, wp_read, wp_bind, wp_modify,
          nextFopen_eq h.fopens, wp_pure]
        simp [h.fopens 0, World.storeText]
      rw [if_pos rfl, if_pos rfl, if_pos rfl, wp_bind, wp_of_run hrewrite]
      rfl

/-!
Dropping the client block first, then looking at the server block: both
switches of a mode that keeps no client start so.
-/

theorem isSome_of_namesBroker {lines : List String} (h : NamesBroker lines) :
    ((lines.find? (isDirective "address")).bind brokerIp).isSome =
      lines.any (isDirective "address") := by
  rw [← List.isSome_find?]
  cases hfind : lines.find? (isDirective "address") with
  | none => rfl
  | some line => exact Option.isSome_iff_ne_none.mpr (h line hfind)

def clientDropped (lines : List String) (w : World) : World :=
  if lines.any (isDirective "address") then cutAbove "connection" lines w
  else w

theorem wp_dropMqttBridgeClient (h : Healthy w.files)
    (post : Unit -> World -> Prop) :
    wp dropMqttBridgeClient post w <->
      exists lines, w.lines .mosquittoConf = some lines ∧ NamesBroker lines ∧
        post () (clientDropped lines w) := by
  unfold dropMqttBridgeClient deleteMqttBridgeClient
  rw [wp_bind, wp_requestMqttBridgeClient h]
  apply exists_congr
  intro lines
  apply and_congr_right
  intro hlines
  apply and_congr_right
  intro hnamed
  unfold clientDropped
  rw [isSome_of_namesBroker hnamed]
  cases lines.any (isDirective "address") with
  | false => rfl
  | true =>
      rw [if_pos rfl, if_pos rfl, wp_bind, wp_deleteBridge h]
      constructor
      · rintro ⟨lines', hlines', hpost⟩
        rw [hlines] at hlines'
        cases hlines'
        exact hpost
      · intro hpost
        exact ⟨lines, hlines, hpost⟩

theorem isSome_listener (lines : List String) :
    ((lines.find? (isDirective listenerPattern)).bind fun line =>
      (strtok ' ' line).getLast?).isSome =
        lines.any (isDirective listenerPattern) := by
  rw [← List.isSome_find?]
  cases hfind : lines.find? (isDirective listenerPattern) with
  | none => rfl
  | some line =>
      have hne : strtok ' ' line ≠ [] :=
        strtok_ne_nil_of_isDirective (c := 'l') (by decide) (by decide)
          (List.find?_some hfind)
      rw [Option.bind_some, List.getLast?_eq_some_getLast hne]
      rfl

theorem wp_dropMqttBridgeServer (h : Healthy w.files)
    (post : Unit -> World -> Prop) :
    wp dropMqttBridgeServer post w <->
      exists lines, w.lines .mosquittoConf = some lines ∧
        post () (cutAbove listenerPattern lines w) := by
  unfold dropMqttBridgeServer deleteMqttBridgeServer
  rw [wp_bind, wp_requestMqttBridgeServer h]
  apply exists_congr
  intro lines
  apply and_congr_right
  intro hlines
  rw [isSome_listener]
  cases hany : lines.any (isDirective listenerPattern) with
  | false =>
      have hkept : cutAbove listenerPattern lines w = w := by
        simp [cutAbove, hany]
      rw [hkept]
      rfl
  | true =>
      rw [if_pos rfl, wp_bind, wp_deleteBridge h]
      constructor
      · intro hends
        rcases hends with ⟨lines', hlines', hpost⟩
        rw [hlines] at hlines'
        cases hlines'
        exact hpost
      · intro hpost
        exact ⟨lines, hlines, hpost⟩

/-- The world with a block behind the file's text unless a line shows it. -/
def withBlock (block : String) (shown : Bool) (w : World) : World :=
  if shown then w else w.appendText .mosquittoConf block

theorem wp_ensureMqttBridgeServer (h : Healthy w.files)
    (post : Unit -> World -> Prop) :
    wp ensureMqttBridgeServer post w <->
      exists lines, w.lines .mosquittoConf = some lines ∧
        post () (withBlock serverBlock
          (lines.any (isDirective listenerPattern)) w) := by
  unfold ensureMqttBridgeServer createMqttBridgeServer
  rw [wp_bind, wp_requestMqttBridgeServer h]
  apply exists_congr
  intro lines
  apply and_congr_right
  intro hlines
  rw [isSome_listener]
  cases hany : lines.any (isDirective listenerPattern) with
  | true => rfl
  | false =>
      have hnone : ((lines.find? (isDirective listenerPattern)).bind fun line =>
          (strtok ' ' line).getLast?) = none := by
        rw [← Option.not_isSome_iff_eq_none, isSome_listener, hany]
        simp
      have hlook : getListenerIpDefaultPort w = .ok (none, w) :=
        run_of_wp ((wp_requestMqttBridgeServer h _).mpr
          ⟨lines, hlines, hnone, rfl⟩)
      unfold onFiles
      rw [if_neg Bool.false_ne_true, wp_bind, wp_bind, wp_zoom,
        wp_checkFileExist_of_healthy h rfl, if_pos rfl, wp_bind,
        wp_of_run hlook]
      show wp (writeText serverBlock .mosquittoConf appendMode >>= _) _ w <-> _
      rw [wp_bind, wp_appendText h]
      rfl

theorem wp_ensureMqttBridgeClient (h : Healthy w.files)
    (post : Unit -> World -> Prop) :
    wp ensureMqttBridgeClient post w <->
      exists lines, w.lines .mosquittoConf = some lines ∧ NamesBroker lines ∧
        post () (withBlock clientBlock
          (lines.any (isDirective "address")) w) := by
  unfold ensureMqttBridgeClient createMqttBridgeClient
  rw [wp_bind, wp_requestMqttBridgeClient h]
  apply exists_congr
  intro lines
  apply and_congr_right
  intro hlines
  apply and_congr_right
  intro hnamed
  rw [isSome_of_namesBroker hnamed]
  cases hany : lines.any (isDirective "address") with
  | true => rfl
  | false =>
      have hnone : (lines.find? (isDirective "address")).bind brokerIp =
          none := by
        rw [← Option.not_isSome_iff_eq_none, isSome_of_namesBroker hnamed, hany]
        simp
      have hlook : getBridgeClientConnectionIp w = .ok (none, w) :=
        run_of_wp ((wp_requestMqttBridgeClient h _).mpr
          ⟨lines, hlines, hnamed, hnone, rfl⟩)
      rw [if_neg Bool.false_ne_true, wp_bind, wp_bind, wp_of_run hlook]
      show wp (writeText clientBlock .mosquittoConf appendMode >>= _) _ w <-> _
      rw [wp_bind, wp_appendText h]
      rfl

/-- Both ways of treating the server block only need a line to look at. -/
theorem returns_dropMqttBridgeServer (h : Healthy w.files) :
    wp dropMqttBridgeServer (fun _ _ => True) w <->
      w.lines .mosquittoConf ≠ none := by
  rw [wp_dropMqttBridgeServer h, Option.ne_none_iff_exists']
  simp

theorem returns_ensureMqttBridgeServer (h : Healthy w.files) :
    wp ensureMqttBridgeServer (fun _ _ => True) w <->
      w.lines .mosquittoConf ≠ none := by
  rw [wp_ensureMqttBridgeServer h, Option.ne_none_iff_exists']
  simp

/-!
A file's lines are not empty, so the lines written back are read back.
-/

theorem mem_lines {file : DaemonFile} {lines : List String}
    (hlines : w.lines file = some lines) {line : String} (hmem : line ∈ lines) :
    line.toList ≠ [] ∧ '\n' ∉ line.toList := by
  unfold World.lines at hlines
  cases hcontent : w.files.content file with
  | none => simp [hcontent] at hlines
  | some body =>
      cases body with
      | json tree => simp [hcontent, Body.lines] at hlines
      | text content =>
          have hsplit : strtok '\n' content = lines := by
            by_cases hempty : strtok '\n' content = []
            · simp [hcontent, Body.lines, hempty] at hlines
            · simpa [hcontent, Body.lines, hempty] using hlines
          rw [← hsplit] at hmem
          exact mem_strtok hmem

theorem lines_cutAbove {pattern : String} {lines : List String}
    (hlines : w.lines .mosquittoConf = some lines) :
    (cutAbove pattern lines w).lines .mosquittoConf =
      if lines.any (isDirective pattern) then
        if linesAbove pattern lines = [] then none
        else some (linesAbove pattern lines)
      else some lines := by
  unfold cutAbove
  cases lines.any (isDirective pattern) with
  | false => exact hlines
  | true =>
      have hsplit : strtok '\n' (joined '\n' (linesAbove pattern lines)) =
          linesAbove pattern lines :=
        strtok_joined fun line hmem =>
          mem_lines hlines ((List.takeWhile_subset _) hmem)
      simp [World.lines, World.storeText, store, Body.lines, hsplit]

/-- What dropping the client leaves of the lines. -/
def linesLeft (lines : List String) : List String :=
  if lines.any (isDirective "address") ∧ lines.any (isDirective "connection")
    then linesAbove "connection" lines
  else lines

def BridgeReady (w : World) : Prop :=
  exists lines, w.lines .mosquittoConf = some lines ∧ NamesBroker lines ∧
    linesLeft lines ≠ []

theorem lines_clientDropped {lines : List String}
    (hlines : w.lines .mosquittoConf = some lines) :
    (clientDropped lines w).lines .mosquittoConf ≠ none <->
      linesLeft lines ≠ [] := by
  have hne : lines ≠ [] := by
    intro hempty
    unfold World.lines at hlines
    cases hcontent : w.files.content .mosquittoConf with
    | none => simp [hcontent] at hlines
    | some body =>
        rw [hcontent, Option.bind_some] at hlines
        split at hlines
        · cases hlines
        · rename_i hbody
          cases hlines
          exact hbody hempty
  unfold clientDropped linesLeft
  cases lines.any (isDirective "address") with
  | false => simp [hlines, hne]
  | true =>
      rw [if_pos rfl, lines_cutAbove hlines]
      cases lines.any (isDirective "connection") with
      | false => simp [hne]
      | true => simp

theorem healthy_clientDropped (h : Healthy w.files) (lines : List String) :
    Healthy (clientDropped lines w).files := by
  unfold clientDropped cutAbove
  split
  · split
    · exact h.store _ _
    · exact h
  · exact h

theorem returns_bridge {next : Daemon Unit}
    (hnext : forall w' : World, Healthy w'.files ->
      (wp next (fun _ _ => True) w' <-> w'.lines .mosquittoConf ≠ none))
    (h : Healthy w.files) :
    wp (dropMqttBridgeClient >>= fun _ => next) (fun _ _ => True) w <->
      BridgeReady w := by
  rw [wp_bind, wp_dropMqttBridgeClient h]
  apply exists_congr
  intro lines
  apply and_congr_right
  intro hlines
  rw [hnext _ (healthy_clientDropped h lines), lines_clientDropped hlines]

end

/-!
## What the steps leave alone
-/

section

variable {rel : World -> World -> Prop} [KeptByReads rel]

theorem respects_confLines : Respects rel confLines :=
  respects_bind (respects_readLines rfl) fun _ => respects_deref _ _

theorem respects_requestMqttBridgeServer :
    Respects rel requestMqttBridgeServer := by
  refine respects_bind respects_confLines ?_
  intro lines
  cases lines.find? (isDirective listenerPattern) with
  | none => exact respects_pure _
  | some line => exact respects_bind (respects_deref _ _) fun _ => respects_pure _

theorem respects_connectionIp (line : String) :
    Respects rel (connectionIp line) := by
  refine respects_ite ?_ (respects_pure _)
  exact respects_bind (respects_deref _ _) fun _ =>
    respects_bind (respects_deref _ _) fun _ => respects_pure _

theorem respects_firstConnectionIp (lines : List String) :
    Respects rel (firstConnectionIp lines) := by
  induction lines with
  | nil => exact respects_pure _
  | cons line rest ih =>
      refine respects_ite ?_ ih
      refine respects_bind (respects_connectionIp line) ?_
      intro ip
      cases ip with
      | none => exact ih
      | some ip => exact respects_pure _

theorem respects_requestMqttBridgeClient :
    Respects rel requestMqttBridgeClient :=
  respects_bind respects_confLines fun lines => respects_firstConnectionIp lines

end

section

variable {rel : World -> World -> Prop} {touched : List DaemonFile}
  [KeptByHelpers rel touched] (hconf : .mosquittoConf ∈ touched)

include hconf

theorem respects_rewriteConf (lines : List String) :
    Respects rel (rewriteConf lines) :=
  KeptByHelpers.rewrite hconf _

theorem respects_deleteBridge (pattern : String) :
    Respects rel (deleteBridge pattern) := by
  refine respects_bind respects_confLines ?_
  intro lines
  exact respects_ite
    (respects_bind (respects_rewriteConf hconf _) fun _ => respects_pure _)
    (respects_pure _)

theorem respects_dropMqttBridgeClient :
    Respects rel dropMqttBridgeClient := by
  refine respects_bind respects_requestMqttBridgeClient ?_
  intro ip
  exact respects_ite
    (respects_bind (respects_deleteBridge hconf _) fun _ => respects_pure _)
    (respects_pure _)

theorem respects_dropMqttBridgeServer :
    Respects rel dropMqttBridgeServer := by
  refine respects_bind respects_requestMqttBridgeServer ?_
  intro ip
  exact respects_ite
    (respects_bind (respects_deleteBridge hconf _) fun _ => respects_pure _)
    (respects_pure _)

theorem respects_createMqttBridgeServer :
    Respects rel createMqttBridgeServer := by
  refine respects_bind (KeptByReads.checkFileExist rfl) ?_
  intro exists_
  refine respects_ite ?_ (respects_pure _)
  refine respects_bind respects_requestMqttBridgeServer ?_
  intro ip
  cases ip with
  | none =>
      exact respects_bind (respects_writeText hconf _ (Or.inr rfl)) fun _ =>
        respects_pure _
  | some ip => exact respects_pure _

theorem respects_createMqttBridgeClient :
    Respects rel createMqttBridgeClient := by
  refine respects_bind respects_requestMqttBridgeClient ?_
  intro ip
  cases ip with
  | none =>
      exact respects_bind (respects_writeText hconf _ (Or.inr rfl)) fun _ =>
        respects_pure _
  | some ip => exact respects_pure _

theorem respects_ensureMqttBridgeServer :
    Respects rel ensureMqttBridgeServer := by
  refine respects_bind respects_requestMqttBridgeServer ?_
  intro ip
  exact respects_ite (respects_pure _)
    (respects_bind (respects_createMqttBridgeServer hconf) fun _ =>
      respects_pure _)

theorem respects_ensureMqttBridgeClient :
    Respects rel ensureMqttBridgeClient := by
  refine respects_bind respects_requestMqttBridgeClient ?_
  intro ip
  exact respects_ite (respects_pure _)
    (respects_bind (respects_createMqttBridgeClient hconf) fun _ =>
      respects_pure _)

end

end Config
end Noc
