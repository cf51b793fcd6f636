import Noc.Network.Buffer.Composing
import Noc.Network.Iptables.Ports

/-!
# Lengths of composed commands

A buffer of 200 bytes holds a text of 199, counted in UTF-8.  No setter compares
lengths, so its commands fit exactly when the fields that go into them are short
enough, each command with the room its constant part leaves.
-/

namespace Noc
namespace Network
namespace Buffer

open Api
open Foundation
open Foundation.Output
open Utils

def InBuffer (text : String) : Prop :=
  text.utf8ByteSize <= 199

instance (text : String) : Decidable (InBuffer text) :=
  inferInstanceAs (Decidable (_ <= _))

/-- Every text is in its buffer, or the setting is rejected before one is
composed. -/
def Call.Bounded (call : Call) : Prop :=
  (forall text, text ∈ call.run.emitted -> InBuffer text) ∨
    exists err, err ≠ .success ∧ call.run.result = some err ∧ call.run.emitted = []

/-!
## Short enough
-/

def fieldSize (field : Option String) : Nat :=
  (formatted field).utf8ByteSize

/-- What a field takes behind its flag. -/
def optionalSize (field : Option String) : Nat :=
  match field with
  | some value => if value = "" then 0 else 4 + value.utf8ByteSize
  | none => 0

def RouteFits (route : Route) : Prop :=
  fieldSize route.ipMask + fieldSize route.targetIp + fieldSize route.interface <= 176

/-- An update that finds a route deletes that one and adds its own. -/
def UpdatesFit : List Route -> List Route -> Prop
  | [], _ => True
  | update :: rest, setting =>
      (forall index, setting.find? (matchesId update) = some index ->
        RouteFits index ∧ RouteFits update) ∧
      UpdatesFit rest (updatedRoutes update setting)

/-- A deletion that finds a route deletes what the request says. -/
def DeletesFit : List Route -> List Route -> Prop
  | [], _ => True
  | delete :: rest, setting =>
      (setting.any (matchesId delete) = true -> RouteFits delete) ∧
      DeletesFit rest (remainingRoutes delete setting)

def PortProfileFits (iptables : Iptable) : Prop :=
  openable iptables = true ->
    fieldSize iptables.protocol + fieldSize iptables.portRange +
      optionalSize iptables.ipMask + optionalSize iptables.interface <= 159

/-- The profiles after one that ends the loop do not count. -/
def PortProfilesFit (profiles : List Iptable) : Prop :=
  forall iptables, iptables ∈ passed profiles -> PortProfileFits iptables

def DmzFits (iptables : Iptable) : Prop :=
  iptables.enable = true ->
    optionalSize iptables.ipMask + fieldSize iptables.dnatIp <= 135

/-- The services up to the first without port profiles, which ends the refresh. -/
def reached (services : List IptableNovaService) : List (List Iptable) :=
  (services.takeWhile fun service => service.portProfiles.isSome).map fun service =>
    service.portProfiles.getD []

structure FirewallFiles.Fit (files : FirewallFiles) : Prop where
  dmz : DmzFits files.dmz
  forwarding : PortProfilesFit files.forwarding
  nova : forall profiles, profiles ∈ reached files.nova -> PortProfilesFit profiles

def HostnameFits (customHostname : CustomHostname) : Prop :=
  fieldSize customHostname.domain + fieldSize customHostname.ip <= 159

/-- What the servers before the first NULL take, each behind its comma. -/
def serversSize : List (Option String) -> Nat
  | some server :: rest => 1 + server.utf8ByteSize + serversSize rest
  | _ => 0

/-- A NULL server stops the setter before the option is handed to UCI. -/
def AdditionalFits (servers : List (Option String)) : Prop :=
  if none ∈ servers then serversSize servers <= 197 else serversSize servers <= 164

def ForwardingFits (dns : Dns) : Prop :=
  dns.forwardingDnsEnabled = true -> forall servers,
    dns.forwardingDns.entries = some servers ->
      forall server, server ∈ servers -> fieldSize server <= 162

def ClientFits (client : DhcpInfo) : Prop :=
  fieldSize client.hostName <= 171 ∧ fieldSize client.mac <= 172 ∧
    fieldSize client.ip <= 173

/-- The last of four pieces of the start address. -/
def PoolFits (dhcp4 : Dhcp4) : Prop :=
  match (dhcp4.startIp.map (strtok '.')).getD [] with
  | [_, _, _, start] => start.utf8ByteSize <= 176
  | _ => True

structure Dhcp4Fits (dhcp4 : Dhcp4) : Prop where
  relay : dhcp4.relayEnabled = true ->
    fieldSize dhcp4.relayLocalAddress <= 164 ∧
      fieldSize dhcp4.relayServerAddress <= 163
  clients : forall client, client ∈ dhcp4.staticDhcp4Clients -> ClientFits client
  pool : PoolFits dhcp4

/-- Each part counts when none before it stops the setter. -/
structure DnsDhcpFits (dns : Dns) (dhcp4 : Option Dhcp4) : Prop where
  hostnames : forall customHostname, customHostname ∈ dns.customHostname ->
    HostnameFits customHostname
  additional : AdditionalFits dns.additionalDns
  forwarding : none ∉ dns.additionalDns -> ForwardingFits dns
  dhcp4 : none ∉ dns.additionalDns ->
    (dns.forwardingDnsEnabled = true -> dns.forwardingDns.entries ≠ none) ->
      forall record, dhcp4 = some record -> Dhcp4Fits record

def LanFits (lan : Lan) : Prop :=
  ¬ (lan.bridgeApMode && appStrstr lan.proto (some "dhcp")) = true ->
    fieldSize lan.ipaddr <= 172 ∧ fieldSize lan.netmask <= 171 ∧
      fieldSize lan.proto <= 173

def WanFits (wan : Wan) : Prop :=
  fieldSize wan.proto <= 173 ∧ fieldSize wan.ipaddr <= 172

/-- A setter of the firewall composes only when its save is not refused, and that
of the Nova services never. -/
def Call.Fits : Call -> Prop
  | .routeCreate creates _ => forall route, route ∈ creates -> RouteFits route
  | .routeUpdate updates setting _ => UpdatesFit updates setting
  | .routeDelete deletes setting _ => DeletesFit deletes setting
  | .dmzUpdate ret files => ret ≠ -1 -> files.Fit
  | .forwardingCreate ret files => ret = 0 -> files.Fit
  | .forwardingUpdate _ _ ret files => ret = 0 -> files.Fit
  | .forwardingDelete _ _ ret files => ret = 0 -> files.Fit
  | .novaServiceSet _ _ => True
  | .iptablesRefresh files => files.Fit
  | .dnsDhcpSet dnsDhcp =>
      (dnsDhcp.dns.all fun dns => dns.forwardingDns.readable) = true ->
        forall dns, dnsDhcp.dns = some dns -> DnsDhcpFits dns dnsDhcp.dhcp4
  | .lanSet lan _ => LanFits lan
  | .wanSet wan _ => WanFits wan

/-!
## Buffers
-/

section

variable {text cmd src flag : String} {field : Option String}

theorem inBuffer_of_append (h : InBuffer (text ++ src)) : InBuffer text := by
  unfold InBuffer at h ⊢
  rw [String.utf8ByteSize_append] at h
  omega

theorem always_sprintf (text : String) (post : String -> Prop) :
    always InBuffer (sprintf text) post <-> InBuffer text ∧ post text := by
  unfold sprintf
  rw [always_bind, always_emit, always_pure]

theorem always_appUci (commands : List UciCommand) (post : Unit -> Prop) :
    always InBuffer (appUci commands) post <->
      (forall command, command ∈ commands -> InBuffer command.line) ∧ post () :=
  always_each_emit UciCommand.line commands post

theorem always_execlIpRoute (commands : List IpRouteCommand) (post : Unit -> Prop) :
    always InBuffer (execlIpRoute commands) post <->
      (forall command, command ∈ commands -> InBuffer command.line) ∧ post () :=
  always_each_emit IpRouteCommand.line commands post

/-- Where the text before fits, it is the text after that counts. -/
theorem always_strcatOptional (hcmd : InBuffer cmd) (post : String -> Prop) :
    always InBuffer (strcatOptional flag field cmd) post <->
      InBuffer (cmd ++ optionalText flag field) ∧
        post (cmd ++ optionalText flag field) := by
  cases field with
  | none =>
      show always InBuffer (pure cmd) post <-> _
      rw [always_pure]
      unfold optionalText
      rw [String.append_empty, and_iff_right hcmd]
  | some value =>
      unfold strcatOptional optionalText strcat
      dsimp only
      by_cases hempty : value = ""
      · rw [if_pos hempty, if_pos hempty, always_pure, String.append_empty,
          and_iff_right hcmd]
      · have htext : cmd ++ (" " ++ flag ++ " ") ++ value =
            cmd ++ (" " ++ flag ++ " " ++ value) := by
          simp only [String.append_assoc]
        rw [if_neg hempty, if_neg hempty, always_bind, always_sprintf,
          always_sprintf, htext, and_iff_right_of_imp]
        intro h
        apply inBuffer_of_append
        rw [htext]
        exact h.1

end

/-!
## Lines
-/

section

variable {flag protocol portRange : String} {field : Option String}

theorem utf8ByteSize_optionalText (hflag : flag.utf8ByteSize = 2) :
    (optionalText flag field).utf8ByteSize = optionalSize field := by
  have hblank : " ".utf8ByteSize = 1 := by decide
  cases field with
  | none => rfl
  | some value =>
      unfold optionalText optionalSize
      dsimp only
      split
      · rfl
      · simp only [String.utf8ByteSize_append]
        omega

theorem inBuffer_ipRoute_iff {command : IpRouteCommand} {route : Route}
    (h : command = .add route.triple ∨ command = .del route.triple) :
    InBuffer command.line <-> RouteFits route := by
  have hconstant : "ip route add ".utf8ByteSize = 13 ∧
      "ip route del ".utf8ByteSize = 13 ∧ " via ".utf8ByteSize = 5 ∧
      " dev ".utf8ByteSize = 5 := by
    decide
  unfold InBuffer RouteFits fieldSize
  rcases h with rfl | rfl
  · simp only [IpRouteCommand.line, composed, Route.triple, String.utf8ByteSize_append]
    omega
  · simp only [IpRouteCommand.line, composed, Route.triple, String.utf8ByteSize_append]
    omega

theorem inBuffer_openPortCmd_iff (iptables : Iptable) :
    InBuffer (openPortCmd protocol portRange iptables) <->
      protocol.utf8ByteSize + portRange.utf8ByteSize + optionalSize iptables.ipMask +
        optionalSize iptables.interface <= 159 := by
  have hconstant : "iptables -A INPUT -p ".utf8ByteSize = 21 ∧
      " --dport ".utf8ByteSize = 9 ∧ " -j ACCEPT".utf8ByteSize = 10 := by
    decide
  unfold InBuffer openPortCmd
  simp only [String.utf8ByteSize_append,
    utf8ByteSize_optionalText (show "-s".utf8ByteSize = 2 by decide),
    utf8ByteSize_optionalText (show "-i".utf8ByteSize = 2 by decide)]
  omega

theorem inBuffer_dmzCmd_iff (iptables : Iptable) :
    InBuffer (dmzCmd iptables) <->
      optionalSize iptables.ipMask + fieldSize iptables.dnatIp <= 135 := by
  have hconstant : "iptables -t nat -A PREROUTING  -i ".utf8ByteSize +
      wanInterface.utf8ByteSize + " -j DNAT --to-destination ".utf8ByteSize = 64 := by
    decide
  unfold InBuffer dmzCmd fieldSize
  simp only [String.utf8ByteSize_append,
    utf8ByteSize_optionalText (show "-s".utf8ByteSize = 2 by decide)]
  omega

/-- The room that is left behind `uci set args=`. -/
theorem inBuffer_set_iff {value : Option String} (args : String) (room : Nat)
    (hroom : args.utf8ByteSize + room = 190) :
    InBuffer (UciCommand.set args value).line <-> fieldSize value <= room := by
  have hconstant : "uci set ".utf8ByteSize = 8 ∧ "=".utf8ByteSize = 1 := by decide
  unfold InBuffer UciCommand.line fieldSize
  simp only [String.utf8ByteSize_append]
  omega

theorem inBuffer_addList_iff {value : Option String} (args : String) (room : Nat)
    (hroom : args.utf8ByteSize + room = 185) :
    InBuffer (UciCommand.addList args value).line <-> fieldSize value <= room := by
  have hconstant : "uci add_list ".utf8ByteSize = 13 ∧ "=".utf8ByteSize = 1 := by decide
  unfold InBuffer UciCommand.line fieldSize
  simp only [String.utf8ByteSize_append]
  omega

theorem utf8ByteSize_le (text : String) : text.utf8ByteSize <= 4 * text.length := by
  rw [← String.ofList_toList (s := text)]
  induction text.toList with
  | nil => exact Nat.zero_le _
  | cons c rest ih =>
      have hsize := c.utf8Size_le_four
      have hcons : String.ofList (c :: rest) = String.singleton c ++ String.ofList rest := by
        simp
      rw [hcons, String.utf8ByteSize_append, String.utf8ByteSize_singleton,
        String.length_append, String.length_singleton]
      omega

/-- A number of 32 bits is written in eleven characters at most. -/
theorem length_toString_le (value : Int32) : (toString value.toInt).length <= 11 := by
  have hlow := value.le_toInt
  have hhigh := value.toInt_lt
  have hrepr : toString value.toInt = if 0 <= value.toInt then value.toInt.toNat.repr
      else "-" ++ (-value.toInt).toNat.repr := Int.repr_eq_if
  rw [hrepr]
  split
  · exact (Nat.length_repr_le_iff (by decide)).mpr (by omega)
  · have hdigits : (-value.toInt).toNat.repr.length <= 10 :=
      (Nat.length_repr_le_iff (by decide)).mpr (by omega)
    rw [String.length_append]
    have hminus : "-".length = 1 := by decide
    omega

end

/-!
## Routes
-/

section

variable {commands : Route -> List Route -> List IpRouteCommand}
  {edit : Route -> List Route -> List Route}

/-- A loop fits when the commands of each record do. -/
theorem always_routeLoop {fit : List Route -> List Route -> Prop}
    (hnil : forall setting, fit [] setting)
    (hcons : forall request rest setting, fit (request :: rest) setting <->
      (forall command, command ∈ commands request setting -> InBuffer command.line) ∧
        fit rest (edit request setting))
    (requests setting : List Route) (foundId : Bool) :
    always InBuffer (routeLoop commands edit requests setting foundId)
        (fun _ => True) <-> fit requests setting := by
  induction requests generalizing setting foundId with
  | nil => exact iff_of_true ((always_pure _ _).mpr trivial) (hnil setting)
  | cons request rest ih =>
      unfold routeLoop
      rw [always_bind, always_execlIpRoute, ih, hcons]

theorem inBuffer_updateCommands_iff (update : Route) (setting : List Route) :
    (forall command, command ∈ updateCommands update setting ->
        InBuffer command.line) <->
      forall index, setting.find? (matchesId update) = some index ->
        RouteFits index ∧ RouteFits update := by
  unfold updateCommands
  cases setting.find? (matchesId update) with
  | none => simp
  | some index =>
      simp only [List.forall_mem_cons, List.not_mem_nil, false_implies, implies_true,
        and_true, inBuffer_ipRoute_iff (Or.inr rfl), inBuffer_ipRoute_iff (Or.inl rfl),
        Option.some_inj, forall_eq']

theorem inBuffer_deleteCommands_iff (delete : Route) (setting : List Route) :
    (forall command, command ∈ deleteCommands delete setting ->
        InBuffer command.line) <->
      (setting.any (matchesId delete) = true -> RouteFits delete) := by
  unfold deleteCommands
  split
  · rename_i hfound
    rw [List.forall_mem_singleton, inBuffer_ipRoute_iff (Or.inr rfl),
      forall_prop_of_true hfound]
  · rename_i hfound
    exact iff_of_true (List.forall_mem_nil _) fun h => absurd h hfound

/-- What follows a program that writes nothing more. -/
theorem always_bind_pure {α : Type} (program : Composing α) (code : α -> ErrorCode) :
    always InBuffer (program >>= fun value => pure (code value)) (fun _ => True) <->
      always InBuffer program fun _ => True := by
  simp only [always_bind, always_pure]

theorem always_routeCreate (creates : List Route) (ret : Int32) :
    always InBuffer (routeCreate creates ret) (fun _ => True) <->
      forall route, route ∈ creates -> RouteFits route := by
  unfold routeCreate
  rw [always_bind, always_execlIpRoute, always_pure, and_true, List.forall_mem_map]
  simp only [inBuffer_ipRoute_iff (Or.inl rfl)]

theorem always_routeUpdate (updates setting : List Route) (ret : Int32) :
    always InBuffer (routeUpdate updates setting ret) (fun _ => True) <->
      UpdatesFit updates setting := by
  unfold routeUpdate
  rw [always_bind_pure]
  apply always_routeLoop
  · intro _
    trivial
  · intro update rest setting
    rw [inBuffer_updateCommands_iff]
    rfl

theorem always_routeDelete (deletes setting : List Route) (ret : Int32) :
    always InBuffer (routeDelete deletes setting ret) (fun _ => True) <->
      DeletesFit deletes setting := by
  unfold routeDelete
  simp only [always_bind, always_ite, always_pure, ite_self]
  apply always_routeLoop
  · intro _
    trivial
  · intro delete rest setting
    rw [inBuffer_deleteCommands_iff]
    rfl

end

/-!
## Firewall
-/

section

variable {protocol portRange : String}

/-- The text grows until it is the command. -/
theorem always_openPort (iptables : Iptable) (post : Unit -> Prop) :
    always InBuffer (openPort protocol portRange iptables) post <->
      InBuffer (openPortCmd protocol portRange iptables) ∧ post () := by
  unfold openPort strcat
  rw [always_bind, always_sprintf]
  have hcmd : openPortCmd protocol portRange iptables =
      "iptables -A INPUT -p " ++ protocol ++ " --dport " ++ portRange ++
        optionalText "-s" iptables.ipMask ++ optionalText "-i" iptables.interface ++
        " -j ACCEPT" := rfl
  constructor
  · rintro ⟨hstart, h⟩
    rw [always_bind, always_strcatOptional hstart] at h
    rw [always_bind, always_strcatOptional h.1] at h
    rw [always_bind, always_sprintf, always_pure] at h
    exact h.2.2
  · rintro ⟨hfits, hpost⟩
    rw [hcmd] at hfits
    have hinterface := inBuffer_of_append hfits
    have hmask := inBuffer_of_append hinterface
    have hstart := inBuffer_of_append hmask
    refine ⟨hstart, ?_⟩
    rw [always_bind, always_strcatOptional hstart]
    refine ⟨hmask, ?_⟩
    rw [always_bind, always_strcatOptional hmask]
    refine ⟨hinterface, ?_⟩
    rw [always_bind, always_sprintf, always_pure]
    exact ⟨hfits, hpost⟩

theorem portProfileFits_iff {iptables : Iptable} (henable : iptables.enable = true)
    (hprotocol : iptables.protocol = some protocol)
    (hports : iptables.portRange = some portRange) :
    PortProfileFits iptables <-> InBuffer (openPortCmd protocol portRange iptables) := by
  have hopenable : openable iptables = true := by
    simp [openable, henable, hprotocol, hports]
  unfold PortProfileFits fieldSize
  rw [forall_prop_of_true hopenable, inBuffer_openPortCmd_iff, hprotocol, hports]
  rfl

theorem portProfilesFit_cons (iptables : Iptable) (rest : List Iptable) :
    PortProfilesFit (iptables :: rest) <->
      (endsLoop iptables = false -> PortProfileFits iptables ∧ PortProfilesFit rest) := by
  unfold PortProfilesFit passed
  cases hends : endsLoop iptables with
  | true =>
      rw [List.takeWhile_cons_of_neg (by simp [hends])]
      simp
  | false =>
      rw [List.takeWhile_cons_of_pos (by simp [hends]), List.forall_mem_cons]
      simp

theorem always_iptablesOpenPortProfiles (profiles : List Iptable)
    (post : Unit -> Prop) :
    always InBuffer (iptablesOpenPortProfiles profiles) post <->
      PortProfilesFit profiles ∧ post () := by
  induction profiles with
  | nil =>
      have hnil : PortProfilesFit [] := List.forall_mem_nil _
      exact (always_pure _ _).trans (and_iff_right hnil).symm
  | cons iptables rest ih =>
      rw [portProfilesFit_cons, iptablesOpenPortProfiles]
      by_cases henable : iptables.enable = true
      case neg =>
        have hends : endsLoop iptables = false := by simp [endsLoop, henable]
        have hfits : PortProfileFits iptables := by
          intro hopenable
          simp [openable, henable] at hopenable
        rw [if_neg henable, ih, forall_prop_of_true hends, and_iff_right hfits]
      rw [if_pos henable]
      cases hprotocol : iptables.protocol with
      | none => simp [endsLoop, henable, hprotocol]
      | some protocol =>
          cases hports : iptables.portRange with
          | none => simp [endsLoop, henable, hprotocol, hports]
          | some portRange =>
              have hends : endsLoop iptables = false := by
                simp [endsLoop, hprotocol, hports]
              dsimp only
              rw [always_bind, always_openPort, ih, forall_prop_of_true hends,
                portProfileFits_iff henable hprotocol hports, and_assoc]

theorem always_iptablesDnatDmzProfilesSet (iptables : Iptable) (post : Unit -> Prop) :
    always InBuffer (iptablesDnatDmzProfilesSet iptables) post <->
      DmzFits iptables ∧ post () := by
  unfold iptablesDnatDmzProfilesSet DmzFits
  by_cases henable : iptables.enable = true
  case neg => simp [henable]
  rw [if_pos henable, always_bind, always_sprintf, forall_prop_of_true henable,
    ← inBuffer_dmzCmd_iff]
  have hstart : InBuffer ("iptables -t nat -A PREROUTING  -i " ++ wanInterface) := by
    decide
  rw [and_iff_right hstart, always_bind, always_strcatOptional hstart, always_bind,
    always_sprintf]
  have hcmd : dmzCmd iptables =
      "iptables -t nat -A PREROUTING  -i " ++ wanInterface ++
        optionalText "-s" iptables.ipMask ++ " -j DNAT --to-destination " ++
        formatted iptables.dnatIp := rfl
  rw [hcmd, always_pure, and_iff_right_of_imp]
  intro h
  exact inBuffer_of_append (inBuffer_of_append h.1)

end

/-!
## Setting files
-/

section

variable {ret : Int32} {files : FirewallFiles}

theorem always_openNovaService (service : IptableNovaService) (post : Unit -> Prop) :
    always InBuffer (openNovaService service) post <->
      forall profiles, service.portProfiles = some profiles ->
        PortProfilesFit profiles ∧ post () := by
  unfold openNovaService
  rw [always_bind, always_require]
  simp only [always_iptablesOpenPortProfiles]

/-- A service without port profiles stops the loop, those before it do not. -/
theorem always_each_openNovaService (services : List IptableNovaService) :
    always InBuffer (each openNovaService services) (fun _ => True) <->
      forall profiles, profiles ∈ reached services -> PortProfilesFit profiles := by
  unfold reached
  induction services with
  | nil => simp [each]
  | cons service rest ih =>
      unfold each
      rw [always_bind, always_openNovaService, ih, List.takeWhile_cons]
      cases hprofiles : service.portProfiles with
      | none => simp
      | some profiles =>
          simp only [Option.some_inj, forall_eq', Option.isSome_some, if_true,
            List.map_cons, List.forall_mem_cons, hprofiles, Option.getD_some]

theorem always_iptablesRefresh (files : FirewallFiles) :
    always InBuffer (iptablesRefresh files) (fun _ => True) <-> files.Fit := by
  unfold iptablesRefresh
  rw [always_bind, always_iptablesDnatDmzProfilesSet, always_bind,
    always_iptablesOpenPortProfiles, always_bind_pure, always_each_openNovaService]
  constructor
  · rintro ⟨hdmz, hforwarding, hnova⟩
    exact ⟨hdmz, hforwarding, hnova⟩
  · intro h
    exact ⟨h.dmz, h.forwarding, h.nova⟩

theorem always_refreshAfter (save : ErrorCode) (files : FirewallFiles) :
    always InBuffer (refreshAfter save files) (fun _ => True) <->
      (save = .success -> files.Fit) := by
  unfold refreshAfter
  rw [always_ite]
  by_cases hsave : save = .success
  · rw [if_neg (not_not_intro hsave), always_iptablesRefresh, forall_prop_of_true hsave]
  · rw [if_pos hsave]
    exact iff_of_true ((always_pure _ _).mpr trivial) fun h => absurd h hsave

theorem always_iptableDnatDmzUpdate :
    always InBuffer (iptableDnatDmzUpdate ret files) (fun _ => True) <->
      (ret ≠ -1 -> files.Fit) := by
  unfold iptableDnatDmzUpdate saved
  rw [always_refreshAfter]
  simp

theorem always_saveForwarding :
    always InBuffer (saveForwarding ret files) (fun _ => True) <->
      (ret = 0 -> files.Fit) := by
  unfold saveForwarding
  rw [always_refreshAfter]
  simp

theorem always_editForwarding (edit : List Iptable -> Iptable -> List Iptable)
    (requests setting : List Iptable) :
    always InBuffer (editForwarding edit requests setting ret files) (fun _ => True) <->
      (ret = 0 -> files.Fit) := by
  unfold editForwarding
  simp only [always_bind, always_ite, always_pure, ite_self]
  exact always_saveForwarding

theorem always_iptableNovaServiceSet (services : List IptableNovaService) :
    always InBuffer (iptableNovaServiceSet services ret) (fun _ => True) := by
  unfold iptableNovaServiceSet iptablesRefreshLocked
  simp only [always_bind, always_require, always_ite, always_pure, implies_true,
    ite_self]

end

/-!
## DNS
-/

section

variable {cmd : String}

theorem always_addHostname (customHostname : CustomHostname) (post : Unit -> Prop) :
    always InBuffer (addHostname customHostname) post <->
      HostnameFits customHostname ∧ post () := by
  have hslash : "/".utf8ByteSize = 1 := by decide
  have hroom : "dhcp.@dnsmasq[0].address".utf8ByteSize + 161 = 185 := by decide
  unfold addHostname
  rw [always_bind, always_sprintf, always_appUci, List.forall_mem_singleton,
    inBuffer_addList_iff _ _ hroom, ← and_assoc]
  apply and_congr_left
  intro _
  unfold InBuffer HostnameFits fieldSize
  simp only [formatted_some, String.utf8ByteSize_append]
  omega

theorem utf8ByteSize_serversText (servers : List (Option String)) :
    (serversText servers).utf8ByteSize = serversSize servers := by
  have hcomma : ",".utf8ByteSize = 1 := by decide
  induction servers with
  | nil => rfl
  | cons server rest ih =>
      cases server with
      | none => rfl
      | some server =>
          unfold serversText serversSize
          rw [String.utf8ByteSize_append, String.utf8ByteSize_append, ih, hcomma]

/-- With a NULL among the servers the text ends in the comma before it. -/
theorem always_strcatServers (hcmd : InBuffer cmd) (servers : List (Option String))
    (post : String -> Prop) :
    always InBuffer (strcatServers cmd servers) post <->
      if none ∈ servers then InBuffer (cmd ++ serversText servers ++ ",")
      else InBuffer (cmd ++ serversText servers) ∧ post (cmd ++ serversText servers) := by
  induction servers generalizing cmd with
  | nil =>
      unfold strcatServers serversText
      rw [always_pure, if_neg List.not_mem_nil, String.append_empty, and_iff_right hcmd]
  | cons server rest ih =>
      unfold strcatServers strcat
      rw [always_bind, always_sprintf, always_bind, always_require]
      cases server with
      | none =>
          rw [if_pos List.mem_cons_self]
          unfold serversText
          simp
      | some server =>
          simp only [Option.some_inj, forall_eq', always_bind, always_sprintf]
          have htext : cmd ++ serversText (some server :: rest) =
              cmd ++ "," ++ server ++ serversText rest := by
            simp only [serversText, String.append_assoc]
          have hnull : none ∈ some server :: rest <-> none ∈ rest := by simp
          rw [htext]
          simp only [hnull]
          constructor
          · rintro ⟨_, hserver, h⟩
            exact (ih hserver).mp h
          · intro h
            have hrest : InBuffer (cmd ++ "," ++ server) := by
              split at h
              · exact inBuffer_of_append (inBuffer_of_append h)
              · exact inBuffer_of_append h.1
            exact ⟨inBuffer_of_append hrest, hrest, (ih hrest).mpr h⟩

/-- The option goes on with what the servers take. -/
theorem inBuffer_option_iff (servers : List (Option String)) :
    InBuffer (UciCommand.addList "dhcp.lan.dhcp_option"
        (some ("6" ++ serversText servers))).line <-> serversSize servers <= 164 := by
  have hsix : "6".utf8ByteSize = 1 := by decide
  rw [inBuffer_addList_iff "dhcp.lan.dhcp_option" 165 (by decide)]
  unfold fieldSize
  rw [formatted_some, String.utf8ByteSize_append, utf8ByteSize_serversText]
  omega

theorem always_addAdditionalDns (servers : List (Option String)) (post : Unit -> Prop) :
    always InBuffer (addAdditionalDns servers) post <->
      AdditionalFits servers ∧ (none ∉ servers -> post ()) := by
  unfold addAdditionalDns
  by_cases hempty : servers = []
  · rw [if_pos hempty, always_pure, hempty]
    simp [AdditionalFits, serversSize]
  have hsix : InBuffer ("" ++ "6") := by decide
  unfold AdditionalFits dhcpOption strcat
  rw [if_neg hempty, always_bind, always_bind, always_sprintf, and_iff_right hsix,
    always_strcatServers hsix]
  have htext : "" ++ "6" ++ serversText servers = "6" ++ serversText servers := rfl
  have hsize : ("6" ++ serversText servers).utf8ByteSize = 1 + serversSize servers := by
    rw [String.utf8ByteSize_append, utf8ByteSize_serversText]
    rfl
  have hcomma : ",".utf8ByteSize = 1 := by decide
  rw [htext]
  by_cases hnull : none ∈ servers
  · rw [if_pos hnull, if_pos hnull, and_iff_left fun h => absurd hnull h]
    unfold InBuffer
    rw [String.utf8ByteSize_append, hsize]
    omega
  · rw [if_neg hnull, if_neg hnull, always_appUci, List.forall_mem_singleton,
      inBuffer_option_iff, forall_prop_of_true hnull]
    unfold InBuffer
    rw [hsize]
    constructor
    · intro h
      exact h.2
    · intro h
      exact ⟨by omega, h⟩

theorem always_addForwardingDns (dns : Dns) (post : Unit -> Prop) :
    always InBuffer (addForwardingDns dns) post <->
      ForwardingFits dns ∧
        ((dns.forwardingDnsEnabled = true -> dns.forwardingDns.entries ≠ none) ->
          post ()) := by
  have hroom : "dhcp.@dnsmasq[0].server".utf8ByteSize + 162 = 185 := by decide
  unfold addForwardingDns ForwardingFits
  cases dns.forwardingDnsEnabled with
  | false => simp
  | true =>
      rw [if_pos rfl, always_bind, always_require]
      simp only [always_appUci, List.forall_mem_map, inBuffer_addList_iff _ _ hroom]
      cases dns.forwardingDns.entries with
      | none => simp
      | some servers => simp

theorem inBuffer_deletes : InBuffer (UciCommand.delete "dhcp.@dnsmasq[0].address").line ∧
    InBuffer (UciCommand.delete "dhcp.lan.dhcp_option").line ∧
    InBuffer (UciCommand.delete "dhcp.@dnsmasq[0].server").line ∧
    InBuffer (UciCommand.deleteAll "dhcp.@host[-1]").line := by
  decide

theorem always_dnsSet (dns : Option Dns) (post : ErrorCode -> Prop) :
    always InBuffer (dnsSet dns) post <->
      forall record, dns = some record ->
        (forall customHostname, customHostname ∈ record.customHostname ->
            HostnameFits customHostname) ∧
          AdditionalFits record.additionalDns ∧
          (none ∉ record.additionalDns -> ForwardingFits record ∧
            ((record.forwardingDnsEnabled = true ->
              record.forwardingDns.entries ≠ none) -> post .success)) := by
  unfold dnsSet setHostnames setAdditionalDns setForwardingDns
  rw [always_bind, always_require]
  simp only [always_bind, always_appUci, List.forall_mem_singleton, inBuffer_deletes,
    true_and, always_each always_addHostname, always_addAdditionalDns,
    always_addForwardingDns, always_pure]

/-!
## DHCP
-/

theorem always_setPool (dhcp4 : Dhcp4) (post : Unit -> Prop) :
    always InBuffer (setPool dhcp4) post <-> PoolFits dhcp4 ∧ post () := by
  unfold setPool PoolFits
  rcases (dhcp4.startIp.map (strtok '.')).getD [] with
    _ | ⟨_, _ | ⟨_, _ | ⟨_, _ | ⟨start, _ | ⟨_, _⟩⟩⟩⟩⟩
  case cons.cons.cons.cons.nil =>
    have hlimit : InBuffer (toString (atoi start + dhcp4.pools).toInt) ∧
        InBuffer (UciCommand.set "dhcp.lan.limit"
          (some (toString (atoi start + dhcp4.pools).toInt))).line := by
      have hlength := length_toString_le (atoi start + dhcp4.pools)
      have hsize := utf8ByteSize_le (toString (atoi start + dhcp4.pools).toInt)
      rw [inBuffer_set_iff "dhcp.lan.limit" 176 (by decide)]
      unfold InBuffer fieldSize
      rw [formatted_some]
      omega
    dsimp only
    rw [always_bind, always_sprintf, and_iff_right hlimit.1, always_appUci]
    simp only [List.forall_mem_cons, List.not_mem_nil, false_implies, implies_true,
      and_true, hlimit.2, inBuffer_set_iff "dhcp.lan.start" 176 (by decide), fieldSize,
      formatted_some]
  all_goals exact (always_pure () post).trans (and_iff_right trivial).symm

theorem inBuffer_relayCommands_iff (dhcp4 : Dhcp4) :
    (forall command, command ∈ relayCommands dhcp4 -> InBuffer command.line) <->
      (dhcp4.relayEnabled = true ->
        fieldSize dhcp4.relayLocalAddress <= 164 ∧
          fieldSize dhcp4.relayServerAddress <= 163) := by
  have hconstant : InBuffer (UciCommand.delete "dhcp.@relay[0]").line ∧
      InBuffer (UciCommand.add "dhcp" "relay").line ∧
      InBuffer (UciCommand.set "dhcp.@relay[-1].interface" (some "lan")).line := by
    decide
  unfold relayCommands
  by_cases hrelay : dhcp4.relayEnabled = true
  · rw [if_pos hrelay, forall_prop_of_true hrelay]
    simp only [List.forall_mem_cons, List.not_mem_nil, false_implies, implies_true,
      and_true, hconstant, true_and,
      inBuffer_set_iff "dhcp.@relay[-1].local_addr" 164 (by decide),
      inBuffer_set_iff "dhcp.@relay[-1].server_addr" 163 (by decide)]
  · rw [if_neg hrelay]
    exact iff_of_true (List.forall_mem_nil _) fun h => absurd h hrelay

theorem inBuffer_staticClientCommands_iff (client : DhcpInfo) :
    (forall command, command ∈ staticClientCommands client -> InBuffer command.line) <->
      ClientFits client := by
  have hconstant : InBuffer (UciCommand.add "dhcp" "host").line ∧
      InBuffer (UciCommand.set "dhcp.@host[-1].dns" (some "1")).line := by
    decide
  unfold staticClientCommands ClientFits
  simp only [List.forall_mem_cons, List.not_mem_nil, false_implies, implies_true,
    and_true, hconstant, true_and, inBuffer_set_iff "dhcp.@host[-1].name" 171 (by decide),
    inBuffer_set_iff "dhcp.@host[-1].mac" 172 (by decide),
    inBuffer_set_iff "dhcp.@host[-1].ip" 173 (by decide)]

theorem always_dhcp4Set (dhcp4 : Option Dhcp4) (post : ErrorCode -> Prop) :
    always InBuffer (dhcp4Set dhcp4) post <->
      forall record, dhcp4 = some record -> Dhcp4Fits record ∧ post .success := by
  have hclient (client : DhcpInfo) (post : Unit -> Prop) :
      always InBuffer (appUci (staticClientCommands client)) post <->
        ClientFits client ∧ post () := by
    rw [always_appUci, inBuffer_staticClientCommands_iff]
  unfold dhcp4Set setDhcp4
  rw [always_bind, always_require]
  apply forall_congr'
  intro record
  apply imp_congr_right
  intro _
  rw [always_bind, always_bind, always_appUci, inBuffer_relayCommands_iff, always_bind,
    always_appUci, List.forall_mem_singleton, and_iff_right inBuffer_deletes.2.2.2,
    always_bind, always_each hclient, always_setPool, always_pure]
  constructor
  · rintro ⟨hrelay, hclients, hpool, hpost⟩
    exact ⟨⟨hrelay, hclients, hpool⟩, hpost⟩
  · rintro ⟨hfits, hpost⟩
    exact ⟨hfits.relay, hfits.clients, hfits.pool, hpost⟩

/-- Committing fits; what is said of the configuration is said of its parts. -/
theorem always_dnsDhcpSet (dnsDhcp : DnsDhcp) :
    always InBuffer (dnsDhcpSet dnsDhcp) (fun _ => True) <->
      ((dnsDhcp.dns.all fun dns => dns.forwardingDns.readable) = true ->
        forall dns, dnsDhcp.dns = some dns -> DnsDhcpFits dns dnsDhcp.dhcp4) := by
  have hcommit : InBuffer (UciCommand.commit "dhcp").line := by decide
  unfold dnsDhcpSet dnsDhcpSaveToSettingFile
  simp only [always_bind, always_require, always_dnsSet, always_ite, always_pure,
    always_dhcp4Set, always_appUci, List.forall_mem_singleton, hcommit, ite_self,
    and_true, ne_eq, not_true_eq_false, if_false]
  cases (dnsDhcp.dns.all fun dns => dns.forwardingDns.readable) with
  | false => simp
  | true =>
      simp only [if_true, forall_const]
      apply forall_congr'
      intro dns
      apply imp_congr_right
      intro _
      constructor
      · rintro ⟨hhostnames, hadditional, hlater⟩
        exact ⟨hhostnames, hadditional, fun hnull => (hlater hnull).1,
          fun hnull hentries => (hlater hnull).2 hentries⟩
      · intro h
        exact ⟨h.hostnames, h.additional, fun hnull =>
          ⟨h.forwarding hnull, h.dhcp4 hnull⟩⟩

end

/-!
## LAN and WAN
-/

theorem always_setNetwork (commands : List UciCommand) (ret : Int32) :
    always InBuffer (setNetwork commands ret) (fun _ => True) <->
      forall command, command ∈ commands -> InBuffer command.line := by
  have hcommit : InBuffer (UciCommand.commit "network").line := by decide
  unfold setNetwork
  simp only [always_bind, always_ite, always_pure, always_appUci,
    List.forall_mem_singleton, hcommit, and_true, ite_self]

theorem always_lanSet (lan : Lan) (ret : Int32) :
    always InBuffer (lanSet lan ret) (fun _ => True) <-> LanFits lan := by
  have hdhcp : InBuffer (UciCommand.set "network.lan.proto" (some "dhcp")).line := by
    decide
  unfold lanSet LanFits lanCommands
  rw [always_setNetwork]
  split
  · rename_i hbridge
    rw [List.forall_mem_singleton]
    exact iff_of_true hdhcp fun h => absurd hbridge h
  · rename_i hbridge
    rw [forall_prop_of_true hbridge]
    simp only [List.forall_mem_cons, List.not_mem_nil, false_implies, implies_true,
      and_true, inBuffer_set_iff "network.lan.ipaddr" 172 (by decide),
      inBuffer_set_iff "network.lan.netmask" 171 (by decide),
      inBuffer_set_iff "network.lan.proto" 173 (by decide)]

theorem always_wanSet (wan : Wan) (ret : Int32) :
    always InBuffer (wanSet wan ret) (fun _ => True) <-> WanFits wan := by
  unfold wanSet WanFits
  rw [always_setNetwork]
  simp only [List.forall_mem_cons, List.not_mem_nil, false_implies, implies_true,
    and_true, inBuffer_set_iff "network.wan.proto" 173 (by decide),
    inBuffer_set_iff "network.wan.ipaddr" 172 (by decide)]

/-!
## Every call
-/

theorem inBuffer_emitted_iff (call : Call) :
    (forall text, text ∈ call.run.emitted -> InBuffer text) <-> call.Fits := by
  rw [← always_true]
  cases call with
  | routeCreate creates ret => exact always_routeCreate creates ret
  | routeUpdate updates setting ret => exact always_routeUpdate updates setting ret
  | routeDelete deletes setting ret => exact always_routeDelete deletes setting ret
  | dmzUpdate ret files => exact always_iptableDnatDmzUpdate
  | forwardingCreate ret files => exact always_saveForwarding
  | forwardingUpdate updates setting ret files =>
      exact always_editForwarding updateProfile updates setting
  | forwardingDelete deletes setting ret files =>
      exact always_editForwarding deleteProfile deletes setting
  | novaServiceSet services ret =>
      exact iff_of_true (always_iptableNovaServiceSet services) trivial
  | iptablesRefresh files => exact always_iptablesRefresh files
  | dnsDhcpSet dnsDhcp => exact always_dnsDhcpSet dnsDhcp
  | lanSet lan ret => exact always_lanSet lan ret
  | wanSet wan ret => exact always_wanSet wan ret

/-- Whatever the configuration and whatever the files hold: every text is in its
buffer exactly when the fields are short enough. -/
theorem bounded_iff (call : Call) : call.Bounded <-> call.Fits := by
  rw [← inBuffer_emitted_iff]
  apply or_iff_left_of_imp
  rintro ⟨_, _, _, hnothing⟩
  rw [hnothing]
  exact List.forall_mem_nil _

/-- A request with eleven additional servers. -/
def manyServers : Json :=
  .obj
    [("dns", .obj
      [("additional_dns", .arr (List.replicate 11 (.str "255.255.255.255")))]),
     ("dhcp4", .obj [])]

/-- Their option has 211 bytes. -/
theorem not_bounded_of_manyServers :
    ¬ forall json, (Call.dnsDhcpSet (cvtJsonToDnsDhcp json)).Bounded := by
  intro h
  have hrun := h (some manyServers)
  rcases hrun with htexts | ⟨_, _, _, hnothing⟩
  · have hfits : (Call.dnsDhcpSet (cvtJsonToDnsDhcp (some manyServers))).run.emitted.all
        (fun text => decide (InBuffer text)) = true :=
      List.all_eq_true.mpr fun text hmem => decide_eq_true (htexts text hmem)
    exact absurd hfits (by decide +kernel)
  · exact absurd hnothing (by decide +kernel)

end Buffer
end Network
end Noc
