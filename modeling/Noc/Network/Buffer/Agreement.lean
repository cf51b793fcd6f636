import Noc.Network.Buffer.Composing
import Noc.Network.Refusal

/-!
# Composed texts and commands that are run

The commands a run of the daemon hands on are among the texts that its setter
composes, in their order.
-/

namespace Noc
namespace Network
namespace Buffer

open Api
open Foundation
open Foundation.Output
open Utils

/-!
## UCI
-/

/-- The commands a run records are among the texts, and it returns what is
returned with them. -/
structure Writes {α : Type} (program : Daemon α) (texts : Composing α) (w : World) :
    Prop where
  uci : exists commands, (Exec.final program w).uci = w.uci ++ commands ∧
    (commands.map UciCommand.line).Sublist texts.emitted
  value : forall value w', program w = .ok (value, w') -> texts.result = some value

theorem sprintf_bind {α : Type} (text : String) (next : String -> Composing α) :
    sprintf text >>= next =
      { emitted := text :: (next text).emitted, result := (next text).result } := rfl

section

variable {α β : Type} {w : World}

theorem writes_bind {program : Daemon α} {next : α -> Daemon β}
    {texts : Composing α} {nextTexts : α -> Composing β} (h : Writes program texts w)
    (hnext : forall value w', program w = .ok (value, w') ->
      Writes (next value) (nextTexts value) w') :
    Writes (program >>= next) (texts >>= nextTexts) w := by
  rcases h.uci with ⟨commands, huci, hlines⟩
  cases hrun : program w with
  | error stopped =>
      have hbind := Exec.bind_of_error hrun next
      refine ⟨⟨commands, ?_, ?_⟩, ?_⟩
      · rw [Exec.final_of_error hbind, ← Exec.final_of_error hrun, huci]
      · exact hlines.trans (emitted_prefix_bind texts nextTexts).sublist
      · intro value w' hvalue
        rw [hbind] at hvalue
        cases hvalue
  | ok out =>
      have hout := hnext out.1 out.2 hrun
      rcases hout.uci with ⟨later, hlater, hlaterLines⟩
      rw [bind_of_result (h.value _ _ hrun)]
      refine ⟨⟨commands ++ later, ?_, ?_⟩, ?_⟩
      · rw [Exec.final_bind_of_run hrun, hlater, ← Exec.final_of_run hrun, huci,
          List.append_assoc]
      · rw [List.map_append]
        exact hlines.append hlaterLines
      · intro value w' hvalue
        rw [Exec.bind_of_run hrun] at hvalue
        exact hout.value value w' hvalue

theorem writes_pure (value : α) : Writes (pure value) (pure value) w where
  uci := ⟨[], (List.append_nil _).symm, List.Sublist.refl _⟩
  value := by
    intro result w' hrun
    cases hrun
    rfl

/-- A run that stops at once records nothing. -/
theorem writes_fail (fault : Fault) (texts : Composing α) :
    Writes (Exec.fail fault) texts w where
  uci := ⟨[], (List.append_nil _).symm, List.nil_sublist _⟩
  value := by
    intro value w' hrun
    cases hrun

theorem writes_field (pointer : Option α) :
    Writes (field pointer) (require pointer) w := by
  cases pointer with
  | none => exact writes_fail .nullField _
  | some value => exact writes_pure value

/-- A save records no command, however it ends. -/
theorem uci_writeJson_bind (tree : Json) (file : DaemonFile) (code : Int32 -> α)
    (w : World) :
    (Exec.final (writeJson tree file >>= fun ret => pure (code ret)) w).uci = w.uci := by
  have hwrite : (Exec.final (writeJson tree file) w).uci = w.uci := by
    unfold writeJson onFiles
    rw [Exec.final_zoom]
  rcases Exec.final_bind_cases (writeJson tree file) (fun ret => pure (code ret)) w with
    hsame | ⟨ret, _, hend⟩
  · rw [hsame, hwrite]
  · rw [hend]
    exact hwrite

theorem writes_ite {c : Prop} [Decidable c] {program other : Daemon α}
    {texts otherTexts : Composing α} (h : Writes program texts w)
    (hother : Writes other otherTexts w) :
    Writes (if c then program else other) (if c then texts else otherTexts) w := by
  split
  · exact h
  · exact hother

/-- Texts that return and have the lines of the commands among them. -/
theorem writes_appUci {commands : List UciCommand} {texts : Composing Unit}
    (hlines : (commands.map UciCommand.line).Sublist texts.emitted)
    (hresult : texts.result = some ()) : Writes (Noc.appUci commands) texts w where
  uci := ⟨commands, rfl, hlines⟩
  value := by
    intro value w' _
    exact hresult

theorem appUci_eq (commands : List UciCommand) :
    appUci commands = { emitted := commands.map UciCommand.line, result := some () } :=
  each_emit UciCommand.line commands

theorem addHostname_eq (customHostname : CustomHostname) :
    addHostname customHostname =
      { emitted :=
          ["/" ++ formatted customHostname.domain ++ "/" ++ formatted customHostname.ip,
           (customHostnameCommand customHostname).line]
        result := some () } := rfl

theorem writes_setHostnames (dns : Dns) :
    Writes (Noc.appUci (.delete "dhcp.@dnsmasq[0].address" ::
      dns.customHostname.map customHostnameCommand)) (setHostnames dns) w := by
  have heach : each addHostname dns.customHostname = _ :=
    each_of_result fun _ _ => rfl
  unfold setHostnames
  rw [appUci_eq, heach]
  apply writes_appUci
  · show (_ :: List.map _ _).Sublist ([_] ++ _)
    rw [List.singleton_append, List.cons_sublist_cons, List.map_map]
    induction dns.customHostname with
    | nil => exact List.Sublist.refl _
    | cons customHostname rest ih =>
        rw [List.map_cons, List.flatMap_cons, addHostname_eq]
        exact (ih.cons_cons _).cons _
  · rfl

/-- The text of the servers that the option ends with. -/
theorem result_strcatServers {servers : List (Option String)} {values : List String}
    (h : servers.mapM id = some values) (cmd : String) :
    (strcatServers cmd servers).result =
      some (cmd ++ String.join (values.map fun server => "," ++ server)) := by
  induction servers generalizing values cmd with
  | nil =>
      cases h
      show some cmd = some (cmd ++ "")
      rw [String.append_empty]
  | cons server rest ih =>
      cases server with
      | none => cases h
      | some server =>
          rw [List.mapM_cons] at h
          cases hrest : rest.mapM id with
          | none =>
              rw [hrest] at h
              cases h
          | some later =>
              rw [hrest] at h
              cases h
              show (strcatServers (cmd ++ "," ++ server) rest).result = _
              rw [ih hrest, List.map_cons, String.join_cons]
              simp only [String.append_assoc]

theorem writes_setAdditionalDns (dns : Dns) :
    Writes (additionalDnsCommands dns.additionalDns >>= fun additional =>
      Noc.appUci (.delete "dhcp.lan.dhcp_option" :: additional))
      (setAdditionalDns dns) w := by
  unfold additionalDnsCommands setAdditionalDns addAdditionalDns
  by_cases hempty : dns.additionalDns = []
  · rw [if_pos hempty, if_pos hempty]
    exact writes_appUci (List.Sublist.refl _) rfl
  rw [if_neg hempty, if_neg hempty]
  cases hservers : dns.additionalDns.mapM id with
  | none =>
      exact writes_fail .nullField _
  | some servers =>
      have hoption : (dhcpOption dns.additionalDns).result = some _ :=
        result_strcatServers hservers "6"
      rw [bind_of_result hoption]
      apply writes_appUci
      · exact (List.sublist_append_right _ _).cons_cons _
      · rfl

theorem writes_setForwardingDns (dns : Dns) :
    Writes (forwardingDnsCommands dns >>= fun forwarding =>
      Noc.appUci (.delete "dhcp.@dnsmasq[0].server" :: forwarding))
      (setForwardingDns dns) w := by
  unfold forwardingDnsCommands setForwardingDns addForwardingDns
  cases dns.forwardingDnsEnabled with
  | false => exact writes_appUci (List.Sublist.refl _) rfl
  | true =>
      rw [if_pos rfl, if_pos rfl]
      cases dns.forwardingDns.entries with
      | none =>
          exact writes_fail .nullField _
      | some servers =>
          show Writes (Noc.appUci _) (appUci _ >>= fun _ => appUci (servers.map fun server =>
            .addList "dhcp.@dnsmasq[0].server" server)) w
          rw [appUci_eq, appUci_eq]
          exact writes_appUci (List.Sublist.refl _) rfl

/-- The setter of the DNS part, with the result it is taken to return. -/
theorem writes_dnsSet (dns : Option Dns) :
    Writes (Network.dnsSet dns) (dnsSet dns) w := by
  unfold Network.dnsSet dnsSet
  refine writes_bind (writes_field dns) ?_
  intro dns w _
  refine writes_bind (writes_setHostnames dns) ?_
  intro _ w _
  rw [← Exec.bind_bind]
  refine writes_bind (writes_setAdditionalDns dns) ?_
  intro _ w _
  rw [← Exec.bind_bind]
  refine writes_bind (writes_setForwardingDns dns) ?_
  intro _ w _
  exact writes_pure _

theorem exists_setPool_eq (dhcp4 : Dhcp4) :
    exists texts, setPool dhcp4 = { emitted := texts, result := some () } ∧
      ((poolCommands dhcp4).map UciCommand.line).Sublist texts := by
  unfold poolCommands setPool
  rcases (dhcp4.startIp.map (strtok '.')).getD [] with
    _ | ⟨_, _ | ⟨_, _ | ⟨_, _ | ⟨start, _ | ⟨_, _⟩⟩⟩⟩⟩
  case cons.cons.cons.cons.nil => exact ⟨_, rfl, (List.Sublist.refl _).cons _⟩
  all_goals exact ⟨_, rfl, List.Sublist.refl _⟩

theorem writes_dhcp4Set (dhcp4 : Option Dhcp4) :
    Writes (Network.dhcp4Set dhcp4) (dhcp4Set dhcp4) w := by
  unfold Network.dhcp4Set dhcp4Set
  refine writes_bind (writes_field dhcp4) ?_
  intro dhcp4 w _
  have hclients :
      each (fun client => appUci (staticClientCommands client)) dhcp4.staticDhcp4Clients =
        _ :=
    each_of_result fun client _ => by rw [appUci_eq]
  rcases exists_setPool_eq dhcp4 with ⟨texts, hpool, hlines⟩
  refine writes_bind ?_ fun _ _ _ => writes_pure _
  unfold setDhcp4
  rw [hclients, hpool]
  simp only [appUci_eq]
  apply writes_appUci
  · show List.Sublist _ (_ ++ ([_] ++ (_ ++ texts)))
    rw [List.append_assoc, List.map_append, List.cons_append, List.map_cons,
      List.map_append, List.map_flatMap, List.singleton_append]
    exact (((List.Sublist.refl _).append hlines).cons_cons _).append_left _
  · rfl

theorem writes_dnsDhcpSaveToSettingFile (dnsDhcp : DnsDhcp) :
    Writes (Network.dnsDhcpSaveToSettingFile (some dnsDhcp))
      (dnsDhcpSaveToSettingFile dnsDhcp) w := by
  have hencode : encodeDnsDhcp (some dnsDhcp) =
      if (dnsDhcp.dns.all fun dns => dns.forwardingDns.readable) = true then
        pure (cvtDnsDhcpToJson dnsDhcp)
      else Exec.fail .nullField := rfl
  unfold Network.dnsDhcpSaveToSettingFile dnsDhcpSaveToSettingFile
  rw [hencode]
  cases dnsDhcp.dns.all fun dns => dns.forwardingDns.readable with
  | false =>
      exact writes_fail .nullField _
  | true =>
      refine ⟨⟨[], ?_, List.Sublist.refl _⟩, fun value _ _ => rfl⟩
      rw [if_pos rfl, List.append_nil]
      exact uci_writeJson_bind _ _ (fun _ => ()) w

theorem writes_dnsDhcpSet (dnsDhcp : DnsDhcp) :
    Writes (Network.dnsDhcpSet (some dnsDhcp)) (dnsDhcpSet dnsDhcp) w := by
  unfold Network.dnsDhcpSet dnsDhcpSet
  refine writes_bind (writes_dnsDhcpSaveToSettingFile dnsDhcp) ?_
  intro _ w _
  refine writes_bind (writes_dnsSet dnsDhcp.dns) ?_
  intro err w _
  refine writes_ite (writes_pure err) ?_
  refine writes_bind (writes_dhcp4Set dnsDhcp.dhcp4) ?_
  intro err w _
  refine writes_ite (writes_pure err) ?_
  refine writes_bind (writes_appUci (List.Sublist.refl _) rfl) ?_
  intro _ w _
  exact writes_pure _

/-- A save returns its code for some value of `write_data`. -/
theorem exists_writes_save (tree : Json) (file : DaemonFile) (w : World) :
    exists ret, Writes
      (writeJson tree file >>= fun ret =>
        pure (if ret = -1 then ErrorCode.internalServer else .success))
      (pure (saved ret)) w := by
  have huci := uci_writeJson_bind tree file
    (fun ret => if ret = -1 then ErrorCode.internalServer else .success) w
  cases hwrite : writeJson tree file w with
  | error stopped =>
      refine ⟨0, ⟨[], ?_, List.Sublist.refl _⟩, ?_⟩
      · rw [huci, List.append_nil]
      · intro value w' hrun
        rw [Exec.bind_of_error hwrite] at hrun
        cases hrun
  | ok out =>
      refine ⟨out.1, ⟨[], ?_, List.Sublist.refl _⟩, ?_⟩
      · rw [huci, List.append_nil]
      · intro value w' hrun
        rw [Exec.bind_of_run hwrite] at hrun
        cases hrun
        rfl

/-- What the setters of LAN and WAN share. -/
theorem exists_writes_setNetwork (commands : List UciCommand) (tree : Json)
    (file : DaemonFile) :
    exists ret, Writes
      (Noc.appUci commands >>= fun _ =>
        (writeJson tree file >>= fun ret =>
          pure (if ret = -1 then ErrorCode.internalServer else .success)) >>= fun err =>
        if err ≠ .success then pure err
        else Noc.appUci [.commit "network"] >>= fun _ => pure .success)
      (setNetwork commands ret) w := by
  rcases exists_writes_save tree file (w.runUci commands) with ⟨ret, hsave⟩
  refine ⟨ret, writes_bind ?_ ?_⟩
  · rw [appUci_eq]
    exact writes_appUci (List.Sublist.refl _) rfl
  · intro _ w' hrun
    cases hrun
    show Writes _ (pure (saved ret) >>= fun err => if err ≠ .success then pure err
      else appUci [.commit "network"] >>= fun _ => pure .success) _
    refine writes_bind hsave ?_
    intro err w _
    refine writes_ite (writes_pure err) (writes_bind ?_ fun _ _ _ => writes_pure _)
    exact writes_appUci (List.Sublist.refl _) rfl

theorem exists_writes_lanSet (lan : Lan) :
    exists ret, Writes (Network.lanSet lan) (lanSet lan ret) w :=
  exists_writes_setNetwork (lanCommands lan) (cvtLanToJson lan) .lanSetting

theorem exists_writes_wanSet (wan : Wan) :
    exists ret, Writes (Network.wanSet wan) (wanSet wan ret) w :=
  exists_writes_setNetwork _ (cvtWanToJson wan) .wanSetting

end

/-!
Routes and the firewall: here the texts are compared with the commands that the
kernel's tables are changed by.
-/

section

/-- A loop composes the lines of the commands it runs. -/
theorem routeLoop_writes (commands : Route -> List Route -> List IpRouteCommand)
    (edit : Route -> List Route -> List Route) (requests setting : List Route)
    (foundId : Bool) (w : World) :
    exists routes found, Network.routeLoop commands edit requests setting foundId w =
        .ok ((routes, found),
          w.runIpRoute (loopCommands commands edit requests setting)) ∧
      routeLoop commands edit requests setting foundId =
        { emitted :=
            (loopCommands commands edit requests setting).map IpRouteCommand.line
          result := some found } := by
  induction requests generalizing setting foundId w with
  | nil => exact ⟨setting, foundId, rfl, rfl⟩
  | cons request rest ih =>
      rcases ih (edit request setting) (foundId || setting.any (matchesId request))
          (w.runIpRoute (commands request setting)) with ⟨routes, found, hrun, htexts⟩
      have hlines : execlIpRoute (commands request setting) = _ :=
        each_emit IpRouteCommand.line (commands request setting)
      refine ⟨routes, found, ?_, ?_⟩
      · unfold loopCommands
        rw [← World.runIpRoute_append, ← hrun]
        rfl
      · unfold routeLoop loopCommands
        rw [hlines, htexts, List.map_append]
        rfl

theorem exists_strcatOptional_eq (flag : String) (field : Option String)
    (cmd : String) :
    exists texts, strcatOptional flag field cmd =
      { emitted := texts, result := some (cmd ++ optionalText flag field) } := by
  unfold strcatOptional optionalText
  cases field with
  | none => exact ⟨[], by rw [String.append_empty]; rfl⟩
  | some value =>
      dsimp only
      by_cases hempty : value = ""
      · rw [if_pos hempty, if_pos hempty, String.append_empty]
        exact ⟨[], rfl⟩
      · rw [if_neg hempty, if_neg hempty]
        have htext : cmd ++ (" " ++ flag ++ " " ++ value) =
            cmd ++ (" " ++ flag ++ " ") ++ value := by
          simp only [String.append_assoc]
        rw [htext]
        exact ⟨_, rfl⟩

theorem exists_openPort_eq (protocol portRange : String) (iptables : Iptable) :
    exists texts, openPort protocol portRange iptables =
      { emitted := texts ++ [openPortCmd protocol portRange iptables]
        result := some () } := by
  unfold openPort openPortCmd strcat
  generalize "iptables -A INPUT -p " ++ protocol ++ " --dport " ++ portRange = start
  rcases exists_strcatOptional_eq "-s" iptables.ipMask start with ⟨masked, hmask⟩
  rcases exists_strcatOptional_eq "-i" iptables.interface
    (start ++ optionalText "-s" iptables.ipMask) with ⟨bound, hinterface⟩
  refine ⟨start :: (masked ++ bound), ?_⟩
  rw [sprintf_bind, hmask, mk_bind, hinterface, mk_bind, sprintf_bind, List.cons_append,
    List.append_assoc]
  rfl

/-- The lines of the profiles are composed, each after the texts it grows from. -/
theorem exists_openPortProfiles_eq (profiles : List Iptable) :
    exists texts, iptablesOpenPortProfiles profiles =
        { emitted := texts, result := some () } ∧
      ((openPortLines profiles).map ShellLine.cmd).Sublist texts := by
  induction profiles with
  | nil => exact ⟨[], rfl, List.Sublist.refl _⟩
  | cons iptables rest ih =>
      rcases ih with ⟨texts, hrest, hlines⟩
      unfold iptablesOpenPortProfiles openPortLines
      by_cases henable : iptables.enable = true
      case neg =>
        rw [if_neg henable, if_neg henable]
        exact ⟨texts, hrest, hlines⟩
      rw [if_pos henable, if_pos henable]
      cases iptables.protocol with
      | none => exact ⟨[], rfl, List.Sublist.refl _⟩
      | some protocol =>
          cases iptables.portRange with
          | none => exact ⟨[], rfl, List.Sublist.refl _⟩
          | some portRange =>
              rcases exists_openPort_eq protocol portRange iptables with ⟨grown, hopen⟩
              dsimp only
              rw [hopen, mk_bind, hrest]
              refine ⟨_, rfl, ?_⟩
              rw [List.map_cons, List.append_assoc]
              exact (hlines.cons_cons _).trans (List.sublist_append_right _ _)

theorem exists_dnatDmzProfilesSet_eq (iptables : Iptable) :
    exists texts, iptablesDnatDmzProfilesSet iptables =
        { emitted := texts, result := some () } ∧
      ((dmzLines iptables).map ShellLine.cmd).Sublist texts := by
  unfold iptablesDnatDmzProfilesSet dmzLines Network.iptablesDnatDmzProfilesSet
  by_cases henable : iptables.enable = true
  case neg =>
    rw [if_neg henable, if_neg henable]
    exact ⟨[], rfl, List.Sublist.refl _⟩
  rw [if_pos henable, if_pos henable]
  unfold dmzCmd
  generalize "iptables -t nat -A PREROUTING  -i " ++ wanInterface = start
  rcases exists_strcatOptional_eq "-s" iptables.ipMask start with ⟨masked, hmask⟩
  rw [sprintf_bind, hmask, mk_bind, sprintf_bind]
  exact ⟨_, rfl, (List.sublist_append_right _ _).cons _⟩

/-- The commands of a refresh that hold fields of a profile. -/
def FirewallFiles.lines (files : FirewallFiles) : List ShellLine :=
  dmzLines files.dmz ++ openPortLines files.forwarding ++
    files.nova.flatMap fun service => openPortLines (service.portProfiles.getD [])

theorem words_lines (files : FirewallFiles) :
    (refreshCommands files.dmz files.forwarding (novaProfiles files.nova)).map
        IptablesCommand.words =
      iptablesDefaultSettingList.map IptablesCommand.words ++
        files.lines.map ShellLine.words ++
        iptableRestrictBasic.map IptablesCommand.words := by
  have hdmz : (dmzLines files.dmz).map ShellLine.words =
      (Network.iptablesDnatDmzProfilesSet files.dmz).map IptablesCommand.words := by
    unfold dmzLines
    rw [List.map_map]
    rfl
  have hnova : ((novaProfiles files.nova).map
        Network.iptablesOpenPortProfiles).flatten.map IptablesCommand.words =
      (files.nova.flatMap fun service =>
        openPortLines (service.portProfiles.getD [])).map ShellLine.words := by
    unfold novaProfiles
    rw [List.map_map, ← List.flatMap_def, List.map_flatMap, List.map_flatMap]
    simp only [words_openPortLines]
    rfl
  unfold refreshCommands FirewallFiles.lines
  simp only [List.map_append, words_openPortLines, hdmz, hnova, List.append_assoc]

theorem exists_openNovaServices_eq {services : List IptableNovaService}
    (h : CarriesPortProfiles services) :
    exists texts, each openNovaService services =
        { emitted := texts, result := some () } ∧
      ((services.flatMap fun service =>
        openPortLines (service.portProfiles.getD [])).map ShellLine.cmd).Sublist texts := by
  unfold CarriesPortProfiles at h
  induction services with
  | nil => exact ⟨[], rfl, List.Sublist.refl _⟩
  | cons service rest ih =>
      rw [List.forall_mem_cons] at h
      rcases ih h.2 with ⟨texts, hrest, hlines⟩
      rcases Option.ne_none_iff_exists'.mp h.1 with ⟨profiles, hprofiles⟩
      rcases exists_openPortProfiles_eq profiles with ⟨first, hfirst, hfirstLines⟩
      have hservice : openNovaService service = iptablesOpenPortProfiles profiles := by
        unfold openNovaService
        rw [hprofiles]
        rfl
      unfold each
      rw [hservice, hfirst, mk_bind, hrest]
      refine ⟨first ++ texts, rfl, ?_⟩
      rw [List.flatMap_cons, List.map_append, hprofiles]
      exact hfirstLines.append hlines

/-- Refreshing with the services' port profiles composes its lines. -/
theorem lines_sublist_iptablesRefresh {files : FirewallFiles}
    (h : CarriesPortProfiles files.nova) :
    (files.lines.map ShellLine.cmd).Sublist (iptablesRefresh files).emitted := by
  rcases exists_dnatDmzProfilesSet_eq files.dmz with ⟨dmz, hdmz, hdmzLines⟩
  rcases exists_openPortProfiles_eq files.forwarding with ⟨opened, hopen, hopenLines⟩
  rcases exists_openNovaServices_eq h with ⟨texts, hnova, hnovaLines⟩
  unfold iptablesRefresh FirewallFiles.lines
  rw [hdmz, mk_bind, hopen, mk_bind, hnova, mk_bind, List.map_append, List.map_append,
    List.append_assoc]
  exact hdmzLines.append (hopenLines.append
    (hnovaLines.trans (List.sublist_append_left _ _)))

end

end Buffer
end Network
end Noc
