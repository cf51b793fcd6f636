import Noc.Foundation.Runs
import Noc.Mesh.Device
import Noc.Network.Iptables.Store

/-!
# The installed firewall and the stored one

Every request that changes a firewall file refreshes the installed firewall,
except the one that sets the Nova services: its save reports success as a
failure, so the refresh after it is never reached.  The two firewalls stay
equal in a run whose Nova services open the ports that are open already.
-/

namespace Noc
namespace Network

open Api
open Foundation
open Foundation.Exec
open Utils

/-!
## Requests
-/

/-- The payload of a request is NULL when its data holds no list or profile;
the handler then does nothing. -/
inductive FirewallRequest where
  | createForwarding (uuid : Nat -> String) (creates : Option (List Iptable))
  | updateForwarding (updates : Option (List Iptable))
  | deleteForwarding (deletes : Option (List Iptable))
  | createDmz (iptables : Option Iptable)
  | createNova (services : Option (List IptableNovaService))
  | scan (running : Bool) (found : Option (List Mesh.DeviceInfo))

def whenPresent {α β : Type} (payload : Option α) (program : α -> Daemon β) :
    Daemon Unit :=
  match payload with
  | some value => do
      let _ <- program value
      return ()
  | none => return ()

namespace FirewallRequest

def exec : FirewallRequest -> Daemon Unit
  | createForwarding uuid creates =>
      whenPresent creates (iptablesDnatForwardingCreate uuid)
  | updateForwarding updates =>
      whenPresent updates iptablesDnatForwardingUpdate
  | deleteForwarding deletes =>
      whenPresent deletes iptablesDnatForwardingDelete
  | createDmz iptables => whenPresent iptables iptableDnatDmzUpdate
  | createNova services => whenPresent services iptableNovaServiceSet
  | scan running found =>
      if running then do
        let _ <- openWhile (field found)
        return ()
      else return ()

end FirewallRequest

/-!
## Rules of the Nova services
-/

/-- The commands that open the ports of the Nova services. -/
def novaCommands (services : List IptableNovaService) : List IptablesCommand :=
  ((novaProfiles services).map iptablesOpenPortProfiles).flatten

/-- The firewall before the ports of the Nova services are opened. -/
def rebuildBeforeNova (w : World) : Firewall :=
  Firewall.accepting.run
    (iptablesDefaultSettingList ++ iptablesDnatDmzProfilesSet (storedDmz w) ++
      iptablesOpenPortProfiles (storedForwarding w))

theorem rebuild_eq (w : World) :
    rebuild w = ((rebuildBeforeNova w).run (novaCommands (storedNova w))).run
      iptableRestrictBasic := by
  unfold rebuild refreshCommands rebuildBeforeNova novaCommands
  simp only [Firewall.run_append]

/-- The rule a command appends to the INPUT chain. -/
def inputRule : IptablesCommand -> Option Rule
  | .append .filter .input rule => some rule
  | _ => none

theorem inputRule_of_open {iptables : List Iptable} {command : IptablesCommand}
    (h : command ∈ iptablesOpenPortProfiles iptables) :
    exists rule, command = .append .filter .input rule := by
  induction iptables with
  | nil => cases h
  | cons first rest ih =>
      unfold iptablesOpenPortProfiles at h
      split at h
      · split at h
        · rcases List.mem_cons.mp h with heq | hrest
          · exact ⟨_, heq⟩
          · exact ih hrest
        · cases h
      · exact ih h

theorem inputRule_of_nova {services : List IptableNovaService}
    {command : IptablesCommand} (h : command ∈ novaCommands services) :
    exists rule, command = .append .filter .input rule := by
  rcases List.mem_flatten.mp h with ⟨commands, hcommands, hmem⟩
  rcases List.mem_map.mp hcommands with ⟨profiles, -, rfl⟩
  exact inputRule_of_open hmem

/-- Appending to the INPUT chain shows which rules were appended. -/
theorem rules_run_of_inputRules {commands : List IptablesCommand}
    (h : forall command, command ∈ commands ->
      exists rule, command = .append .filter .input rule) (fw : Firewall) :
    (fw.run commands).rules .filter .input =
      fw.rules .filter .input ++ commands.filterMap inputRule := by
  induction commands generalizing fw with
  | nil => simp
  | cons command rest ih =>
      rcases h command List.mem_cons_self with ⟨rule, rfl⟩
      rw [Firewall.run_cons,
        ih fun other hother => h other (List.mem_cons_of_mem _ hother)]
      simp [Firewall.apply, Firewall.setRules, inputRule]

theorem eq_of_filterMap_inputRule {commands others : List IptablesCommand}
    (h : forall command, command ∈ commands ->
      exists rule, command = .append .filter .input rule)
    (hothers : forall command, command ∈ others ->
      exists rule, command = .append .filter .input rule)
    (heq : commands.filterMap inputRule = others.filterMap inputRule) :
    commands = others := by
  have hmap : forall list : List IptablesCommand,
      (forall command, command ∈ list ->
        exists rule, command = .append .filter .input rule) ->
      (list.filterMap inputRule).map (.append .filter .input) = list := by
    intro list hlist
    induction list with
    | nil => rfl
    | cons command rest ih =>
        rcases hlist command List.mem_cons_self with ⟨rule, rfl⟩
        have hrest := ih fun other hother =>
          hlist other (List.mem_cons_of_mem _ hother)
        rw [List.filterMap_cons_some (by rfl), List.map_cons, hrest]
  rw [← hmap commands h, heq, hmap others hothers]

/-- Two worlds that differ in the Nova services only have the same firewall
exactly when the services open the same ports. -/
theorem rebuild_eq_iff {w v : World} (hdmz : storedDmz v = storedDmz w)
    (hforwarding : storedForwarding v = storedForwarding w) :
    rebuild v = rebuild w <->
      novaCommands (storedNova v) = novaCommands (storedNova w) := by
  have hbefore : rebuildBeforeNova v = rebuildBeforeNova w := by
    unfold rebuildBeforeNova
    rw [hdmz, hforwarding]
  rw [rebuild_eq, rebuild_eq, hbefore]
  constructor
  · intro h
    have hrules := congrArg (fun fw => fw.rules .filter .input) h
    change ((rebuildBeforeNova w).run _).rules .filter .input =
      ((rebuildBeforeNova w).run _).rules .filter .input at hrules
    rw [rules_run_of_inputRules fun _ => inputRule_of_nova,
      rules_run_of_inputRules fun _ => inputRule_of_nova] at hrules
    exact eq_of_filterMap_inputRule (fun _ => inputRule_of_nova)
      (fun _ => inputRule_of_nova) (List.append_cancel_left hrules)
  · intro h
    rw [h]

/-!
## Steps
-/

/-- The installed firewall is the one the files stand for. -/
structure Installed (w : World) : Prop where
  healthy : Healthy w.files
  carries : CarriesPortProfiles (storedNova w)
  firewall : w.firewall = rebuild w

theorem Installed.policy_input {w : World} (h : Installed w) :
    w.firewall.policy .input = .drop := by
  rw [h.firewall]
  exact Firewall.policy_input_run_refreshCommands _ _ _ _

theorem installed_refreshed {w : World} (h : Healthy w.files)
    (hcarries : CarriesPortProfiles (storedNova w)) : Installed (refreshed w) where
  healthy := h
  carries := hcarries
  firewall := rfl

theorem wlp_whenPresent {α β : Type} {payload : Option α}
    {program : α -> Daemon β} {post : Unit -> World -> Prop} {w : World}
    (hnone : payload = none -> post () w)
    (hsome : forall value, payload = some value ->
      wlp (program value) (fun _ w' => post () w') w) :
    wlp (whenPresent payload program) post w := by
  cases payload with
  | none => exact hnone rfl
  | some value =>
      unfold whenPresent
      rw [wlp_bind]
      exact hsome value rfl

namespace FirewallRequest

/-- Every Nova service of the payload carries port profiles. -/
def Carries : FirewallRequest -> Prop
  | createNova (some services) => CarriesPortProfiles services
  | _ => True

/-- The Nova services of the payload open the ports that are open already. -/
def KeepsRules (w : World) : FirewallRequest -> Prop
  | createNova (some services) =>
      novaCommands services = novaCommands (storedNova w)
  | _ => True

end FirewallRequest

section

variable {w : World}

/-- Setting the Nova services keeps the firewalls equal exactly when the ports
stay the same. -/
theorem wp_iptableNovaServiceSet_iff (h : Installed w)
    {services : List IptableNovaService} (hcarries : CarriesPortProfiles services) :
    wp (iptableNovaServiceSet services) (fun _ w' => Installed w') w <->
      novaCommands services = novaCommands (storedNova w) := by
  rcases cvtIptableNovaServiceListToJson_of_carries hcarries with ⟨tree, htree⟩
  have hstored : storedNova (w.storeJson .iptablesNovaSetting tree) = services := by
    unfold storedNova
    rw [World.json_storeJson_self]
    exact cvtJsonToIptableNovaServiceList_of_encoded htree
  have hsame := rebuild_eq_iff (w := w)
    (v := w.storeJson .iptablesNovaSetting tree) (by simp [storedDmz])
    (by simp [storedForwarding])
  rw [hstored] at hsame
  rw [wp_iptableNovaServiceSet h.healthy, htree]
  constructor
  · rintro ⟨other, heq, hinstalled⟩
    cases heq
    apply hsame.mp
    rw [← hinstalled.firewall, ← h.firewall]
    rfl
  · intro hcommands
    refine ⟨tree, rfl, h.healthy.store _ _, ?_, ?_⟩
    · rw [hstored]
      exact hcarries
    · rw [hsame.mpr hcommands]
      exact h.firewall

theorem installed_storeForwarding (h : Installed w) (iptables : List Iptable) :
    Installed (refreshed (storeForwarding iptables w)) := by
  apply installed_refreshed (h.healthy.store _ _)
  rw [storedNova_storeForwarding]
  exact h.carries

/-- A completed request keeps the firewalls equal. -/
theorem wlp_exec_of_keepsRules (h : Installed w) {request : FirewallRequest}
    (hcarries : request.Carries) (hkeeps : request.KeepsRules w) :
    wlp request.exec (fun _ w' => Installed w') w := by
  cases request with
  | createForwarding uuid creates =>
      apply wlp_whenPresent fun _ => h
      intro value _
      apply wlp_of_wp
      rw [wp_iptablesDnatForwardingCreate h.healthy]
      exact ⟨h.carries, installed_storeForwarding h _⟩
  | updateForwarding updates =>
      apply wlp_whenPresent fun _ => h
      intro value _
      apply wlp_of_wp
      rw [wp_iptablesDnatForwardingUpdate h.healthy]
      exact ⟨h.carries, installed_storeForwarding h _⟩
  | deleteForwarding deletes =>
      apply wlp_whenPresent fun _ => h
      intro value _
      apply wlp_of_wp
      rw [wp_iptablesDnatForwardingDelete h.healthy]
      exact ⟨h.carries, installed_storeForwarding h _⟩
  | createDmz iptables =>
      apply wlp_whenPresent fun _ => h
      intro value _
      apply wlp_of_wp
      rw [wp_iptableDnatDmzUpdate h.healthy]
      refine ⟨h.carries, installed_refreshed (h.healthy.store _ _) ?_⟩
      rw [storedNova_storeDmz]
      exact h.carries
  | createNova services =>
      apply wlp_whenPresent fun _ => h
      intro value hvalue
      subst hvalue
      exact wlp_of_wp ((wp_iptableNovaServiceSet_iff h hcarries).mpr hkeeps)
  | scan running found =>
      cases running with
      | false => exact h
      | true =>
          show wlp (openWhile (field found) >>= fun _ => pure ()) _ w
          rw [wlp_bind]
          cases found with
          | none => exact trivial
          | some devices =>
              apply wlp_of_wp
              rw [wp_openWhile_field h.healthy]
              exact ⟨devices, rfl, h.carries,
                installed_refreshed h.healthy h.carries⟩

end

/-!
## Runs
-/

/-- One completed request. -/
def FirewallStep (w : World) (request : FirewallRequest) (w' : World) : Prop :=
  request.Carries ∧ request.exec w = .ok ((), w')

/-- Refreshing rebuilds the firewall whatever was installed, and a run whose
Nova services open the ports that are open already ends with the firewall that
the files then stand for, closed for everything else. -/
theorem installed_of_run {w w' : World} {requests : List FirewallRequest}
    (h : Healthy w.files) (hcarries : CarriesPortProfiles (storedNova w))
    (hrun : Runs (fun s request s' => FirewallStep s request s' ∧
      request.KeepsRules s) (refreshed w) requests w') :
    (forall fw, iptablesRefresh { w with firewall := fw } =
      .ok (.success, refreshed w)) ∧
    w'.firewall = rebuild w' ∧ w'.firewall.policy .input = .drop := by
  constructor
  · intro fw
    apply run_of_wp
    rw [wp_iptablesRefresh (w := { w with firewall := fw }) h]
    exact ⟨hcarries, rfl, rfl⟩
  · have hend := hrun.invariant Installed
      (by
        rintro s request s' hs ⟨⟨hpayload, hexec⟩, hkeeps⟩
        exact wlp_iff.mp (wlp_exec_of_keepsRules hs hpayload hkeeps) () s' hexec)
      (installed_refreshed h hcarries)
    exact ⟨hend.firewall, hend.policy_input⟩

/-!
## A run, and a service that is not opened
-/

def webServer : Iptable where
  name := some "web"
  portRange := some "443"
  protocol := some "tcp"
  enable := true

/-- Opening a port, then scanning, then setting no Nova services. -/
theorem installed_of_run_webServer :
    exists w', Runs FirewallStep (refreshed World.installed)
      [.createForwarding (fun _ => "1") (some [webServer]), .scan true (some []),
        .createNova (some [])] w' ∧
      w'.firewall = rebuild w' ∧ w'.firewall.policy .input = .drop := by
  have hrun : exists w', Runs
      (fun s request s' => FirewallStep s request s' ∧ request.KeepsRules s)
      (refreshed World.installed)
      [.createForwarding (fun _ => "1") (some [webServer]), .scan true (some []),
        .createNova (some [])] w' := by
    refine ⟨_, Runs.cons ⟨⟨trivial, rfl⟩, trivial⟩
      (Runs.cons ⟨⟨trivial, rfl⟩, trivial⟩
        (Runs.cons ⟨⟨?_, rfl⟩, ?_⟩ (Runs.nil _)))⟩
    · intro service hmem
      cases hmem
    · rfl
  rcases hrun with ⟨w', hrun⟩
  exact ⟨w', hrun.mono fun _ _ _ hstep => hstep.1,
    (installed_of_run healthy_installed (by decide) hrun).2⟩

/-- A Nova service that opens a port is stored and not installed. -/
theorem not_installed_of_nova :
    ¬ forall (w w' : World) (requests : List FirewallRequest),
      Healthy w.files -> CarriesPortProfiles (storedNova w) ->
      Runs FirewallStep (refreshed w) requests w' ->
      (forall fw, iptablesRefresh { w with firewall := fw } =
        .ok (.success, refreshed w)) ∧
      w'.firewall = rebuild w' ∧ w'.firewall.policy .input = .drop := by
  intro hclaim
  have hcarries : CarriesPortProfiles (storedNova World.installed) := by
    decide
  have hpayload : (FirewallRequest.createNova
      (some [{ name := some "web", portProfiles := some [webServer] }])).Carries := by
    intro service hmem
    rw [List.mem_singleton.mp hmem]
    exact Option.some_ne_none _
  have hend := hclaim World.installed _ _ healthy_installed hcarries
    (Runs.cons ⟨hpayload, rfl⟩ (Runs.nil _))
  have hlength := congrArg (fun fw => (fw.rules .filter .input).length) hend.2.1
  revert hlength
  decide

end Network
end Noc
