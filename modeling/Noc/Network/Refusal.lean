import Noc.Mesh.Staging.Calls
import Noc.Network.CommandLines
import Noc.Network.Saving
import Noc.Rewriting
import Noc.Utils.UciLine
import Noc.Utils.UciPackage

/-!
# What a refused write leaves behind

The setters of the LAN, the WAN and the routes change the running system before
they save.  When the save is refused they return its error and undo nothing, so
the system stays as it was only where the change was none.  A command that the
shell refuses changes nothing; the `(null)` of a missing field makes it one.
-/

namespace Noc

open Foundation
open Foundation.Exec
open Utils

/-!
## A save that may be refused
-/

/-- The world a save leaves. -/
def World.afterSave (w : World) (tree : Json) (file : DaemonFile) : World :=
  { w with
    files :=
      { store file (Body.json tree) (nextFopen w.files) with locked := false } }

/-- A file can be read when the mutex is free and the file opens. -/
def World.reads (w : World) (file : DaemonFile) : Prop :=
  w.files.locked = false ∧ opened file w.files ≠ none

section

variable {w : World}

theorem run_writeJson_of_refused (hunlocked : w.files.locked = false)
    (hrefused : w.files.fopenFails 0 = true) (tree : Json) (file : DaemonFile) :
    writeJson tree file w = .ok (-1, w.afterRefusal) := by
  apply run_of_wp
  unfold writeJson onFiles
  rw [wp_zoom, wp_writeData, if_pos (Or.inl rfl), hrefused, if_pos rfl]
  exact ⟨hunlocked, rfl, rfl⟩

theorem run_writeJson_of_opens (hunlocked : w.files.locked = false)
    (hopens : w.files.fopenFails 0 = false) (tree : Json) (file : DaemonFile) :
    writeJson tree file w = .ok (0, w.afterSave tree file) := by
  apply run_of_wp
  unfold writeJson onFiles
  rw [wp_zoom, wp_writeData, if_pos (Or.inl rfl), hopens,
    if_neg Bool.false_ne_true]
  exact ⟨hunlocked, rfl, rfl⟩

theorem writeJson_of_locked (hlocked : w.files.locked = true) (tree : Json)
    (file : DaemonFile) : writeJson tree file w = .error (.blocked, w) := by
  unfold writeJson onFiles zoom
  rw [writeData_of_locked hlocked]

theorem readJson_of_locked (hlocked : w.files.locked = true) (file : DaemonFile) :
    readJson file w = .error (.blocked, w) := by
  unfold readJson onFiles zoom
  rw [loadJsonFromFile_of_locked hlocked]

theorem run_readJson_of_unlocked (hunlocked : w.files.locked = false)
    (file : DaemonFile) :
    readJson file w =
      .ok ((opened file w.files).bind Body.parse, w.afterOpen file) :=
  run_of_wp ((wp_readJson_iff _).mpr ⟨hunlocked, rfl, rfl⟩)

theorem run_readJson_of_reads {file : DaemonFile} (h : w.reads file) :
    readJson file w = .ok (w.json file, w.afterFopen) := by
  rcases Option.ne_none_iff_exists'.mp h.2 with ⟨body, hbody⟩
  have hcontent : w.files.content file = some body := by
    unfold opened at hbody
    split at hbody
    · cases hbody
    · exact hbody
  have hsame : { nextFopen w.files with locked := false } = nextFopen w.files := by
    unfold nextFopen
    rw [← h.1]
  rw [run_readJson_of_unlocked h.1]
  unfold World.json World.afterFopen World.afterOpen
  rw [hbody, hcontent, Option.isNone_some, hsame]

theorem World.runIpRoute_append (w : World)
    (commands later : List Network.IpRouteCommand) :
    (w.runIpRoute commands).runIpRoute later =
      w.runIpRoute (commands ++ later) := by
  simp [World.runIpRoute, Network.runIpRoute]

end

namespace Network

open Api
open Mesh

/-!
## The routing table after a list of commands

What decides about a route is the last command that names it.
-/

namespace IpRouteCommand

def route : IpRouteCommand -> KernelRoute
  | add route => route
  | del route => route

def adds : IpRouteCommand -> Bool
  | add _ => true
  | del _ => false

end IpRouteCommand

def lastCommand (commands : List IpRouteCommand) (route : KernelRoute) :
    Option IpRouteCommand :=
  commands.reverse.find? fun command => command.route = route

theorem IpRouteCommand.mem_apply (table : Finset KernelRoute)
    (command : IpRouteCommand) (route : KernelRoute) :
    route ∈ command.apply table <->
      if command.route = route then command.adds = true else route ∈ table := by
  by_cases hroute : command.route = route
  · subst hroute
    rw [if_pos rfl]
    cases command with
    | add route => simp [apply, IpRouteCommand.route, adds]
    | del route => simp [apply, IpRouteCommand.route, adds]
  · rw [if_neg hroute]
    have hne := Ne.symm hroute
    cases command with
    | add other => exact Finset.mem_insert.trans (or_iff_right hne)
    | del other => exact Finset.mem_erase.trans (and_iff_right hne)

theorem mem_runIpRoute (table : Finset KernelRoute)
    (commands : List IpRouteCommand) (route : KernelRoute) :
    route ∈ runIpRoute table commands <->
      match lastCommand commands route with
      | some command => command.adds = true
      | none => route ∈ table := by
  induction commands using List.reverseRecOn with
  | nil => exact Iff.rfl
  | append_singleton front command ih =>
      have hrun : runIpRoute table (front ++ [command]) =
          command.apply (runIpRoute table front) := List.foldl_append
      rw [hrun, IpRouteCommand.mem_apply]
      unfold lastCommand
      rw [List.reverse_append, List.reverse_singleton, List.singleton_append,
        List.find?_cons]
      by_cases hroute : command.route = route
      · simp [hroute]
      · rw [if_neg hroute, decide_eq_false hroute]
        exact ih

/-- The last command on each route finds the table as it leaves it. -/
def Repeats (commands : List IpRouteCommand) (table : Finset KernelRoute) : Prop :=
  forall route command, lastCommand commands route = some command ->
    (command.adds = true <-> route ∈ table)

theorem runIpRoute_eq_self_iff (commands : List IpRouteCommand)
    (table : Finset KernelRoute) :
    runIpRoute table commands = table <-> Repeats commands table := by
  constructor
  · intro h route command hlast
    have hmem := mem_runIpRoute table commands route
    rw [h, hlast] at hmem
    exact hmem.symm
  · intro h
    ext route
    rw [mem_runIpRoute]
    cases hlast : lastCommand commands route with
    | none => exact Iff.rfl
    | some command => exact h route command hlast

/-!
## What the shell hands on
-/

/-- The commands on routes that are run. -/
def handedRoutes (commands : List IpRouteCommand) : List IpRouteCommand :=
  commands.filter fun command => !Shell.refuses command.line.toList

/-- The shell takes both commands on this route. -/
def routeHanded (route : KernelRoute) : Bool :=
  !Shell.refuses (IpRouteCommand.add route).line.toList

/-- The kernel's routes among those that the commands make in any case. -/
def kernelTable (w : World) : Finset KernelRoute :=
  w.kernelRoutes.filter fun route => routeHanded route = true

/-- The changes that UCI was told of. -/
def handedStore (initial : StagingStore String UciCommand) (w : World) :
    StagingStore String UciCommand :=
  initial.run ((w.uci.filterMap UciCommand.handed).map UciCommand.op)

/-- Lines that ran something else. -/
def strayLines (w : World) : List UciCommand :=
  w.uci.filter UciCommand.strays

/-- Both commands differ in a word before the fields. -/
theorem refuses_line (command : IpRouteCommand) :
    Shell.refuses command.line.toList = !routeHanded command.route := by
  have hplain : Shell.PlainWord "ip".toList ∧ Shell.PlainWord "route".toList ∧
      Shell.PlainWord "add".toList ∧ Shell.PlainWord "del".toList := by
    decide +kernel
  have hsplit : forall (verb : String) (route : KernelRoute),
      (composed ("ip route " ++ verb ++ " ") route).toList =
        "ip".toList ++ ' ' :: ("route".toList ++ ' ' :: (verb.toList ++
          ' ' :: (composed "" route).toList)) := by
    intro verb route
    simp [composed]
  have hrest : forall (verb : String) (route : KernelRoute), Shell.PlainWord verb.toList ->
      Shell.refuses (composed ("ip route " ++ verb ++ " ") route).toList =
        Shell.refuses (composed "" route).toList := by
    intro verb route hverb
    rw [hsplit, Shell.refuses_word_blank hplain.1, Shell.refuses_word_blank hplain.2.1,
      Shell.refuses_word_blank hverb]
  have hadd : forall route : KernelRoute,
      Shell.refuses (IpRouteCommand.add route).line.toList = _ :=
    fun route => hrest "add" route hplain.2.2.1
  unfold routeHanded
  rw [Bool.not_not]
  cases command with
  | add route => rfl
  | del route => exact (hrest "del" route hplain.2.2.2).trans (hadd route).symm

/-- The kernel's routes change by the commands that are run. -/
theorem kernelTable_runIpRoute (w : World) (commands : List IpRouteCommand) :
    (runIpRoute w.kernelRoutes commands).filter (fun route => routeHanded route = true) =
      runIpRoute (kernelTable w) (handedRoutes commands) := by
  unfold kernelTable handedRoutes
  generalize w.kernelRoutes = table
  induction commands generalizing table with
  | nil => rfl
  | cons command rest ih =>
      show (runIpRoute (command.apply table) rest).filter _ = _
      rw [ih, List.filter_cons, refuses_line, Bool.not_not]
      cases hhanded : routeHanded command.route with
      | true =>
          rw [if_pos rfl]
          show runIpRoute _ _ = runIpRoute (command.apply _) _
          congr 1
          ext route
          rw [Finset.mem_filter, IpRouteCommand.mem_apply, IpRouteCommand.mem_apply,
            Finset.mem_filter]
          by_cases hroute : command.route = route
          · subst hroute
            simp [hhanded]
          · simp [hroute]
      | false =>
          rw [if_neg Bool.false_ne_true]
          congr 1
          ext route
          rw [Finset.mem_filter, Finset.mem_filter, IpRouteCommand.mem_apply]
          by_cases hroute : command.route = route
          · subst hroute
            simp [hhanded]
          · simp [hroute]

/-!
## Calls
-/

inductive ApplyingCall where
  | lanSet (lan : Lan)
  | wanSet (wan : Wan)
  | routeCreate (uuid : Nat -> String) (creates : List Route)
  | routeUpdate (updates : List Route)
  | routeDelete (deletes : List Route)

/-- The options of UCI, staged and committed, and the kernel's routes are the
same, and no line has run anything else.  They follow from what the packages held
at first and what was staged then. -/
structure SameSystem (base : String -> UciPackage)
    (initial : StagingStore String UciCommand) (w w' : World) : Prop where
  staged : forall package,
    stagedPackage base (handedStore initial w') package =
      stagedPackage base (handedStore initial w) package
  committed : forall package,
    committedPackage base (handedStore initial w') package =
      committedPackage base (handedStore initial w) package
  lines : strayLines w' = strayLines w
  kernelRoutes : kernelTable w' = kernelTable w

def LeavesSystem {α : Type} (base : String -> UciPackage)
    (initial : StagingStore String UciCommand) (set : Daemon α)
    (code : α -> ErrorCode) (w : World) : Prop :=
  wlp set (fun out w' =>
    code out = .internalServer -> SameSystem base initial w w') w

/-- The options `lan_set` sets, and those `wan_set` sets. -/
def lanOptions (lan : Lan) : List (String × Option String) :=
  if lan.bridgeApMode && appStrstr lan.proto (some "dhcp") then
    [("proto", some "dhcp")]
  else [("ipaddr", lan.ipaddr), ("netmask", lan.netmask), ("proto", lan.proto)]

def wanOptions (wan : Wan) : List (String × Option String) :=
  [("proto", wan.proto), ("ipaddr", wan.ipaddr)]

/-- What the shell makes of setting an option of a section of `network`. -/
def readSetting (section_ : String) (setting : String × Option String) :
    AssignmentReading :=
  readAssignment ("network." ++ section_ ++ "." ++ setting.1)
    (UciCommand.set ("network." ++ section_ ++ "." ++ setting.1) setting.2).line

/-- The value is assigned already, or none is; an empty value means that the option
is not there. -/
def Assigned (held : Option UciValue) : AssignmentReading -> Prop
  | .gets value => held = if value = "" then none else some (.text value)
  | .refused => True
  | .strays => False

/-- No line runs anything else, and the section has these options already or there
is no such section. -/
def HoldsOptions (p : UciPackage) (section_ : String)
    (settings : List (String × Option String)) : Prop :=
  forall setting, setting ∈ settings -> readSetting section_ setting ≠ .strays ∧
    forall options, p.named section_ = some options ->
      Assigned (options setting.1) (readSetting section_ setting)

/-- The commands of a loop over the records of a request. -/
def loopCommands (commands : Route -> List Route -> List IpRouteCommand)
    (edit : Route -> List Route -> List Route) :
    List Route -> List Route -> List IpRouteCommand
  | [], _ => []
  | request :: rest, setting =>
      commands request setting ++
        loopCommands commands edit rest (edit request setting)

namespace ApplyingCall

/-- An error that says the file could not be written means nothing happened. -/
def Undone (base : String -> UciPackage)
    (initial : StagingStore String UciCommand) (w : World) : ApplyingCall -> Prop
  | lanSet lan => LeavesSystem base initial (Network.lanSet lan) id w
  | wanSet wan => LeavesSystem base initial (Network.wanSet wan) id w
  | routeCreate uuid creates =>
      LeavesSystem base initial (Network.routeCreate uuid creates) Prod.fst w
  | routeUpdate updates =>
      LeavesSystem base initial (Network.routeUpdate updates) Prod.fst w
  | routeDelete deletes =>
      LeavesSystem base initial (Network.routeDelete deletes) Prod.fst w

/-- The setting can be read and then the save is refused. -/
def Refused (w : World) : ApplyingCall -> Prop
  | lanSet _ | wanSet _ =>
      w.files.locked = false ∧ w.files.fopenFails 0 = true
  | routeCreate _ _ | routeUpdate _ | routeDelete _ =>
      w.files.locked = false ∧ opened .routeSetting w.files ≠ none ∧
        w.files.fopenFails 1 = true

/-- What the call asks for is there already. -/
def InPlace (base : String -> UciPackage)
    (initial : StagingStore String UciCommand) (w : World) : ApplyingCall -> Prop
  | lanSet lan =>
      HoldsOptions (stagedPackage base (handedStore initial w) "network") "lan"
        (lanOptions lan)
  | wanSet wan =>
      HoldsOptions (stagedPackage base (handedStore initial w) "network") "wan"
        (wanOptions wan)
  | routeCreate _ creates =>
      Repeats (handedRoutes (creates.map fun route => .add route.triple))
        (kernelTable w)
  | routeUpdate updates =>
      Repeats (handedRoutes
        (loopCommands updateCommands updatedRoutes updates (storedRoutes w)))
        (kernelTable w)
  | routeDelete deletes =>
      Repeats (handedRoutes
        (loopCommands deleteCommands remainingRoutes deletes (storedRoutes w)))
        (kernelTable w)

end ApplyingCall

/-!
## LAN and WAN
-/

section

variable {base : String -> UciPackage} {initial : StagingStore String UciCommand}
  {w : World} {commands : List UciCommand}

theorem handedStore_runUci (commands : List UciCommand) :
    handedStore initial (w.runUci commands) =
      (handedStore initial w).run
        ((commands.filterMap UciCommand.handed).map UciCommand.op) := by
  unfold handedStore World.runUci
  rw [List.filterMap_append, List.map_append, StagingStore.run_append]

theorem strayLines_runUci_iff (commands : List UciCommand) :
    strayLines (w.runUci commands) = strayLines w <->
      forall command, command ∈ commands -> command.strays = false := by
  unfold strayLines World.runUci
  rw [List.filter_append, List.append_right_eq_self, List.filter_eq_nil_iff]
  simp only [Bool.not_eq_true]

theorem sameSystem_runUci_iff (hnames : NamesPackage "network" commands)
    (hstages : forall command, command ∈ commands -> command.op.target.2 = false) :
    SameSystem base initial w (w.runUci commands) <->
      (forall command, command ∈ commands -> command.strays = false) ∧
        (stagedPackage base (handedStore initial w) "network").run
            (commands.filterMap UciCommand.handed) =
          stagedPackage base (handedStore initial w) "network" := by
  have hreceived : forall received, received ∈ commands.filterMap UciCommand.handed ->
      packageOf received.args = "network" ∧ received.op.target.2 = false := by
    intro received hmem
    rcases List.mem_filterMap.mp hmem with ⟨command, hcommand, hhanded⟩
    rcases UciCommand.handed_cases hhanded with ⟨hargs, htarget⟩
    rw [hargs, htarget]
    exact ⟨hnames command hcommand, hstages command hcommand⟩
  have hnetwork : stagedPackage base ((handedStore initial w).run
      ((commands.filterMap UciCommand.handed).map UciCommand.op)) "network" = _ :=
    stagedPackage_run fun received hmem => (hreceived received hmem).1
  rw [← handedStore_runUci] at hnetwork
  rw [← hnetwork, ← strayLines_runUci_iff (w := w)]
  constructor
  · intro h
    exact ⟨h.lines, h.staged "network"⟩
  · rintro ⟨hlines, h⟩
    refine ⟨?_, ?_, hlines, rfl⟩
    · intro package
      by_cases hpackage : package = "network"
      · rw [hpackage]
        exact h
      · rw [handedStore_runUci]
        apply stagedPackage_run_of_ne
        intro received hmem
        rw [(hreceived received hmem).1]
        exact Ne.symm hpackage
    · intro package
      rw [handedStore_runUci]
      exact committedPackage_run fun received hmem => (hreceived received hmem).2

/-- What the setters of LAN and WAN share. -/
theorem leavesSystem_set_iff (commands : List UciCommand) (tree : Json)
    (file : DaemonFile) :
    LeavesSystem base initial
        (appUci commands >>= fun _ =>
          (writeJson tree file >>= fun ret =>
            pure (if ret = -1 then ErrorCode.internalServer else .success)) >>=
          fun err => if err ≠ .success then pure err
            else appUci [.commit "network"] >>= fun _ => pure .success) id w <->
      (w.files.locked = false -> w.files.fopenFails 0 = true ->
        SameSystem base initial w (w.runUci commands)) := by
  unfold LeavesSystem appUci
  rw [wlp_bind, wlp_modify, wlp_bind, wlp_bind]
  cases hlocked : w.files.locked with
  | true =>
      apply iff_of_true
      · rw [wlp_iff]
        intro ret w' hrun
        rw [writeJson_of_locked (w := w.runUci commands) hlocked] at hrun
        cases hrun
      · intro hunlocked
        cases hunlocked
  | false =>
      cases hrefused : w.files.fopenFails 0 with
      | true =>
          rw [wlp_of_run (run_writeJson_of_refused (w := w.runUci commands)
            hlocked hrefused tree file)]
          constructor
          · intro h _ _
            have hsame := h rfl
            exact ⟨hsame.staged, hsame.committed, hsame.lines, hsame.kernelRoutes⟩
          · intro h _
            have hsame := h rfl rfl
            exact ⟨hsame.staged, hsame.committed, hsame.lines, hsame.kernelRoutes⟩
      | false =>
          rw [wlp_of_run (run_writeJson_of_opens (w := w.runUci commands)
            hlocked hrefused tree file)]
          simp

/-- The commands set distinct options of one section. -/
structure SetsOptions (commands : List UciCommand) (section_ : String)
    (settings : List (String × Option String)) : Prop where
  eq : commands = settings.map fun setting =>
    .set ("network." ++ section_ ++ "." ++ setting.1) setting.2
  package : NamesPackage "network" commands
  names : forall setting, setting ∈ settings ->
    uciName ("network." ++ section_ ++ "." ++ setting.1) =
      some { place := .named section_, option := some setting.1 }
  nodup : (settings.map Prod.fst).Nodup

/-- The options that UCI is told to set. -/
def handedSettings (section_ : String) (settings : List (String × Option String)) :
    List (String × Option String) :=
  settings.filterMap fun setting =>
    match readSetting section_ setting with
    | .gets value => some (setting.1, some value)
    | _ => none

section

variable {section_ : String} {settings : List (String × Option String)}

theorem mem_handedSettings {received : String × Option String} :
    received ∈ handedSettings section_ settings <->
      exists setting, setting ∈ settings ∧ exists value,
        readSetting section_ setting = .gets value ∧
          received = (setting.1, some value) := by
  unfold handedSettings
  rw [List.mem_filterMap]
  apply exists_congr
  intro setting
  apply and_congr_right
  intro _
  cases readSetting section_ setting <;> simp [eq_comm]

theorem fst_handedSettings :
    ((handedSettings section_ settings).map Prod.fst).Sublist (settings.map Prod.fst) := by
  unfold handedSettings
  induction settings with
  | nil => exact List.Sublist.refl _
  | cons setting rest ih =>
      rw [List.filterMap_cons, List.map_cons]
      cases readSetting section_ setting with
      | gets value => exact ih.cons_cons _
      | refused => exact ih.cons _
      | strays => exact ih.cons _

theorem filterMap_handed :
    (settings.map fun setting =>
        UciCommand.set ("network." ++ section_ ++ "." ++ setting.1) setting.2).filterMap
          UciCommand.handed =
      (handedSettings section_ settings).map fun setting =>
        .set ("network." ++ section_ ++ "." ++ setting.1) setting.2 := by
  unfold handedSettings
  rw [List.filterMap_map, List.map_filterMap]
  congr 1
  funext setting
  show UciCommand.handed (.set _ _) = _
  unfold UciCommand.handed readSetting
  dsimp only
  cases readAssignment _ _ <;> rfl

/-- Setting them changes nothing in a section. -/
theorem assigned_iff (hlines : forall setting, setting ∈ settings ->
      readSetting section_ setting ≠ .strays) (options : UciSection) :
    (forall received, received ∈ handedSettings section_ settings ->
        UciPackage.setOption received.2 (options received.1) = options received.1) <->
      forall setting, setting ∈ settings ->
        Assigned (options setting.1) (readSetting section_ setting) := by
  constructor
  · intro h setting hmem
    cases hread : readSetting section_ setting with
    | gets value =>
        exact (h (setting.1, some value)
          (mem_handedSettings.mpr ⟨setting, hmem, value, hread, rfl⟩)).symm
    | refused => trivial
    | strays => exact absurd hread (hlines setting hmem)
  · intro h received hmem
    rcases mem_handedSettings.mp hmem with ⟨setting, hsetting, value, hread, rfl⟩
    have hassigned := h setting hsetting
    rw [hread] at hassigned
    exact hassigned.symm

theorem SetsOptions.sameSystem_iff (h : SetsOptions commands section_ settings) :
    SameSystem base initial w (w.runUci commands) <->
      HoldsOptions (stagedPackage base (handedStore initial w) "network") section_
        settings := by
  have hstages : forall command, command ∈ commands ->
      command.op.target.2 = false := by
    rw [h.eq]
    intro command hmem
    rcases List.mem_map.mp hmem with ⟨setting, _, rfl⟩
    rfl
  have hlines : (forall command, command ∈ commands -> command.strays = false) <->
      forall setting, setting ∈ settings -> readSetting section_ setting ≠ .strays := by
    rw [h.eq, List.forall_mem_map]
    simp only [UciCommand.strays, decide_eq_false_iff_not]
    exact Iff.rfl
  have hnames : forall received, received ∈ handedSettings section_ settings ->
      uciName ("network." ++ section_ ++ "." ++ received.1) =
        some { place := .named section_, option := some received.1 } := by
    intro received hmem
    rcases mem_handedSettings.mp hmem with ⟨setting, hsetting, _, _, rfl⟩
    exact h.names setting hsetting
  have hnodup : ((handedSettings section_ settings).map Prod.fst).Nodup :=
    h.nodup.sublist fst_handedSettings
  rw [sameSystem_runUci_iff h.package hstages, hlines, h.eq, filterMap_handed,
    UciPackage.run_sets hnames, UciPackage.edit_eq_self_iff]
  unfold HoldsOptions
  constructor
  · rintro ⟨hstray, hsame⟩ setting hmem
    refine ⟨hstray setting hmem, ?_⟩
    intro options hfind
    exact (assigned_iff hstray options).mp
      ((UciPackage.setOptions_eq_self_iff hnodup options).mp (hsame options hfind))
      setting hmem
  · intro hholds
    have hstray := fun setting hmem => (hholds setting hmem).1
    refine ⟨hstray, ?_⟩
    intro options hfind
    apply (UciPackage.setOptions_eq_self_iff hnodup options).mpr
    apply (assigned_iff hstray options).mpr
    intro setting hmem
    exact (hholds setting hmem).2 options hfind

end

theorem setsOptions_lanCommands (lan : Lan) :
    SetsOptions (lanCommands lan) "lan" (lanOptions lan) where
  eq := by
    unfold lanCommands lanOptions
    split <;> rfl
  package := names_lanCommands lan
  names := by
    unfold lanOptions
    split
    · simp only [List.forall_mem_singleton]
      decide
    · simp only [List.forall_mem_cons]
      exact ⟨by decide, by decide, by decide, List.forall_mem_nil _⟩
  nodup := by
    unfold lanOptions
    split
    · exact List.nodup_singleton _
    · show ["ipaddr", "netmask", "proto"].Nodup
      decide

theorem setsOptions_wanCommands (wan : Wan) :
    SetsOptions
      [.set "network.wan.proto" wan.proto, .set "network.wan.ipaddr" wan.ipaddr]
      "wan" (wanOptions wan) where
  eq := rfl
  package := names_wanCommands wan
  names := by
    unfold wanOptions
    simp only [List.forall_mem_cons]
    exact ⟨by decide, by decide, List.forall_mem_nil _⟩
  nodup := by
    show ["proto", "ipaddr"].Nodup
    decide

theorem undone_lanSet_iff (lan : Lan) :
    (ApplyingCall.lanSet lan).Undone base initial w <->
      ((ApplyingCall.lanSet lan).Refused w ->
        (ApplyingCall.lanSet lan).InPlace base initial w) := by
  show LeavesSystem base initial (lanSet lan) id w <-> _
  unfold lanSet lanSaveToSettingFile
  rw [leavesSystem_set_iff, (setsOptions_lanCommands lan).sameSystem_iff]
  exact and_imp.symm

theorem undone_wanSet_iff (wan : Wan) :
    (ApplyingCall.wanSet wan).Undone base initial w <->
      ((ApplyingCall.wanSet wan).Refused w ->
        (ApplyingCall.wanSet wan).InPlace base initial w) := by
  show LeavesSystem base initial (wanSet wan) id w <-> _
  unfold wanSet wanSaveToSettingFile
  rw [leavesSystem_set_iff, (setsOptions_wanCommands wan).sameSystem_iff]
  exact and_imp.symm

/-!
## Routes
-/

/-- A loop runs its commands; records that find no route run none. -/
theorem run_routeLoop_commands {commands : Route -> List Route -> List IpRouteCommand}
    (edit : Route -> List Route -> List Route)
    (hnone : forall request setting, setting.any (matchesId request) = false ->
      commands request setting = [])
    (requests setting : List Route) (foundId : Bool) (w : World) :
    exists out, routeLoop commands edit requests setting foundId w =
        .ok (out, w.runIpRoute (loopCommands commands edit requests setting)) ∧
      (out.2 = false -> foundId = false ∧
        loopCommands commands edit requests setting = []) := by
  induction requests generalizing setting foundId w with
  | nil => exact ⟨(setting, foundId), rfl, fun h => ⟨h, rfl⟩⟩
  | cons request rest ih =>
      rcases ih (edit request setting) (foundId || setting.any (matchesId request))
          (w.runIpRoute (commands request setting)) with ⟨out, hrun, hfound⟩
      refine ⟨out, ?_, ?_⟩
      · unfold loopCommands
        rw [← World.runIpRoute_append, ← hrun]
        rfl
      · intro hout
        rcases hfound hout with ⟨hflags, hcommands⟩
        rw [Bool.or_eq_false_iff] at hflags
        refine ⟨hflags.1, ?_⟩
        unfold loopCommands
        rw [hnone request setting hflags.2, hcommands]
        rfl

theorem updateCommands_of_not_any (update : Route) (setting : List Route)
    (hnone : setting.any (matchesId update) = false) :
    updateCommands update setting = [] := by
  have hfind : setting.find? (matchesId update) = none := by
    simpa using hnone
  unfold updateCommands
  rw [hfind]

theorem deleteCommands_of_not_any (delete : Route) (setting : List Route)
    (hnone : setting.any (matchesId delete) = false) :
    deleteCommands delete setting = [] := by
  unfold deleteCommands
  rw [hnone]
  rfl

/-- Where no UCI command is run, only the routes can differ. -/
theorem sameSystem_iff_of_uci {w' : World} (huci : w'.uci = w.uci) :
    SameSystem base initial w w' <-> kernelTable w' = kernelTable w := by
  have hstore : handedStore initial w' = handedStore initial w := by
    unfold handedStore
    rw [huci]
  have hlines : strayLines w' = strayLines w := by
    unfold strayLines
    rw [huci]
  constructor
  · intro h
    exact h.kernelRoutes
  · intro h
    exact ⟨fun _ => by rw [hstore], fun _ => by rw [hstore], hlines, h⟩

/-- A save of routes after some `ip route` commands. -/
theorem wlp_routeSave_iff (commands : List IpRouteCommand) (routes : List Route)
    (w' : World) (huci : w'.uci = w.uci)
    (hroutes : w'.kernelRoutes = runIpRoute w.kernelRoutes commands) :
    wlp (routeSaveToSettingFile routes) (fun err w'' =>
        err = .internalServer -> SameSystem base initial w w'') w' <->
      (w'.files.locked = false -> w'.files.fopenFails 0 = true ->
        Repeats (handedRoutes commands) (kernelTable w)) := by
  unfold routeSaveToSettingFile
  rw [wlp_bind]
  cases hlocked : w'.files.locked with
  | true =>
      apply iff_of_true
      · rw [wlp_iff]
        intro ret w'' hrun
        rw [writeJson_of_locked hlocked] at hrun
        cases hrun
      · intro hunlocked
        cases hunlocked
  | false =>
      cases hrefused : w'.files.fopenFails 0 with
      | true =>
          have hafter : SameSystem base initial w w'.afterRefusal <->
              Repeats (handedRoutes commands) (kernelTable w) := by
            rw [← runIpRoute_eq_self_iff, ← kernelTable_runIpRoute, ← hroutes]
            exact sameSystem_iff_of_uci huci
          rw [wlp_of_run (run_writeJson_of_refused hlocked hrefused _ _),
            ← hafter]
          exact ⟨fun h _ _ => h rfl, fun h _ => h rfl rfl⟩
      | false =>
          rw [wlp_of_run (run_writeJson_of_opens hlocked hrefused _ _)]
          simp

/-- What the route operations share: they read the stored routes first. -/
theorem leavesSystem_routes_iff {next : List Route -> Daemon (ErrorCode × List Route)}
    (commands : List Route -> List IpRouteCommand)
    (hnext : forall routes w', w'.uci = w.uci -> w'.kernelRoutes = w.kernelRoutes ->
      (wlp (next routes) (fun out w'' =>
          out.1 = .internalServer -> SameSystem base initial w w'') w' <->
        (w'.files.locked = false -> w'.files.fopenFails 0 = true ->
          Repeats (handedRoutes (commands routes)) (kernelTable w)))) :
    LeavesSystem base initial (routeRequestFromSettingFile >>= next) Prod.fst w <->
      (w.files.locked = false ∧ opened .routeSetting w.files ≠ none ∧
        w.files.fopenFails 1 = true ->
          Repeats (handedRoutes (commands (storedRoutes w))) (kernelTable w)) := by
  unfold LeavesSystem routeRequestFromSettingFile
  rw [wlp_bind, wlp_bind]
  cases hlocked : w.files.locked with
  | true =>
      apply iff_of_true
      · rw [wlp_iff]
        intro json w' hrun
        rw [readJson_of_locked hlocked] at hrun
        cases hrun
      · intro h
        cases h.1
  | false =>
      by_cases hopened : opened .routeSetting w.files = none
      · rw [wlp_of_run (run_readJson_of_unlocked hlocked _), wlp_pure]
        apply iff_of_true
        · apply (hnext _ (w.afterOpen .routeSetting) rfl rfl).mpr
          intro hunlocked
          unfold World.afterOpen at hunlocked
          rw [hopened] at hunlocked
          cases hunlocked
        · intro h
          exact absurd hopened h.2.1
      · rw [wlp_of_run (run_readJson_of_reads ⟨hlocked, hopened⟩)]
        refine (hnext _ w.afterFopen rfl rfl).trans ?_
        constructor
        · intro h hrefused
          exact h hlocked hrefused.2.2
        · intro h _ hrefused
          exact h ⟨rfl, hopened, hrefused⟩

theorem undone_routeCreate_iff (uuid : Nat -> String) (creates : List Route) :
    (ApplyingCall.routeCreate uuid creates).Undone base initial w <->
      ((ApplyingCall.routeCreate uuid creates).Refused w ->
        (ApplyingCall.routeCreate uuid creates).InPlace base initial w) := by
  apply leavesSystem_routes_iff
    (fun _ => creates.map fun route => .add route.triple)
  intro routes w' huci hroutes
  unfold execlIpRoute
  rw [wlp_bind, wlp_modify, wlp_bind]
  apply wlp_routeSave_iff _ _ (w'.runIpRoute _) huci
  rw [World.kernelRoutes_runIpRoute, hroutes]

theorem undone_routeUpdate_iff (updates : List Route) :
    (ApplyingCall.routeUpdate updates).Undone base initial w <->
      ((ApplyingCall.routeUpdate updates).Refused w ->
        (ApplyingCall.routeUpdate updates).InPlace base initial w) := by
  apply leavesSystem_routes_iff
    (loopCommands updateCommands updatedRoutes updates)
  intro routes w' huci hroutes
  rcases run_routeLoop_commands updatedRoutes updateCommands_of_not_any
    updates routes false w' with ⟨out, hrun, hfound⟩
  rw [wlp_bind, wlp_of_run hrun, wlp_ite]
  cases hout : out.2 with
  | true =>
      rw [if_pos rfl, wlp_bind]
      apply wlp_routeSave_iff _ _ (w'.runIpRoute _) huci
      rw [World.kernelRoutes_runIpRoute, hroutes]
  | false =>
      rw [if_neg Bool.false_ne_true, (hfound hout).2]
      apply iff_of_true
      · intro hcode
        cases hcode
      · intro _ _ route command hlast
        cases hlast

theorem undone_routeDelete_iff (deletes : List Route) :
    (ApplyingCall.routeDelete deletes).Undone base initial w <->
      ((ApplyingCall.routeDelete deletes).Refused w ->
        (ApplyingCall.routeDelete deletes).InPlace base initial w) := by
  apply leavesSystem_routes_iff
    (loopCommands deleteCommands remainingRoutes deletes)
  intro routes w' huci hroutes
  rcases run_routeLoop_commands remainingRoutes deleteCommands_of_not_any
    deletes routes false w' with ⟨⟨array, foundId⟩, hrun, -⟩
  let w'' := w'.runIpRoute
    (loopCommands deleteCommands remainingRoutes deletes routes)
  let written := if foundId then array.take (routes.length - 1) else array
  let report (err : ErrorCode) : Daemon (ErrorCode × List Route) :=
    if err ≠ .success then pure (err, written)
    else pure (if foundId then .success else .idMismatched, written)
  have hreport : forall err after,
      wlp (report err) (fun out after =>
        out.1 = .internalServer -> SameSystem base initial w after) after <->
      (err = .internalServer -> SameSystem base initial w after) := by
    intro err after
    by_cases hsuccess : err = .success
    · cases foundId <;> simp [report, hsuccess]
    · simp [report, hsuccess]
  have hsave : wlp (routeSaveToSettingFile written) (fun err after =>
      err = .internalServer -> SameSystem base initial w after) w'' <-> _ :=
    wlp_routeSave_iff (loopCommands deleteCommands remainingRoutes deletes routes)
      written w'' huci (by rw [World.kernelRoutes_runIpRoute, hroutes])
  rw [wlp_bind, wlp_of_run hrun]
  refine Iff.trans ?_ hsave
  show wlp (routeSaveToSettingFile written >>= report) _ w'' <-> _
  rw [wlp_bind]
  exact ⟨wlp_mono fun err after => (hreport err after).mp,
    wlp_mono fun err after => (hreport err after).mpr⟩

/-!
## All setters
-/

end

/-- A LAN section with an address. -/
def homePackage : UciPackage where
  named name :=
    if name = "lan" then
      some fun option =>
        if option = "ipaddr" then some (.text "192.168.1.1") else none
    else none
  typed _ := []

/-- The installed daemon when the next `fopen` is refused. -/
def refusingWorld : World :=
  { World.installed with
    files := { World.installed.files with fopenFails := fun n => n == 0 } }

end Network
end Noc
