import Noc.Foundation.Runs
import Noc.Mesh.RunMode

/-!
# The bridge over mode switches

Each mode keeps one block at the end of the broker's configuration file, or
none.  Appending a block, cutting one off and looking one up agree on where the
block starts, so the lines in front of it survive every sequence of switches.
-/

namespace Noc
namespace Mesh

open Config
open Foundation
open Foundation.Exec
open Utils

/-!
## Bridge steps of a switch
-/

def bridgeSteps : WorkMode -> Daemon Unit
  | .standalone => do
      dropMqttBridgeClient
      dropMqttBridgeServer
  | .agent => do
      dropMqttBridgeServer
      ensureMqttBridgeClient
  | .controller => do
      dropMqttBridgeClient
      ensureMqttBridgeServer

def modeSteps (env : Surroundings) : WorkMode -> Daemon Unit
  | .standalone => standaloneSteps env
  | .agent => agentSteps env
  | .controller => controllerSteps env

/-- Every switch starts with its bridge steps. -/
theorem modeSteps_eq (env : Surroundings) (mode : WorkMode) :
    exists rest : Daemon Unit,
      modeSteps env mode = bridgeSteps mode >>= fun _ => rest := by
  cases mode with
  | standalone => exact ⟨_, (bind_bind _ _ _).symm⟩
  | agent => exact ⟨_, (bind_bind _ _ _).symm⟩
  | controller => exact ⟨_, (bind_bind _ _ _).symm⟩

def Switched (w : World) (mode : WorkMode) (w' : World) : Prop :=
  bridgeSteps mode w = .ok ((), w')

/-!
## Blocks and the lines in front of them
-/

def blockLines : WorkMode -> List String
  | .standalone => []
  | .agent => strtok '\n' clientBlock
  | .controller => strtok '\n' serverBlock

/-- Lines without a directive of either bridge. -/
structure BridgeFree (lines : List String) : Prop where
  connection : forall line, line ∈ lines -> isDirective "connection" line = false
  address : forall line, line ∈ lines -> isDirective "address" line = false
  listener : forall line, line ∈ lines ->
    isDirective listenerPattern line = false

theorem any_append_of_free {pattern : String} {base : List String}
    (hbase : forall line, line ∈ base -> isDirective pattern line = false)
    (block : List String) :
    (base ++ block).any (isDirective pattern) =
      block.any (isDirective pattern) := by
  rw [List.any_append, List.any_eq_false.mpr (by simpa using hbase),
    Bool.false_or]

/-- A cut at a block's first line leaves exactly what stands in front of it. -/
theorem linesAbove_append {pattern line : String} {base : List String}
    (hbase : forall other, other ∈ base -> isDirective pattern other = false)
    (hline : isDirective pattern line = true) (rest : List String) :
    linesAbove pattern (base ++ line :: rest) = base := by
  unfold linesAbove
  rw [List.takeWhile_append_of_pos (by simpa using hbase),
    List.takeWhile_cons_of_neg (by simp [hline]), List.append_nil]

/-!
Each block answers to its own patterns only, and its first line is the one a cut
looks for.
-/

theorem toList_clientBlock :
    exists rest, clientBlock.toList = '\n' :: rest := by
  unfold clientBlock
  simp only [String.toList_append]
  exact ⟨_, rfl⟩

theorem toList_serverBlock :
    exists rest, serverBlock.toList = '\n' :: rest := by
  unfold serverBlock
  simp only [String.toList_append]
  exact ⟨_, rfl⟩

theorem blockLines_agent :
    blockLines .agent =
      ["connection mqtt-bridge ", "address 192.168.123.1:1884 ",
       "topic ezm/# both 1 ", "topic hub/# both 1 ", "topic zib/# both 1 ",
       "topic zwa/# both 1 ", "try_private false ",
       "remote_username mqtt-bridge  ", "remote_password novaintechs  "] := by
  unfold blockLines strtok clientBlock
  repeat rw [String.toList_append]
  decide +kernel

theorem blockLines_controller :
    blockLines .controller =
      ["listener 1884 192.168.123.1", "allow_anonymous false",
       "password_file /etc/mosquitto/password.pwd", " "] := by
  unfold blockLines strtok serverBlock
  repeat rw [String.toList_append]
  decide +kernel

theorem any_blockLines (mode : WorkMode) :
    (blockLines mode).any (isDirective "connection") = decide (mode = .agent) ∧
      (blockLines mode).any (isDirective "address") = decide (mode = .agent) ∧
      (blockLines mode).any (isDirective listenerPattern) =
        decide (mode = .controller) := by
  cases mode with
  | standalone => exact ⟨rfl, rfl, rfl⟩
  | agent =>
      rw [blockLines_agent]
      decide +kernel
  | controller =>
      rw [blockLines_controller]
      decide +kernel

theorem namesBroker_agent : NamesBroker (blockLines .agent) := by
  have hfirst : (blockLines .agent).find? (isDirective "address") =
      some "address 192.168.123.1:1884 " := by
    rw [blockLines_agent]
    decide +kernel
  intro line hline
  rw [hfirst, Option.some_inj] at hline
  rw [← hline]
  decide +kernel

/-!
## Lines of the configuration file
-/

def ConfHolds (w : World) (lines : List String) : Prop :=
  exists content, w.files.content .mosquittoConf = some (Body.text content) ∧
    strtok '\n' content = lines

section

variable {w : World} {lines : List String}

theorem lines_of_confHolds (h : ConfHolds w lines) (hne : lines ≠ []) :
    w.lines .mosquittoConf = some lines := by
  rcases h with ⟨content, hcontent, rfl⟩
  simp [World.lines, hcontent, Body.lines, hne]

theorem confHolds_appendText (h : ConfHolds w lines) {block : String}
    (hblock : exists rest, block.toList = '\n' :: rest) :
    ConfHolds (w.appendText .mosquittoConf block)
      (lines ++ strtok '\n' block) := by
  rcases h with ⟨content, hcontent, rfl⟩
  rcases hblock with ⟨rest, hblock⟩
  refine ⟨content ++ block, ?_, strtok_append hblock content⟩
  simp [World.appendText, store, written, hcontent, Body.append, appendMode,
    truncateMode]

theorem confHolds_storeText
    (h : forall line, line ∈ lines -> line.toList ≠ [] ∧ '\n' ∉ line.toList) :
    ConfHolds (w.storeText .mosquittoConf (joined '\n' lines)) lines :=
  ⟨joined '\n' lines, by simp [World.storeText, store], strtok_joined h⟩

end
/-!
## One switch

The invariant: the file holds the lines in front of the blocks and then the
block of the mode.
-/

structure Bridged (base : List String) (mode : WorkMode) (w : World) : Prop where
  healthy : Healthy w.files
  conf : ConfHolds w (base ++ blockLines mode)

def withoutClient : WorkMode -> WorkMode
  | .agent => .standalone
  | mode => mode

def withoutServer : WorkMode -> WorkMode
  | .controller => .standalone
  | mode => mode

section

variable {base : List String} {mode : WorkMode} {w : World}
variable (hfree : BridgeFree base) (hne : base ≠ [])

include hne in
theorem Bridged.lines (h : Bridged base mode w) :
    w.lines .mosquittoConf = some (base ++ blockLines mode) :=
  lines_of_confHolds h.conf (List.append_ne_nil_of_left_ne_nil hne _)

/-- A cut at the block's first line takes the block away and nothing else. -/
theorem bridged_cutAbove {pattern line : String} {rest : List String}
    (hlines : w.lines .mosquittoConf = some (base ++ blockLines mode))
    (hbase : forall other, other ∈ base -> isDirective pattern other = false)
    (hblock : blockLines mode = line :: rest)
    (hline : isDirective pattern line = true) (h : Healthy w.files) :
    Bridged base .standalone
      (cutAbove pattern (base ++ blockLines mode) w) := by
  have hany : (base ++ blockLines mode).any (isDirective pattern) = true := by
    rw [any_append_of_free hbase, hblock, List.any_cons, hline, Bool.true_or]
  have hkept : forall other, other ∈ base ->
      other.toList ≠ [] ∧ '\n' ∉ other.toList := by
    intro other hmem
    exact mem_lines hlines (List.mem_append_left _ hmem)
  unfold cutAbove
  rw [if_pos hany, hblock, linesAbove_append hbase hline]
  constructor
  · exact healthy_storeText h _ _
  · rw [blockLines, List.append_nil]
    exact confHolds_storeText hkept

include hfree in
theorem namesBroker_append : NamesBroker (base ++ blockLines mode) := by
  have hbase : base.find? (isDirective "address") = none := by
    rw [List.find?_eq_none]
    intro line hmem
    rw [hfree.address line hmem]
    exact Bool.false_ne_true
  unfold NamesBroker
  rw [List.find?_append, hbase, Option.none_or]
  by_cases hmode : mode = .agent
  · rw [hmode]
    exact namesBroker_agent
  · have hnone : (blockLines mode).find? (isDirective "address") = none := by
      rw [← Option.not_isSome_iff_eq_none, List.isSome_find?,
        (any_blockLines mode).2.1]
      simpa using hmode
    rw [hnone]
    intro line hline
    cases hline

include hfree hne

theorem wp_dropMqttBridgeClient_of_bridged (h : Bridged base mode w) :
    wp dropMqttBridgeClient
      (fun _ w' => Bridged base (withoutClient mode) w') w := by
  rw [wp_dropMqttBridgeClient h.healthy]
  refine ⟨_, h.lines hne, namesBroker_append hfree, ?_⟩
  unfold clientDropped
  rw [any_append_of_free hfree.address, (any_blockLines mode).2.1]
  cases mode with
  | standalone => exact h
  | controller => exact h
  | agent =>
      exact bridged_cutAbove (h.lines hne) hfree.connection blockLines_agent
        (by decide +kernel) h.healthy

theorem wp_dropMqttBridgeServer_of_bridged (h : Bridged base mode w) :
    wp dropMqttBridgeServer
      (fun _ w' => Bridged base (withoutServer mode) w') w := by
  rw [wp_dropMqttBridgeServer h.healthy]
  refine ⟨_, h.lines hne, ?_⟩
  by_cases hmode : mode = .controller
  · cases hmode
    exact bridged_cutAbove (h.lines hne) hfree.listener blockLines_controller
      (by decide +kernel) h.healthy
  · have hany : (base ++ blockLines mode).any (isDirective listenerPattern) =
        false := by
      rw [any_append_of_free hfree.listener, (any_blockLines mode).2.2]
      simpa using hmode
    have hsame : withoutServer mode = mode := by
      cases mode with
      | controller => exact absurd rfl hmode
      | _ => rfl
    unfold cutAbove
    rw [hany, hsame]
    exact h

theorem wp_ensureMqttBridgeClient_of_bridged (h : Bridged base mode w)
    (hmode : mode ≠ .controller) :
    wp ensureMqttBridgeClient (fun _ w' => Bridged base .agent w') w := by
  rw [wp_ensureMqttBridgeClient h.healthy]
  refine ⟨_, h.lines hne, namesBroker_append hfree, ?_⟩
  rw [any_append_of_free hfree.address, (any_blockLines mode).2.1]
  cases mode with
  | agent => exact h
  | controller => exact absurd rfl hmode
  | standalone =>
      constructor
      · exact healthy_appendText h.healthy _ _
      · have hconf := h.conf
        rw [blockLines, List.append_nil] at hconf
        exact confHolds_appendText hconf toList_clientBlock

theorem wp_ensureMqttBridgeServer_of_bridged (h : Bridged base mode w)
    (hmode : mode ≠ .agent) :
    wp ensureMqttBridgeServer (fun _ w' => Bridged base .controller w') w := by
  rw [wp_ensureMqttBridgeServer h.healthy]
  refine ⟨_, h.lines hne, ?_⟩
  rw [any_append_of_free hfree.listener, (any_blockLines mode).2.2]
  cases mode with
  | controller => exact h
  | agent => exact absurd rfl hmode
  | standalone =>
      constructor
      · exact healthy_appendText h.healthy _ _
      · have hconf := h.conf
        rw [blockLines, List.append_nil] at hconf
        exact confHolds_appendText hconf toList_serverBlock

theorem wp_bridgeSteps_of_bridged (h : Bridged base mode w) (next : WorkMode) :
    wp (bridgeSteps next) (fun _ w' => Bridged base next w') w := by
  cases next with
  | standalone =>
      show wp (dropMqttBridgeClient >>= fun _ => dropMqttBridgeServer) _ w
      rw [wp_bind]
      refine wp_mono ?_ (wp_dropMqttBridgeClient_of_bridged hfree hne h)
      intro _ w' hw'
      have hnone : withoutServer (withoutClient mode) = .standalone := by
        cases mode <;> rfl
      rw [← hnone]
      exact wp_dropMqttBridgeServer_of_bridged hfree hne hw'
  | agent =>
      show wp (dropMqttBridgeServer >>= fun _ => ensureMqttBridgeClient) _ w
      rw [wp_bind]
      refine wp_mono ?_ (wp_dropMqttBridgeServer_of_bridged hfree hne h)
      intro _ w' hw'
      apply wp_ensureMqttBridgeClient_of_bridged hfree hne hw'
      cases mode <;> decide
  | controller =>
      show wp (dropMqttBridgeClient >>= fun _ => ensureMqttBridgeServer) _ w
      rw [wp_bind]
      refine wp_mono ?_ (wp_dropMqttBridgeClient_of_bridged hfree hne h)
      intro _ w' hw'
      apply wp_ensureMqttBridgeServer_of_bridged hfree hne hw'
      cases mode <;> decide

end

/-!
## Runs of switches
-/

/-- What the file and the two looks show in a mode. -/
structure ShowsBlock (base : List String) (mode : WorkMode) (w : World) :
    Prop where
  lines : w.lines .mosquittoConf = some (base ++ blockLines mode)
  client : wp requestMqttBridgeClient (fun ip after =>
    after = w ∧ (ip.isSome = true <-> mode = .agent)) w
  server : wp requestMqttBridgeServer (fun ip after =>
    after = w ∧ (ip.isSome = true <-> mode = .controller)) w

section

variable {base : List String} {mode : WorkMode} {w w' : World}
variable (hfree : BridgeFree base) (hne : base ≠ [])

include hfree hne

theorem showsBlock_of_bridged (h : Bridged base mode w) :
    ShowsBlock base mode w where
  lines := h.lines hne
  client := by
    rw [wp_requestMqttBridgeClient h.healthy]
    refine ⟨_, h.lines hne, namesBroker_append hfree, rfl, ?_⟩
    rw [isSome_of_namesBroker (namesBroker_append hfree),
      any_append_of_free hfree.address, (any_blockLines mode).2.1,
      decide_eq_true_iff]
  server := by
    rw [wp_requestMqttBridgeServer h.healthy]
    refine ⟨_, h.lines hne, rfl, ?_⟩
    rw [isSome_listener, any_append_of_free hfree.listener,
      (any_blockLines mode).2.2, decide_eq_true_iff]

theorem bridged_of_switched (h : Bridged base mode w) {next : WorkMode}
    (hstep : Switched w next w') : Bridged base next w' :=
  (wp_of_run hstep _).mp (wp_bridgeSteps_of_bridged hfree hne h next)

theorem exists_run_of_bridged (h : Bridged base mode w)
    (modes : List WorkMode) : exists w', Runs Switched w modes w' := by
  induction modes generalizing mode w with
  | nil => exact ⟨w, Runs.nil w⟩
  | cons next rest ih =>
      rcases wp_iff.mp (wp_bridgeSteps_of_bridged hfree hne h next) with
        ⟨_, middle, hstep, hmiddle⟩
      rcases ih hmiddle with ⟨w', hrest⟩
      exact ⟨w', Runs.cons hstep hrest⟩

theorem bridged_of_run (h : Bridged base mode w) {modes : List WorkMode}
    (hrun : Runs Switched w modes w') : exists last, Bridged base last w' := by
  apply Runs.invariant (fun s => exists last, Bridged base last s) _ hrun
  · exact ⟨mode, h⟩
  · intro s next s' hs hstep
    rcases hs with ⟨last, hlast⟩
    exact ⟨next, bridged_of_switched hfree hne hlast hstep⟩

end

/-- Every sequence of switches runs through, and after each switch the file
shows the lines it had at first and the block of the mode just entered. -/
theorem showsBlock_of_switches {content : String} {w : World}
    (hw : Healthy w.files)
    (hcontent : w.files.content .mosquittoConf = some (Body.text content))
    (hne : strtok '\n' content ≠ [])
    (hfree : BridgeFree (strtok '\n' content)) (modes : List WorkMode) :
    (exists w', Runs Switched w modes w') ∧
      forall mode w', Runs Switched w (modes ++ [mode]) w' ->
        ShowsBlock (strtok '\n' content) mode w' := by
  have hinit : Bridged (strtok '\n' content) .standalone w :=
    { healthy := hw
      conf := ⟨content, hcontent, (List.append_nil _).symm⟩ }
  constructor
  · exact exists_run_of_bridged hfree hne hinit modes
  · intro mode w' hrun
    rcases Runs.split hrun with ⟨middle, hearly, hlate⟩
    rcases bridged_of_run hfree hne hinit hearly with ⟨last, hlast⟩
    cases hlate with
    | cons hstep hrest =>
        cases hrest
        exact showsBlock_of_bridged hfree hne
          (bridged_of_switched hfree hne hlast hstep)

def localBroker : String := "port 1883\n# address of the bridge\n"

theorem strtok_localBroker :
    strtok '\n' localBroker = ["port 1883", "# address of the bridge"] := by
  decide +kernel

theorem bridgeFree_localBroker : BridgeFree (strtok '\n' localBroker) := by
  rw [strtok_localBroker]
  constructor <;> decide +kernel

theorem showsBlock_of_switches_localBroker :
    (exists w', Runs Switched
      (World.installed.storeText .mosquittoConf localBroker)
      [.agent, .agent, .controller] w') ∧
    forall mode w', Runs Switched
        (World.installed.storeText .mosquittoConf localBroker)
        ([.agent, .agent, .controller] ++ [mode]) w' ->
      ShowsBlock (strtok '\n' localBroker) mode w' :=
  showsBlock_of_switches (healthy_storeText healthy_installed _ _)
    (by simp [World.storeText, store])
    (by rw [strtok_localBroker]; exact List.cons_ne_nil _ _)
    bridgeFree_localBroker _

end Mesh
end Noc
