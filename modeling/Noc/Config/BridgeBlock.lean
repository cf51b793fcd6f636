import Mathlib.Data.List.TakeWhile
import Noc.Config.MqttBridge

/-!
# Removing a bridge block

A bridge is removed by cutting the broker's configuration off at the first line
that looks like the start of its block.  The lines behind the block go with it,
and so do the lines in front of it from the first that looks the same.
-/

namespace Noc
namespace Config

open Foundation
open Foundation.Exec
open Utils

inductive Bridge where
  | client
  | server
  deriving DecidableEq

namespace Bridge

def pattern : Bridge -> String
  | client => "connection"
  | server => listenerPattern

/-- The text that is appended when the bridge is created. -/
def block : Bridge -> String
  | client => clientBlock
  | server => serverBlock

def create : Bridge -> Daemon MqttBridgeRet
  | client => createMqttBridgeClient
  | server => createMqttBridgeServer

def delete : Bridge -> Daemon MqttBridgeRet
  | client => deleteMqttBridgeClient
  | server => deleteMqttBridgeServer

/-- The line a block starts with. -/
def firstLine : Bridge -> String
  | client => "connection mqtt-bridge "
  | server => "listener 1884 192.168.123.1"

theorem delete_eq (bridge : Bridge) : bridge.delete = deleteBridge bridge.pattern := by
  cases bridge <;> rfl

theorem toList_block (bridge : Bridge) :
    exists rest, bridge.block.toList =
      '\n' :: bridge.firstLine.toList ++ '\n' :: rest := by
  cases bridge with
  | client =>
      unfold block clientBlock
      simp only [String.toList_append]
      exact ⟨_, rfl⟩
  | server =>
      unfold block serverBlock
      simp only [String.toList_append]
      exact ⟨_, rfl⟩

theorem isDirective_firstLine (bridge : Bridge) :
    isDirective bridge.pattern bridge.firstLine = true := by
  cases bridge <;> decide +kernel

theorem firstLine_unbroken (bridge : Bridge) :
    bridge.firstLine.toList ≠ [] ∧ '\n' ∉ bridge.firstLine.toList := by
  cases bridge <;> decide +kernel

end Bridge

/-- The non-empty lines of the broker's configuration. -/
def fileLines (w : World) : List String :=
  (w.lines .mosquittoConf).getD []

/-- The configuration is a text, a block as it is created, and another text. -/
def HoldsBlock (bridge : Bridge) (front back : String) (w : World) : Prop :=
  w.files.content .mosquittoConf =
    some (Body.text (front ++ bridge.block ++ back))

/-- The block is gone and every other line is kept. -/
def RemovesBlock (bridge : Bridge) (front back : String) (w : World) : Prop :=
  wp bridge.delete
    (fun ret w' => ret = .success ∧
      fileLines w' = strtok '\n' front ++ strtok '\n' back) w

section

variable {bridge : Bridge} {front back : String} {w : World}

theorem takeWhile_eq_append_iff {α : Type} {p : α -> Bool} {values rest : List α} :
    values.takeWhile p = values ++ rest <->
      rest = [] ∧ forall value, value ∈ values -> p value = true := by
  constructor
  · intro h
    have hlength := congrArg List.length h
    have hle := (List.takeWhile_prefix (l := values) p).length_le
    rw [List.length_append] at hlength
    have hrest : rest = [] := List.length_eq_zero_iff.mp (by omega)
    rw [hrest, List.append_nil] at h
    exact ⟨hrest, List.takeWhile_eq_self_iff.mp h⟩
  · intro h
    rw [h.1, List.append_nil]
    exact List.takeWhile_eq_self_iff.mpr h.2

theorem takeWhile_append_stop {α : Type} {p : α -> Bool} {stop : α}
    (hstop : p stop = false) (values rest : List α) :
    (values ++ stop :: rest).takeWhile p = values.takeWhile p := by
  induction values with
  | nil =>
      rw [List.nil_append, List.takeWhile_cons_of_neg (by rw [hstop]; simp),
        List.takeWhile_nil]
  | cons value values ih =>
      rw [List.cons_append, List.takeWhile_cons, List.takeWhile_cons, ih]

/-- What is created stands behind the text of the file. -/
theorem holdsBlock_append
    (hcontent : w.files.content .mosquittoConf = some (Body.text front)) :
    HoldsBlock bridge front "" (w.appendText .mosquittoConf bridge.block) := by
  simp [HoldsBlock, World.appendText, store, written, hcontent, Body.append,
    appendMode, truncateMode]

theorem wlp_create_append (bridge : Bridge) (h : Healthy w.files)
    (hcontent : w.files.content .mosquittoConf = some (Body.text front)) :
    wlp (writeText bridge.block .mosquittoConf appendMode >>= fun _ =>
        (return MqttBridgeRet.success : Daemon MqttBridgeRet))
      (fun ret w' => ret = .success -> HoldsBlock bridge front "" w') w := by
  apply wlp_of_wp
  rw [wp_bind, wp_appendText h]
  exact fun _ => holdsBlock_append hcontent

/-- A bridge that is created has its block at the end of the file. -/
theorem holdsBlock_create (h : Healthy w.files)
    (hcontent : w.files.content .mosquittoConf = some (Body.text front)) :
    wlp bridge.create
      (fun ret w' => ret = .success -> HoldsBlock bridge front "" w') w := by
  have hkept : forall w', Beside [] w w' -> Healthy w'.files ∧
      w'.files.content .mosquittoConf = some (Body.text front) :=
    fun w' hbeside => ⟨hbeside.healthy h,
      (hbeside.content _ List.not_mem_nil).trans hcontent⟩
  cases bridge with
  | client =>
      have hlook : Respects (Beside []) getBridgeClientConnectionIp :=
        respects_requestMqttBridgeClient
      unfold Bridge.create createMqttBridgeClient
      rw [wlp_bind]
      apply wlp_mono _ (hlook.wlp w)
      intro ip w' hbeside
      rcases hkept w' hbeside with ⟨hhealthy, hsame⟩
      cases ip with
      | none => exact wlp_create_append .client hhealthy hsame
      | some ip => exact fun heq => by cases heq
  | server =>
      have hexists : Respects (Beside [])
          (onFiles (checkFileExist .mosquittoConf)) :=
        KeptByReads.checkFileExist rfl
      have hlook : Respects (Beside []) getListenerIpDefaultPort :=
        respects_requestMqttBridgeServer
      unfold Bridge.create createMqttBridgeServer
      rw [wlp_bind]
      apply wlp_mono _ (hexists.wlp w)
      intro found w' hbeside
      rw [wlp_ite]
      cases found with
      | false => exact fun heq => by cases heq
      | true =>
          rw [if_pos rfl, wlp_bind]
          apply wlp_mono _ (hlook.wlp w')
          intro ip w'' hbeside'
          rcases hkept w'' (hbeside.trans hbeside') with ⟨hhealthy, hsame⟩
          cases ip with
          | none => exact wlp_create_append .server hhealthy hsame
          | some ip => exact fun heq => by cases heq

/-- The lines in front of the block, the block's first line, and the others. -/
theorem exists_lines (h : HoldsBlock bridge front back w) :
    exists rest, w.lines .mosquittoConf =
      some (strtok '\n' front ++ bridge.firstLine :: rest) := by
  rcases bridge.toList_block with ⟨later, hblock⟩
  have htext : (bridge.block ++ back).toList =
      '\n' :: (bridge.firstLine.toList ++ '\n' :: (later ++ back.toList)) := by
    rw [String.toList_append, hblock]
    simp
  have hunbroken := bridge.firstLine_unbroken
  have hstart : exists rest, strtok '\n' (bridge.block ++ back) =
      bridge.firstLine :: rest := by
    unfold strtok
    rw [htext, tokensFrom, if_pos rfl, if_pos rfl,
      tokensFrom_append_separator hunbroken.2 [] _ hunbroken.1,
      List.map_cons, List.nil_append, String.ofList_toList]
    exact ⟨_, rfl⟩
  rcases hstart with ⟨rest, hstart⟩
  refine ⟨rest, ?_⟩
  unfold World.lines
  rw [h, Option.bind_some]
  show (if strtok '\n' (front ++ bridge.block ++ back) = [] then none
    else some (strtok '\n' (front ++ bridge.block ++ back))) = _
  rw [String.append_assoc, strtok_append htext, hstart,
    if_neg (List.append_ne_nil_of_right_ne_nil _ (List.cons_ne_nil _ _))]

/-- What is left is the text in front of the block, up to its first line that
looks like the block's. -/
theorem removesBlock_iff_above (h : Healthy w.files)
    (hblock : HoldsBlock bridge front back w) :
    RemovesBlock bridge front back w <->
      linesAbove bridge.pattern (strtok '\n' front) =
        strtok '\n' front ++ strtok '\n' back := by
  rcases exists_lines hblock with ⟨rest, hlines⟩
  let lines := strtok '\n' front ++ bridge.firstLine :: rest
  have hany : lines.any (isDirective bridge.pattern) = true := by
    rw [List.any_eq_true]
    exact ⟨bridge.firstLine, List.mem_append_right _ List.mem_cons_self,
      bridge.isDirective_firstLine⟩
  have habove : linesAbove bridge.pattern lines =
      linesAbove bridge.pattern (strtok '\n' front) := by
    apply takeWhile_append_stop
    rw [bridge.isDirective_firstLine]
    rfl
  have hleft : fileLines (cutAbove bridge.pattern lines w) =
      linesAbove bridge.pattern lines := by
    unfold fileLines
    rw [lines_cutAbove hlines, if_pos hany]
    split
    · rename_i hnone
      rw [hnone]
      rfl
    · rfl
  unfold RemovesBlock
  rw [bridge.delete_eq, wp_deleteBridge h, hlines]
  simp only [Option.some_inj, exists_eq_left']
  rw [if_pos hany, and_iff_right rfl, hleft, habove]

/-- A bridge is removed with nothing else exactly when no line stands behind
its block and none in front of it looks like its start. -/
theorem removesBlock_iff (h : Healthy w.files)
    (hblock : HoldsBlock bridge front back w) :
    RemovesBlock bridge front back w <->
      strtok '\n' back = [] ∧
        forall line, line ∈ strtok '\n' front ->
          isDirective bridge.pattern line = false := by
  rw [removesBlock_iff_above h hblock]
  unfold linesAbove
  rw [takeWhile_eq_append_iff]
  simp only [Bool.not_eq_true']

end

/-!
## A listener behind the block
-/

def confWith (bridge : Bridge) (front back : String) : World :=
  World.installed.storeText .mosquittoConf (front ++ bridge.block ++ back)

theorem healthy_confWith (bridge : Bridge) (front back : String) :
    Healthy (confWith bridge front back).files :=
  healthy_installed.store _ _

theorem holdsBlock_confWith (bridge : Bridge) (front back : String) :
    HoldsBlock bridge front back (confWith bridge front back) := by
  simp [HoldsBlock, confWith, World.storeText, store]

/-- The client's block at the end of a configuration. -/
def clientLast : World := confWith .client "port 1883\n" "\n"

theorem healthy_clientLast : Healthy clientLast.files :=
  healthy_confWith .client "port 1883\n" "\n"

theorem removesBlock_clientLast :
    RemovesBlock .client "port 1883\n" "\n" clientLast := by
  rw [removesBlock_iff healthy_clientLast
    (holdsBlock_confWith .client "port 1883\n" "\n")]
  decide +kernel

/-- The client's block with the server's behind it. -/
def serverLast : World := confWith .client "" serverBlock

theorem healthy_serverLast : Healthy serverLast.files :=
  healthy_confWith .client "" serverBlock

/-- The server's block is lost with the client's. -/
theorem not_removesBlock_of_server :
    Healthy serverLast.files ∧ HoldsBlock .client "" serverBlock serverLast ∧
      ¬ RemovesBlock .client "" serverBlock serverLast := by
  have hblock : HoldsBlock .client "" serverBlock serverLast :=
    holdsBlock_confWith .client "" serverBlock
  refine ⟨healthy_serverLast, hblock, ?_⟩
  rw [removesBlock_iff_above healthy_serverLast hblock]
  unfold strtok serverBlock
  simp only [String.toList_append]
  decide +kernel

end Config
end Noc
