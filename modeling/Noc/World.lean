import Noc.Network.Iptables.Kernel
import Noc.Network.Route.Struct
import Noc.Utils.File
import Noc.Utils.Uci

/-!
# The daemon's world

What the daemon reads and changes: the files it keeps, the kernel's firewall
and routing table, the UCI commands it ran, the mode its services run in and the
messages it publishes.  Service restarts and sleeps have no counterpart, since
nothing modelled reads them back.  Memory is not modelled either: what is
released, and how often, only matters where a release function follows a NULL
pointer.
-/

namespace Noc

open Foundation
open Foundation.Exec
open Network
open Utils

/-- The paths of `config.h`, and the three files outside the configuration
that the daemon opens. -/
inductive DaemonFile where
  | meshSetting
  | meshDevices
  | dhcpSetting
  | lanSetting
  | wanSetting
  | routeSetting
  | iptablesDnatForwardingSetting
  | iptablesDnatDmzSetting
  | iptablesNovaSetting
  | mosquittoConf
  | wanAddress
  | dhcpLease
  | avahiEzmService
  | avahiThingService
  deriving DecidableEq, Repr

/-- The files the daemon is installed with. -/
def DaemonFile.installed : DaemonFile -> Bool
  | .dhcpLease => false
  | .avahiEzmService => false
  | .avahiThingService => false
  | _ => true

inductive WorkMode where
  | standalone
  | agent
  | controller
  deriving DecidableEq, Repr

structure World where
  files : FileState DaemonFile
  firewall : Firewall
  kernelRoutes : Finset KernelRoute
  uci : List UciCommand
  /-- The mode whose `run_*_mode` was entered last. -/
  mode : WorkMode
  /-- The messages on the topic the daemon publishes to. -/
  published : List Json
  /-- The requests sent to other devices, each with the device's `ezm_id`. -/
  requested : List (Option String × Json)

abbrev Daemon (α : Type) := Exec World Fault α

/-!
## Changes
-/

namespace World

/-- What parsing a file's content yields. -/
def json (w : World) (file : DaemonFile) : Option Json :=
  (w.files.content file).bind Body.parse

/-- What splitting a file's content into lines yields. -/
def lines (w : World) (file : DaemonFile) : Option (List String) :=
  (w.files.content file).bind fun body =>
    if body.lines = [] then none else some body.lines

def storeJson (w : World) (file : DaemonFile) (tree : Json) : World :=
  { w with files := store file (Body.json tree) w.files }

def storeText (w : World) (file : DaemonFile) (text : String) : World :=
  { w with files := store file (Body.text text) w.files }

/-- What appending to a file leaves. -/
def appendText (w : World) (file : DaemonFile) (text : String) : World :=
  { w with
    files := store file
      (written appendMode (w.files.content file) (Body.text text)) w.files }

def runIptables (w : World) (commands : List IptablesCommand) : World :=
  { w with firewall := w.firewall.run commands }

def runIpRoute (w : World) (commands : List IpRouteCommand) : World :=
  { w with kernelRoutes := Network.runIpRoute w.kernelRoutes commands }

def runUci (w : World) (commands : List UciCommand) : World :=
  { w with uci := w.uci ++ commands }

def enterMode (w : World) (mode : WorkMode) : World :=
  { w with mode := mode }

def publish (w : World) (message : Json) : World :=
  { w with published := w.published ++ [message] }

def request (w : World) (ezmId : Option String) (message : Json) : World :=
  { w with requested := w.requested ++ [(ezmId, message)] }

section

variable (w : World) (file : DaemonFile) (tree message : Json)
  (commands : List IptablesCommand) (ipRoutes : List IpRouteCommand)
  (uci : List UciCommand) (mode : WorkMode)

@[simp] theorem json_storeJson_self :
    (w.storeJson file tree).json file = some tree := by
  simp [json, storeJson, store]

@[simp] theorem json_storeJson_of_ne {other : DaemonFile}
    (hne : other ≠ file) :
    (w.storeJson file tree).json other = w.json other := by
  simp [json, storeJson, store, hne]

@[simp] theorem lines_storeJson_of_ne {other : DaemonFile}
    (hne : other ≠ file) :
    (w.storeJson file tree).lines other = w.lines other := by
  simp [lines, storeJson, store, hne]

@[simp] theorem json_storeText_of_ne {text : String} {other : DaemonFile}
    (hne : other ≠ file) :
    (w.storeText file text).json other = w.json other := by
  simp [json, storeText, store, hne]

@[simp] theorem lines_storeText_of_ne {text : String} {other : DaemonFile}
    (hne : other ≠ file) :
    (w.storeText file text).lines other = w.lines other := by
  simp [lines, storeText, store, hne]

@[simp] theorem json_appendText_of_ne {text : String} {other : DaemonFile}
    (hne : other ≠ file) :
    (w.appendText file text).json other = w.json other := by
  simp [json, appendText, store, hne]

@[simp] theorem lines_appendText_of_ne {text : String} {other : DaemonFile}
    (hne : other ≠ file) :
    (w.appendText file text).lines other = w.lines other := by
  simp [lines, appendText, store, hne]

@[simp] theorem firewall_storeJson :
    (w.storeJson file tree).firewall = w.firewall := rfl

@[simp] theorem kernelRoutes_storeJson :
    (w.storeJson file tree).kernelRoutes = w.kernelRoutes := rfl

@[simp] theorem mode_storeJson : (w.storeJson file tree).mode = w.mode := rfl

@[simp] theorem published_storeJson :
    (w.storeJson file tree).published = w.published := rfl

theorem runIptables_append (later : List IptablesCommand) :
    (w.runIptables commands).runIptables later =
      w.runIptables (commands ++ later) := by
  simp [runIptables, Firewall.run_append]

@[simp] theorem json_runIptables :
    (w.runIptables commands).json file = w.json file := rfl

@[simp] theorem files_runIptables :
    (w.runIptables commands).files = w.files := rfl

@[simp] theorem firewall_runIptables :
    (w.runIptables commands).firewall = w.firewall.run commands := rfl

@[simp] theorem kernelRoutes_runIptables :
    (w.runIptables commands).kernelRoutes = w.kernelRoutes := rfl

@[simp] theorem mode_runIptables : (w.runIptables commands).mode = w.mode := rfl

@[simp] theorem published_runIptables :
    (w.runIptables commands).published = w.published := rfl

@[simp] theorem files_runIpRoute : (w.runIpRoute ipRoutes).files = w.files :=
  rfl

@[simp] theorem json_runIpRoute :
    (w.runIpRoute ipRoutes).json file = w.json file := rfl

@[simp] theorem kernelRoutes_runIpRoute :
    (w.runIpRoute ipRoutes).kernelRoutes =
      Network.runIpRoute w.kernelRoutes ipRoutes := rfl

@[simp] theorem firewall_runIpRoute :
    (w.runIpRoute ipRoutes).firewall = w.firewall := rfl

@[simp] theorem mode_runIpRoute : (w.runIpRoute ipRoutes).mode = w.mode := rfl

@[simp] theorem published_runIpRoute :
    (w.runIpRoute ipRoutes).published = w.published := rfl

@[simp] theorem files_runUci : (w.runUci uci).files = w.files := rfl

@[simp] theorem json_runUci : (w.runUci uci).json file = w.json file := rfl

@[simp] theorem firewall_runUci : (w.runUci uci).firewall = w.firewall := rfl

@[simp] theorem mode_runUci : (w.runUci uci).mode = w.mode := rfl

@[simp] theorem published_runUci :
    (w.runUci uci).published = w.published := rfl

@[simp] theorem files_enterMode : (w.enterMode mode).files = w.files := rfl

@[simp] theorem json_enterMode : (w.enterMode mode).json file = w.json file :=
  rfl

@[simp] theorem mode_enterMode : (w.enterMode mode).mode = mode := rfl

@[simp] theorem firewall_enterMode :
    (w.enterMode mode).firewall = w.firewall := rfl

@[simp] theorem published_enterMode :
    (w.enterMode mode).published = w.published := rfl

@[simp] theorem files_publish : (w.publish message).files = w.files := rfl

@[simp] theorem json_publish : (w.publish message).json file = w.json file :=
  rfl

@[simp] theorem firewall_publish :
    (w.publish message).firewall = w.firewall := rfl

@[simp] theorem mode_publish : (w.publish message).mode = w.mode := rfl

@[simp] theorem published_publish :
    (w.publish message).published = w.published ++ [message] := rfl

@[simp] theorem files_request (ezmId : Option String) :
    (w.request ezmId message).files = w.files := rfl

@[simp] theorem json_request (ezmId : Option String) :
    (w.request ezmId message).json file = w.json file := rfl

@[simp] theorem firewall_request (ezmId : Option String) :
    (w.request ezmId message).firewall = w.firewall := rfl

@[simp] theorem mode_request (ezmId : Option String) :
    (w.request ezmId message).mode = w.mode := rfl

@[simp] theorem published_request (ezmId : Option String) :
    (w.request ezmId message).published = w.published := rfl

end

end World

/-!
## Access to the parts
-/

def onFiles {α : Type} (program : Exec (FileState DaemonFile) Fault α) :
    Daemon α :=
  zoom World.files (fun files w => { w with files := files }) program

/-- `read_data`, then `cJSON_Parse`. -/
def readJson (file : DaemonFile) : Daemon (Option Json) :=
  onFiles (loadJsonFromFile file)

/-- `cJSON_Print`, then `write_data` in mode `TRUNCATE`. -/
def writeJson (tree : Json) (file : DaemonFile) : Daemon Int32 :=
  onFiles (writeData (Body.json tree) file truncateMode)

/-- `read_line`. -/
def readLines (file : DaemonFile) : Daemon (Option (List String)) :=
  onFiles (readLine file)

/-- `write_data` of a text. -/
def writeText (text : String) (file : DaemonFile) (mode : Int32) :
    Daemon Int32 :=
  onFiles (writeData (Body.text text) file mode)

def execlIptables (commands : List IptablesCommand) : Daemon Unit :=
  modify fun w => w.runIptables commands

def execlIpRoute (commands : List IpRouteCommand) : Daemon Unit :=
  modify fun w => w.runIpRoute commands

def appUci (commands : List UciCommand) : Daemon Unit :=
  modify fun w => w.runUci commands

/-- `uuid_gen`: the prefix and a random identifier. -/
def uuidGen (kind uuid : String) : String :=
  kind ++ "_" ++ uuid

/-- Follow a pointer of a record. -/
def field {α : Type} (pointer : Option α) : Daemon α :=
  deref Fault.nullField pointer

/-!
## Healthy file systems

A file system on which nothing fails: the mutex is free, no `fopen` is refused
and the installed files are there.  Reading is then a lookup and writing an
update, and both keep the file system healthy.
-/

structure Healthy (fs : FileState DaemonFile) : Prop where
  unlocked : fs.locked = false
  fopens : forall n, fs.fopenFails n = false
  present : forall file, file.installed = true -> fs.content file ≠ none

theorem Healthy.store {fs : FileState DaemonFile} (h : Healthy fs)
    (file : DaemonFile) (body : Body) : Healthy (store file body fs) where
  unlocked := h.unlocked
  fopens := h.fopens
  present := by
    intro other hinstalled
    show Function.update fs.content file _ other ≠ none
    by_cases hfile : other = file
    · rw [hfile, Function.update_self]
      simp
    · rw [Function.update_of_ne hfile]
      exact h.present other hinstalled

@[simp] theorem healthy_storeJson {w : World} (h : Healthy w.files)
    (file : DaemonFile) (tree : Json) :
    Healthy (w.storeJson file tree).files :=
  h.store file (Body.json tree)

@[simp] theorem healthy_storeText {w : World} (h : Healthy w.files)
    (file : DaemonFile) (text : String) :
    Healthy (w.storeText file text).files :=
  h.store file (Body.text text)

@[simp] theorem healthy_appendText {w : World} (h : Healthy w.files)
    (file : DaemonFile) (text : String) :
    Healthy (w.appendText file text).files :=
  h.store file _

theorem nextFopen_eq {path : Type} {fs : FileState path}
    (h : forall n, fs.fopenFails n = false) : nextFopen fs = fs := by
  have hfails : (fun n => fs.fopenFails (n + 1)) = fs.fopenFails := by
    funext n
    rw [h, h]
  unfold nextFopen
  rw [hfails]

section

variable {fs : FileState DaemonFile} {w : World}

theorem wp_readData_of_healthy (h : Healthy fs) {file : DaemonFile}
    (hfile : file.installed = true)
    (post : Option Body -> FileState DaemonFile -> Prop) :
    wp (readData file) post fs <-> post (fs.content file) fs := by
  have hopened : opened file fs = fs.content file := by
    unfold opened
    rw [h.fopens 0]
    rfl
  have hsome : (fs.content file).isNone = false := by
    rw [Option.isNone_eq_false_iff, Option.isSome_iff_ne_none]
    exact h.present file hfile
  have hsame : { fs with locked := false } = fs := by
    rw [← h.unlocked]
  rw [wp_readData, hopened, hsome, nextFopen_eq h.fopens, hsame]
  exact and_iff_right h.unlocked

theorem wp_writeData_of_healthy (h : Healthy fs) (body : Body)
    (file : DaemonFile) {mode : Int32}
    (hmode : mode = truncateMode ∨ mode = appendMode)
    (post : Int32 -> FileState DaemonFile -> Prop) :
    wp (writeData body file mode) post fs <->
      post 0 (store file (written mode (fs.content file) body) fs) := by
  have hsame : forall after : Body,
      { store file after fs with locked := false } = store file after fs := by
    intro after
    rw [← (h.store file after).unlocked]
  rw [wp_writeData, if_pos hmode, h.fopens 0, nextFopen_eq h.fopens]
  simp [hsame, h.unlocked]

theorem wp_checkFileExist_of_healthy (h : Healthy fs) {file : DaemonFile}
    (hfile : file.installed = true)
    (post : Bool -> FileState DaemonFile -> Prop) :
    wp (checkFileExist file) post fs <-> post true fs := by
  rcases Option.ne_none_iff_exists'.mp (h.present file hfile) with
    ⟨body, hbody⟩
  have hopened : opened file fs = some body := by
    unfold opened
    rw [h.fopens 0, hbody]
    rfl
  have hsame : { fs with locked := false } = fs := by
    rw [← h.unlocked]
  rw [wp_checkFileExist, hopened, nextFopen_eq h.fopens]
  simp [hsame, h.unlocked]

/-- Reading a setting file yields its tree. -/
theorem run_readJson (h : Healthy w.files) {file : DaemonFile}
    (hfile : file.installed = true) :
    readJson file w = .ok (w.json file, w) := by
  apply run_of_wp
  unfold readJson onFiles loadJsonFromFile
  rw [wp_zoom, wp_bind, wp_readData_of_healthy h hfile]
  exact ⟨rfl, rfl⟩

/-- Writing a setting file replaces its tree. -/
theorem run_writeJson (h : Healthy w.files) (tree : Json) (file : DaemonFile) :
    writeJson tree file w = .ok (0, w.storeJson file tree) := by
  apply run_of_wp
  unfold writeJson onFiles
  rw [wp_zoom, wp_writeData_of_healthy h _ _ (Or.inl rfl)]
  exact ⟨rfl, rfl⟩

theorem run_readLines (h : Healthy w.files) {file : DaemonFile}
    (hfile : file.installed = true) :
    readLines file w = .ok (w.lines file, w) := by
  apply run_of_wp
  unfold readLines onFiles readLine World.lines
  rw [wp_zoom, wp_bind, wp_readData_of_healthy h hfile]
  cases w.files.content file <;> exact ⟨rfl, rfl⟩

theorem wp_readLines (h : Healthy w.files) {file : DaemonFile}
    (hfile : file.installed = true)
    (post : Option (List String) -> World -> Prop) :
    wp (readLines file) post w <-> post (w.lines file) w :=
  wp_of_run (run_readLines h hfile) post

theorem wp_writeText (h : Healthy w.files) (text : String) (file : DaemonFile)
    (post : Int32 -> World -> Prop) :
    wp (writeText text file truncateMode) post w <->
      post 0 (w.storeText file text) := by
  unfold writeText onFiles
  rw [wp_zoom, wp_writeData_of_healthy h _ _ (Or.inl rfl)]
  rfl

theorem wp_appendText (h : Healthy w.files) (text : String) (file : DaemonFile)
    (post : Int32 -> World -> Prop) :
    wp (writeText text file appendMode) post w <->
      post 0 (w.appendText file text) := by
  unfold writeText onFiles
  rw [wp_zoom, wp_writeData_of_healthy h _ _ (Or.inr rfl)]
  rfl

theorem wp_readJson (h : Healthy w.files) {file : DaemonFile}
    (hfile : file.installed = true) (post : Option Json -> World -> Prop) :
    wp (readJson file) post w <-> post (w.json file) w :=
  wp_of_run (run_readJson h hfile) post

theorem wp_writeJson (h : Healthy w.files) (tree : Json) (file : DaemonFile)
    (post : Int32 -> World -> Prop) :
    wp (writeJson tree file) post w <-> post 0 (w.storeJson file tree) :=
  wp_of_run (run_writeJson h tree file) post

end

/-!
## What a run of helpers keeps

A relation between worlds that no helper breaks holds between the ends of every
function built from the helpers.
-/

class KeptByReads (rel : World -> World -> Prop) : Prop
    extends IsPreorder World rel where
  readJson {file : DaemonFile} (hfile : file.installed = true) :
    Respects rel (readJson file)
  readLines {file : DaemonFile} (hfile : file.installed = true) :
    Respects rel (readLines file)
  checkFileExist {file : DaemonFile} (hfile : file.installed = true) :
    Respects rel (onFiles (checkFileExist file))
  execlIptables (commands : List IptablesCommand) :
    Respects rel (execlIptables commands)

/-- The helpers write the named files only. -/
class KeptByHelpers (rel : World -> World -> Prop)
    (touched : outParam (List DaemonFile)) : Prop extends KeptByReads rel where
  writeData {file : DaemonFile} (hfile : file ∈ touched) (body : Body)
    {mode : Int32} (hmode : mode = truncateMode ∨ mode = appendMode) :
    Respects rel (onFiles (writeData body file mode))
  rewrite {file : DaemonFile} (hfile : file ∈ touched) (body : Body) :
    Respects rel (onFiles do
      if <- fopenWrite then modify (store file body)
      else fail Fault.nullField)
  remove {file : DaemonFile} (hfile : file ∈ touched)
    (hinstalled : file.installed = false) :
    Respects rel (onFiles (modify fun fs =>
      { fs with content := Function.update fs.content file none }))

class KeptByUci (rel : World -> World -> Prop) : Prop
    extends IsPreorder World rel where
  appUci (commands : List UciCommand) : Respects rel (appUci commands)

section

variable {rel : World -> World -> Prop} {file : DaemonFile}

theorem respects_appUci [KeptByUci rel] (commands : List UciCommand) :
    Respects rel (appUci commands) :=
  KeptByUci.appUci commands

theorem respects_readJson [KeptByReads rel] (hfile : file.installed = true) :
    Respects rel (readJson file) :=
  KeptByReads.readJson hfile

theorem respects_readLines [KeptByReads rel] (hfile : file.installed = true) :
    Respects rel (readLines file) :=
  KeptByReads.readLines hfile

theorem respects_execlIptables [KeptByReads rel]
    (commands : List IptablesCommand) :
    Respects rel (execlIptables commands) :=
  KeptByReads.execlIptables commands

variable {touched : List DaemonFile} [KeptByHelpers rel touched]

theorem respects_writeJson (hfile : file ∈ touched) (tree : Json) :
    Respects rel (writeJson tree file) :=
  KeptByHelpers.writeData hfile _ (Or.inl rfl)

theorem respects_writeText (hfile : file ∈ touched) (text : String)
    {mode : Int32} (hmode : mode = truncateMode ∨ mode = appendMode) :
    Respects rel (writeText text file mode) :=
  KeptByHelpers.writeData hfile _ hmode

end

/-!
## What is left alone

Two worlds that agree on the published messages, on the mode and on every file
but the named ones, the later one healthy if the earlier one is.
-/

structure Beside (touched : List DaemonFile) (w w' : World) : Prop where
  healthy : Healthy w.files -> Healthy w'.files
  content : forall file, file ∉ touched ->
    w'.files.content file = w.files.content file
  published : w'.published = w.published
  mode : w'.mode = w.mode

instance (touched : List DaemonFile) : IsPreorder World (Beside touched) where
  refl _ := ⟨id, fun _ _ => rfl, rfl, rfl⟩
  trans _ _ _ h h' :=
    { healthy := h'.healthy ∘ h.healthy
      content := fun file hfile => (h'.content file hfile).trans (h.content file hfile)
      published := h'.published.trans h.published
      mode := h'.mode.trans h.mode }

section

variable {touched : List DaemonFile} {file other : DaemonFile} {w w' : World}

theorem Beside.mono {touched' : List DaemonFile}
    (hsubset : touched ⊆ touched') (h : Beside touched w w') :
    Beside touched' w w' where
  healthy := h.healthy
  content := fun file hfile => h.content file fun hmem => hfile (hsubset hmem)
  published := h.published
  mode := h.mode

theorem Beside.trans {w'' : World} (h : Beside touched w w')
    (h' : Beside touched w' w'') : Beside touched w w'' :=
  trans_of (Beside touched) h h'

theorem Beside.json_eq (h : Beside touched w w') (hfile : file ∉ touched) :
    w'.json file = w.json file := by
  unfold World.json
  rw [h.content file hfile]

theorem Beside.lines_eq (h : Beside touched w w') (hfile : file ∉ touched) :
    w'.lines file = w.lines file := by
  unfold World.lines
  rw [h.content file hfile]

theorem beside_onFiles {α : Type}
    {program : Exec (FileState DaemonFile) Fault α}
    (hcontent : forall file, file ∉ touched ->
      Respects (SameContent file) program)
    (hhealthy : forall fs, Healthy fs ->
      wp program (fun _ fs' => Healthy fs') fs) :
    Respects (Beside touched) (onFiles program) := by
  intro w
  unfold onFiles
  rw [final_zoom]
  constructor
  · intro h
    rcases wp_iff.mp (hhealthy w.files h) with ⟨_, fs', hrun, hfs'⟩
    rw [final_of_run hrun]
    exact hfs'
  · intro file hfile
    exact hcontent file hfile w.files
  · rfl
  · rfl

theorem healthy_after_readData {fs : FileState DaemonFile} (h : Healthy fs)
    (hfile : file.installed = true) :
    wp (readData file) (fun _ fs' => Healthy fs') fs :=
  (wp_readData_of_healthy h hfile _).mpr h

theorem beside_readJson (hfile : file.installed = true) :
    Respects (Beside touched) (readJson file) := by
  apply beside_onFiles
  · intro other _
    exact respects_bind (respects_readData file other) fun _ => respects_pure _
  · intro fs h
    unfold loadJsonFromFile
    rw [wp_bind]
    exact healthy_after_readData h hfile

theorem beside_readLines (hfile : file.installed = true) :
    Respects (Beside touched) (readLines file) := by
  apply beside_onFiles
  · intro other _
    refine respects_bind (respects_readData file other) ?_
    intro body
    cases body with
    | none => exact respects_pure _
    | some body => exact respects_pure _
  · intro fs h
    unfold readLine
    rw [wp_bind]
    refine wp_mono ?_ (healthy_after_readData h hfile)
    intro body fs' hfs'
    cases body with
    | none => exact hfs'
    | some body => exact hfs'

theorem beside_checkFileExist (hfile : file.installed = true) :
    Respects (Beside touched) (onFiles (checkFileExist file)) := by
  apply beside_onFiles
  · intro other _
    exact respects_checkFileExist file other
  · intro fs h
    exact (wp_checkFileExist_of_healthy h hfile _).mpr h

theorem beside_writeData (hfile : file ∈ touched) (body : Body)
    {mode : Int32} (hmode : mode = truncateMode ∨ mode = appendMode) :
    Respects (Beside touched) (onFiles (writeData body file mode)) := by
  apply beside_onFiles
  · intro other hother
    have hne : other ≠ file := fun h => hother (by rw [h]; exact hfile)
    exact respects_writeData hne body mode
  · intro fs h
    exact (wp_writeData_of_healthy h body file hmode _).mpr (h.store file _)

theorem beside_rewrite (hfile : file ∈ touched) (body : Body) :
    Respects (Beside touched) (onFiles do
      if <- fopenWrite then modify (store file body)
      else fail Fault.nullField) := by
  apply beside_onFiles
  · intro other hother
    have hne : other ≠ file := fun h => hother (by rw [h]; exact hfile)
    refine respects_bind (respects_fopenWrite other) ?_
    intro isOpen
    refine respects_ite (respects_modify ?_) (respects_fail _)
    intro fs
    exact sameContent_store hne _ fs
  · intro fs h
    unfold fopenWrite
    rw [wp_bind, wp_bind, wp_read, wp_bind, wp_modify, nextFopen_eq h.fopens,
      wp_pure, h.fopens 0]
    exact h.store _ _

theorem beside_remove (hfile : file ∈ touched)
    (hinstalled : file.installed = false) :
    Respects (Beside touched) (onFiles (modify fun fs =>
      { fs with content := Function.update fs.content file none })) := by
  apply beside_onFiles
  · intro other hother
    have hne : other ≠ file := fun h => hother (by rw [h]; exact hfile)
    refine respects_modify ?_
    intro fs
    exact Function.update_of_ne hne _ _
  · intro fs h
    refine Healthy.mk h.unlocked h.fopens ?_
    intro other hpresent
    have hne : other ≠ file := by
      intro hsame
      rw [hsame, hinstalled] at hpresent
      cases hpresent
    show Function.update fs.content file none other ≠ none
    rw [Function.update_of_ne hne]
    exact h.present other hpresent

instance : KeptByHelpers (Beside touched) touched where
  readJson := beside_readJson
  readLines := beside_readLines
  checkFileExist := beside_checkFileExist
  writeData := beside_writeData
  rewrite := beside_rewrite
  remove := beside_remove
  execlIptables _ := respects_modify fun _ => ⟨id, fun _ _ => rfl, rfl, rfl⟩

instance : KeptByUci (Beside touched) where
  appUci _ := respects_modify fun _ => ⟨id, fun _ _ => rfl, rfl, rfl⟩

end

/-- A daemon as installed: every file holds an empty document. -/
def World.installed : World where
  files :=
    { locked := false
      content := fun _ => some (Body.json (Json.arr []))
      fopenFails := fun _ => false }
  firewall :=
    { policy := fun _ => .drop
      rules := fun _ _ => []
      userChains := fun _ => [] }
  kernelRoutes := ∅
  uci := []
  mode := .standalone
  published := []
  requested := []

theorem healthy_installed : Healthy World.installed.files where
  unlocked := rfl
  fopens := fun _ => rfl
  present := fun _ _ => Option.some_ne_none _

end Noc
