import Noc.Foundation.CString
import Noc.Foundation.Exec
import Noc.Foundation.Json

/-!
# File access

The five helpers of `utils/file/file.c`, over a file system with one mutex.
Memory and open file handles are not modelled, so `fclose` has no counterpart.
-/

namespace Noc
namespace Utils

open Foundation
open Foundation.Exec

/-- The ways a thread of the daemon can stop before it is done. -/
inductive Fault where
  | blocked
  | nullField
  | pastSplit
  /-- A free of something that was never allocated. -/
  | badFree
  deriving DecidableEq, Repr

/-!
## Contents

A file holds a printed cJSON document or plain text.  No caller reads a
document line by line.
-/

inductive Body where
  | json (tree : Json)
  | text (content : String)

namespace Body

/-- What `cJSON_Parse` makes of a content; it rejects plain text. -/
def parse : Body -> Option Json
  | json tree => some tree
  | text _ => none

/-- What `split` makes of a content at its newlines. -/
def lines : Body -> List String
  | json _ => []
  | text content => strtok '\n' content

/-- Parsing stops at the end of a document, so text after it is not seen. -/
def append : Body -> Body -> Body
  | json tree, _ => json tree
  | text content, text more => text (content ++ more)
  | text content, json _ => text content

@[simp] theorem parse_json (tree : Json) : (json tree).parse = some tree := rfl

end Body

/-- `fopenFails n` tells whether the `n`th `fopen` from now on is refused. -/
structure FileState (path : Type) where
  locked : Bool
  content : path -> Option Body
  fopenFails : Nat -> Bool

variable {path : Type}

def appendMode : Int32 := 0
def truncateMode : Int32 := 1

/-!
## The mutex and `fopen`
-/

def lock : Exec (FileState path) Fault Unit := do
  let fs <- read
  if fs.locked then fail Fault.blocked
  else modify fun fs => { fs with locked := true }

def unlock : Exec (FileState path) Fault Unit :=
  modify fun fs => { fs with locked := false }

def nextFopen (fs : FileState path) : FileState path :=
  { fs with fopenFails := fun n => fs.fopenFails (n + 1) }

/-- Mode `r`: NULL when the file does not exist. -/
def fopenRead (file : path) : Exec (FileState path) Fault (Option Body) := do
  let fs <- read
  modify nextFopen
  return if fs.fopenFails 0 then none else fs.content file

/-- Modes `w` and `a`, which create the file. -/
def fopenWrite : Exec (FileState path) Fault Bool := do
  let fs <- read
  modify nextFopen
  return !fs.fopenFails 0

variable [DecidableEq path]

def store (file : path) (body : Body) (fs : FileState path) : FileState path :=
  { fs with content := Function.update fs.content file (some body) }

/-- What a file holds after an `fwrite` in the mode it was opened in. -/
def written (mode : Int32) (old : Option Body) (data : Body) : Body :=
  if mode = truncateMode then data
  else (old.map (Body.append · data)).getD data

/-!
## The helpers

An early return leaves out the unlock at the end of the helper.
-/

def readData (file : path) : Exec (FileState path) Fault (Option Body) := do
  lock
  match <- fopenRead file with
  | none => return none
  | some body =>
      unlock
      return some body

def writeData (data : Body) (file : path) (mode : Int32) :
    Exec (FileState path) Fault Int32 := do
  lock
  if mode = truncateMode ∨ mode = appendMode then
    if <- fopenWrite then
      let fs <- read
      modify (store file (written mode (fs.content file) data))
      unlock
      return 0
    else return -1
  else return -1

def readLine (file : path) :
    Exec (FileState path) Fault (Option (List String)) := do
  match <- readData file with
  | none => return none
  | some body =>
      let lines := body.lines
      return if lines = [] then none else some lines

def loadJsonFromFile (file : path) :
    Exec (FileState path) Fault (Option Json) := do
  let data <- readData file
  return data.bind Body.parse

def checkFileExist (file : path) : Exec (FileState path) Fault Bool := do
  lock
  match <- fopenRead file with
  | none => return false
  | some _ =>
      unlock
      return true

/-!
## What the helpers do

Each helper needs a free mutex.  It frees the mutex again exactly when its file
could be opened.
-/

omit [DecidableEq path] in
@[simp] theorem wp_lock (post : Unit -> FileState path -> Prop)
    (fs : FileState path) :
    wp lock post fs <->
      fs.locked = false ∧ post () { fs with locked := true } := by
  cases hlocked : fs.locked <;> simp [lock, hlocked]

omit [DecidableEq path] in
/-- The content `fopen` gives access to in mode `r`. -/
def opened (file : path) (fs : FileState path) : Option Body :=
  if fs.fopenFails 0 then none else fs.content file

omit [DecidableEq path] in
theorem wp_readData (file : path)
    (post : Option Body -> FileState path -> Prop) (fs : FileState path) :
    wp (readData file) post fs <->
      fs.locked = false ∧
        post (opened file fs)
          { nextFopen fs with locked := (opened file fs).isNone } := by
  unfold readData fopenRead
  cases hopen : opened file fs with
  | none =>
      unfold opened at hopen
      simp [nextFopen, hopen]
  | some body =>
      unfold opened at hopen
      simp [unlock, nextFopen, hopen]

theorem wp_writeData (data : Body) (file : path) (mode : Int32)
    (post : Int32 -> FileState path -> Prop) (fs : FileState path) :
    wp (writeData data file mode) post fs <->
      fs.locked = false ∧
        if mode = truncateMode ∨ mode = appendMode then
          if fs.fopenFails 0 then
            post (-1) { nextFopen fs with locked := true }
          else
            post 0
              { store file (written mode (fs.content file) data)
                  (nextFopen fs) with locked := false }
        else post (-1) { fs with locked := true } := by
  unfold writeData fopenWrite
  cases hfails : fs.fopenFails 0 <;>
    split <;> simp [unlock, nextFopen, store, *]

omit [DecidableEq path] in
theorem wp_checkFileExist (file : path)
    (post : Bool -> FileState path -> Prop) (fs : FileState path) :
    wp (checkFileExist file) post fs <->
      fs.locked = false ∧
        post (opened file fs).isSome
          { nextFopen fs with locked := (opened file fs).isNone } := by
  unfold checkFileExist fopenRead
  cases hopen : opened file fs with
  | none =>
      unfold opened at hopen
      simp [nextFopen, hopen]
  | some body =>
      unfold opened at hopen
      simp [unlock, nextFopen, hopen]

omit [DecidableEq path] in
theorem lock_of_locked {fs : FileState path} (h : fs.locked = true) :
    lock fs = .error (.blocked, fs) := by
  unfold lock
  rw [bind_of_run (show Exec.read fs = .ok (fs, fs) from rfl), if_pos h]
  rfl

/-! A held mutex blocks every helper, which then changes nothing. -/

section

variable {fs : FileState path} {file : path}

omit [DecidableEq path] in
theorem readData_of_locked (h : fs.locked = true) :
    readData file fs = .error (.blocked, fs) :=
  bind_of_error (lock_of_locked h) _

omit [DecidableEq path] in
theorem loadJsonFromFile_of_locked (h : fs.locked = true) :
    loadJsonFromFile file fs = .error (.blocked, fs) :=
  bind_of_error (readData_of_locked h) _

omit [DecidableEq path] in
theorem readLine_of_locked (h : fs.locked = true) :
    readLine file fs = .error (.blocked, fs) :=
  bind_of_error (readData_of_locked h) _

omit [DecidableEq path] in
theorem checkFileExist_of_locked (h : fs.locked = true) :
    checkFileExist file fs = .error (.blocked, fs) :=
  bind_of_error (lock_of_locked h) _

theorem writeData_of_locked (h : fs.locked = true) (data : Body)
    (mode : Int32) : writeData data file mode fs = .error (.blocked, fs) :=
  bind_of_error (lock_of_locked h) _

end

/-- Where a write ends: nothing is written while the mutex is held or when the
file cannot be opened. -/
theorem final_writeData_cases (data : Body) (file : path) (mode : Int32)
    (fs : FileState path) :
    (final (writeData data file mode) fs).content = fs.content ∨
      fs.locked = false ∧ (final (writeData data file mode) fs).content =
        (store file (written mode (fs.content file) data) fs).content := by
  cases hlocked : fs.locked with
  | true =>
      left
      rw [final_of_error (writeData_of_locked hlocked data mode)]
  | false =>
      have hends := (wp_writeData data file mode (fun _ fs' =>
        fs'.content = fs.content ∨ fs'.content =
          (store file (written mode (fs.content file) data) fs).content) fs).mpr
      rw [and_iff_right hlocked] at hends
      rcases wp_iff.mp (hends (by
        split
        · split
          · exact Or.inl rfl
          · exact Or.inr rfl
        · exact Or.inl rfl)) with ⟨_, fs', hrun, hcontent⟩
      rw [final_of_run hrun]
      exact hcontent.imp_right fun h => ⟨rfl, h⟩

/-!
## What the helpers leave alone

A helper can change the content of its own file only.
-/

def SameContent (file : path) (fs fs' : FileState path) : Prop :=
  fs'.content file = fs.content file

omit [DecidableEq path] in
instance (file : path) : IsPreorder (FileState path) (SameContent file) where
  refl _ := rfl
  trans _ _ _ h h' := Eq.trans h' h

omit [DecidableEq path] in
theorem respects_lock (file : path) : Respects (SameContent file) lock := by
  refine respects_bind respects_read ?_
  intro fs
  exact respects_ite (respects_fail _) (respects_modify fun _ => rfl)

omit [DecidableEq path] in
theorem respects_readData (file other : path) :
    Respects (SameContent other) (readData file) := by
  refine respects_bind (respects_lock other) ?_
  intro _
  apply respects_bind
  · exact respects_bind respects_read fun _ =>
      respects_bind (respects_modify fun _ => rfl) fun _ => respects_pure _
  · intro opened
    cases opened with
    | none => exact respects_pure _
    | some body =>
        exact respects_bind (respects_modify fun _ => rfl) fun _ =>
          respects_pure _

omit [DecidableEq path] in
theorem respects_checkFileExist (file other : path) :
    Respects (SameContent other) (checkFileExist file) := by
  refine respects_bind (respects_lock other) ?_
  intro _
  apply respects_bind
  · exact respects_bind respects_read fun _ =>
      respects_bind (respects_modify fun _ => rfl) fun _ => respects_pure _
  · intro opened
    cases opened with
    | none => exact respects_pure _
    | some body =>
        exact respects_bind (respects_modify fun _ => rfl) fun _ =>
          respects_pure _

theorem sameContent_store {file other : path} (hne : other ≠ file)
    (body : Body) (fs : FileState path) :
    SameContent other fs (store file body fs) :=
  Function.update_of_ne hne _ _

omit [DecidableEq path] in
theorem respects_fopenWrite (other : path) :
    Respects (SameContent other) fopenWrite :=
  respects_bind respects_read fun _ =>
    respects_bind (respects_modify fun _ => rfl) fun _ => respects_pure _

theorem respects_writeData {file other : path} (hne : other ≠ file)
    (data : Body) (mode : Int32) :
    Respects (SameContent other) (writeData data file mode) := by
  refine respects_bind (respects_lock other) ?_
  intro _
  refine respects_ite ?_ (respects_pure _)
  refine respects_bind (respects_fopenWrite other) ?_
  intro isOpen
  refine respects_ite ?_ (respects_pure _)
  refine respects_bind respects_read ?_
  intro fs
  refine respects_bind (respects_modify ?_) fun _ => ?_
  · intro fs'
    exact sameContent_store hne _ fs'
  · exact respects_bind (respects_modify fun _ => rfl) fun _ => respects_pure _

/-!
## Calls

One constructor for each helper, so that a run of the daemon's file accesses is
a list of calls.
-/

inductive FileCall (path : Type) where
  | readData (file : path)
  | writeData (data : Body) (file : path) (mode : Int32)
  | readLine (file : path)
  | loadJsonFromFile (file : path)
  | checkFileExist (file : path)

namespace FileCall

def exec : FileCall path -> Exec (FileState path) Fault Unit
  | readData file => do
      let _ <- Utils.readData file
      return ()
  | writeData data file mode => do
      let _ <- Utils.writeData data file mode
      return ()
  | readLine file => do
      let _ <- Utils.readLine file
      return ()
  | loadJsonFromFile file => do
      let _ <- Utils.loadJsonFromFile file
      return ()
  | checkFileExist file => do
      let _ <- Utils.checkFileExist file
      return ()

def reads : FileCall path -> Option path
  | readData file => some file
  | writeData _ _ _ => none
  | readLine file => some file
  | loadJsonFromFile file => some file
  | checkFileExist file => some file

def writes : FileCall path -> Option path
  | writeData _ file _ => some file
  | _ => none

def ModeInRange : FileCall path -> Prop
  | writeData _ _ mode => mode = truncateMode ∨ mode = appendMode
  | _ => True

/-- The call reaches the unlock at the end of its helper. -/
def Opens (call : FileCall path) (fs : FileState path) : Prop :=
  fs.fopenFails 0 = false ∧ call.ModeInRange ∧
    forall file, call.reads = some file -> fs.content file ≠ none

/-- The state a call leaves when it reaches that unlock. -/
def effect (call : FileCall path) (fs : FileState path) : FileState path :=
  match call with
  | writeData data file mode =>
      store file (written mode (fs.content file) data) (nextFopen fs)
  | _ => nextFopen fs

omit [DecidableEq path] in
theorem opens_of_reads {call : FileCall path} {file : path}
    (hreads : call.reads = some file) (fs : FileState path) :
    call.Opens fs <-> (opened file fs).isSome = true := by
  have hmode : call.ModeInRange := by
    cases call with
    | writeData data other mode => cases hreads
    | _ => trivial
  unfold Opens opened
  cases fs.fopenFails 0 <;>
    simp [hmode, hreads, Option.isSome_iff_ne_none]

theorem wp_exec_of_reads {call : FileCall path} {file : path}
    (hreads : call.reads = some file)
    (post : FileState path -> Prop) (fs : FileState path) :
    wp call.exec (fun _ fs' => post fs') fs <->
      fs.locked = false ∧
        post { nextFopen fs with locked := (opened file fs).isNone } := by
  cases call with
  | writeData data other mode => cases hreads
  | readData other =>
      cases hreads
      simp [exec, wp_readData]
  | readLine other =>
      cases hreads
      simp only [exec, Utils.readLine, wp_bind, wp_readData, wp_pure]
      cases opened file fs <;> simp
  | loadJsonFromFile other =>
      cases hreads
      simp [exec, Utils.loadJsonFromFile, wp_readData]
  | checkFileExist other =>
      cases hreads
      simp [exec, wp_checkFileExist]

/-- A call returns and frees the mutex exactly when it opens its file. -/
theorem wp_exec (call : FileCall path) (post : FileState path -> Prop)
    (fs : FileState path) :
    wp call.exec (fun _ fs' => fs'.locked = false ∧ post fs') fs <->
      fs.locked = false ∧ call.Opens fs ∧
        post { call.effect fs with locked := false } := by
  cases hreads : call.reads with
  | some file =>
      have heffect : call.effect fs = nextFopen fs := by
        cases call with
        | writeData data other mode => cases hreads
        | _ => rfl
      rw [wp_exec_of_reads hreads, opens_of_reads hreads, heffect]
      cases opened file fs <;> simp
  | none =>
      cases call with
      | writeData data file mode =>
          simp only [exec, wp_bind, wp_writeData, wp_pure, Opens, effect,
            ModeInRange, reads]
          split
          · cases hfails : fs.fopenFails 0 <;> simp [*]
          · simp [*]
      | _ => cases hreads

end FileCall

/-!
## Runs

`MutexFreeAfterEach` is what the other threads rely on.  It holds of a run
exactly when every call of the run opens its file.
-/

/-- Every call of the run returns, and the mutex is free after it. -/
def MutexFreeAfterEach : List (FileCall path) -> FileState path -> Prop
  | [], _ => True
  | call :: rest, fs =>
      wp call.exec
        (fun _ fs' => fs'.locked = false ∧ MutexFreeAfterEach rest fs') fs

/-- Every call opens its file: `fopen` is not refused, the mode is in range,
and a file that is read is there already or has been written before. -/
def EveryCallOpens (calls : List (FileCall path)) (fs : FileState path) : Prop :=
  forall (before : List (FileCall path)) (call : FileCall path)
    (after : List (FileCall path)), calls = before ++ call :: after ->
    fs.fopenFails before.length = false ∧ call.ModeInRange ∧
      forall file, call.reads = some file ->
        fs.content file ≠ none ∨
          exists earlier, earlier ∈ before ∧ earlier.writes = some file

omit [DecidableEq path] in
theorem everyCallOpens_nil (fs : FileState path) : EveryCallOpens [] fs := by
  intro before call after hsplit
  simp at hsplit

theorem fopenFails_effect (call : FileCall path) (fs : FileState path) (n : Nat) :
    (call.effect fs).fopenFails n = fs.fopenFails (n + 1) := by
  cases call <;> rfl

theorem content_effect_ne_none (call : FileCall path) (fs : FileState path)
    (file : path) :
    (call.effect fs).content file ≠ none <->
      fs.content file ≠ none ∨ call.writes = some file := by
  cases call with
  | writeData data written mode =>
      simp only [FileCall.effect, FileCall.writes, store, nextFopen]
      by_cases hfile : file = written
      · simp [hfile]
      · have hne : ¬ written = file := fun h => hfile h.symm
        simp [hfile, hne]
  | _ => simp [FileCall.effect, FileCall.writes, nextFopen]

/-- The first call opens its file now, the others in the state it leaves. -/
theorem everyCallOpens_cons (call : FileCall path) (rest : List (FileCall path))
    (fs : FileState path) :
    EveryCallOpens (call :: rest) fs <->
      call.Opens fs ∧
        EveryCallOpens rest { call.effect fs with locked := false } := by
  constructor
  · intro h
    constructor
    · rcases h [] call rest rfl with ⟨hfopen, hmode, hreads⟩
      refine ⟨hfopen, hmode, ?_⟩
      intro file hfile
      rcases hreads file hfile with hthere | ⟨earlier, hmem, _⟩
      · exact hthere
      · cases hmem
    · intro before later after hsplit
      rcases h (call :: before) later after (by rw [hsplit]; rfl) with
        ⟨hfopen, hmode, hreads⟩
      refine ⟨?_, hmode, ?_⟩
      · rw [← hfopen]
        exact fopenFails_effect call fs before.length
      · intro file hfile
        show (call.effect fs).content file ≠ none ∨ _
        rw [content_effect_ne_none]
        rcases hreads file hfile with hthere | ⟨earlier, hmem, hwrites⟩
        · exact Or.inl (Or.inl hthere)
        · rcases List.mem_cons.mp hmem with heq | hbefore
          · subst heq
            exact Or.inl (Or.inr hwrites)
          · exact Or.inr ⟨earlier, hbefore, hwrites⟩
  · intro h before later after hsplit
    rcases h with ⟨⟨hfopen, hmode, hreads⟩, hrest⟩
    cases before with
    | nil =>
        cases hsplit
        refine ⟨hfopen, hmode, ?_⟩
        intro file hfile
        exact Or.inl (hreads file hfile)
    | cons first others =>
        cases hsplit
        rcases hrest others later after rfl with ⟨hfopen', hmode', hreads'⟩
        refine ⟨?_, hmode', ?_⟩
        · rw [← hfopen']
          exact (fopenFails_effect call fs others.length).symm
        · intro file hfile
          have hthere : (call.effect fs).content file ≠ none ∨ _ :=
            hreads' file hfile
          rw [content_effect_ne_none] at hthere
          rcases hthere with (hold | hwrites) | ⟨earlier, hmem, hwrites⟩
          · exact Or.inl hold
          · exact Or.inr ⟨call, List.mem_cons_self, hwrites⟩
          · exact Or.inr ⟨earlier, List.mem_cons_of_mem call hmem, hwrites⟩

/-- From a free mutex, a run of file accesses never blocks and leaves the mutex
free after every call exactly when every call opens its file. -/
theorem mutexFreeAfterEach_iff (calls : List (FileCall path))
    (fs : FileState path) (hfree : fs.locked = false) :
    MutexFreeAfterEach calls fs <-> EveryCallOpens calls fs := by
  induction calls generalizing fs with
  | nil => exact iff_of_true trivial (everyCallOpens_nil fs)
  | cons call rest ih =>
      rw [everyCallOpens_cons, MutexFreeAfterEach, FileCall.wp_exec, ih _ rfl]
      constructor
      · intro h
        exact h.2
      · intro h
        exact ⟨hfree, h⟩

/-- Two files: one is there, the other, like a lease file before the first
lease, is not. -/
def leaseFileMissing : FileState Bool where
  locked := false
  content := fun file => if file then some (Body.json Json.null) else none
  fopenFails := fun _ => false

theorem mutexFreeAfterEach_of_existing :
    MutexFreeAfterEach
      [FileCall.readData true,
        FileCall.writeData (Body.text "lease") false truncateMode,
        FileCall.readLine false] leaseFileMissing :=
  (mutexFreeAfterEach_iff _ _ rfl).mpr (by
    rw [everyCallOpens_cons, everyCallOpens_cons, everyCallOpens_cons]
    simp [FileCall.Opens, FileCall.ModeInRange, FileCall.reads,
      FileCall.effect, leaseFileMissing, store, nextFopen,
      everyCallOpens_nil])

/-- Reading the missing file leaves the mutex held, and the next access of any
file blocks. -/
theorem not_mutexFreeAfterEach_of_missing :
    ¬ forall (calls : List (FileCall Bool)) (fs : FileState Bool),
      fs.locked = false -> MutexFreeAfterEach calls fs := by
  intro h
  have hrun := h [FileCall.readLine false, FileCall.readData true]
    leaseFileMissing rfl
  rw [MutexFreeAfterEach, FileCall.wp_exec] at hrun
  exact hrun.2.1.2.2 false rfl rfl

end Utils
end Noc
