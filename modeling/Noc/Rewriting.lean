import Noc.World

/-!
# Rewriting a file

An operation that reads a setting file, edits what it read and writes it back
leaves the old tree or the edited one, however it ends.  A file that cannot be
opened leaves the mutex held, and nothing is written after that.
-/

namespace Noc

open Foundation
open Foundation.Exec
open Network
open Utils

section

variable {file : DaemonFile} {w : World}

/-- What is left of the file system after a file was opened for reading. -/
def World.afterOpen (w : World) (file : DaemonFile) : World :=
  { w with files :=
      { nextFopen w.files with locked := (opened file w.files).isNone } }

theorem wp_readJson_iff (post : Option Json -> World -> Prop) :
    wp (readJson file) post w <->
      w.files.locked = false ∧
        post ((opened file w.files).bind Body.parse) (w.afterOpen file) := by
  unfold readJson onFiles loadJsonFromFile
  rw [wp_zoom, wp_bind, wp_readData]
  rfl

/-- What an operation has in hand after reading: the file's tree, or nothing and
the mutex held. -/
structure HasRead (file : DaemonFile) (w : World) (json : Option Json)
    (w' : World) : Prop where
  beside : Beside [] w w'
  current : json = w.json file ∨ json = none ∧ w'.files.locked = true

theorem HasRead.runIpRoute {json : Option Json} {w' : World}
    (h : HasRead file w json w') (commands : List IpRouteCommand) :
    HasRead file w json (w'.runIpRoute commands) where
  beside := h.beside.trans ⟨id, fun _ _ => rfl, rfl, rfl⟩
  current := h.current

theorem wlp_readJson_hasRead (hfile : file.installed = true) :
    wlp (readJson file) (HasRead file w) w := by
  have hbeside : wlp (readJson file) (fun _ w' => Beside [] w w') w :=
    (respects_readJson hfile).wlp w
  have hcurrent : wlp (readJson file) (fun json w' =>
      json = w.json file ∨ json = none ∧ w'.files.locked = true) w := by
    unfold readJson onFiles loadJsonFromFile
    rw [wlp_zoom, wlp_bind]
    refine wlp_of_outcome (wp_readData file · w.files) ?_
    cases hopened : opened file w.files with
    | none => exact Or.inr ⟨rfl, rfl⟩
    | some body =>
        left
        unfold opened at hopened
        split at hopened
        · cases hopened
        · unfold World.json
          rw [hopened]
  exact wlp_mono (fun _ _ h => ⟨h.1, h.2⟩) (wlp_and hbeside hcurrent)

/-- What an edit may leave: the tree that was there, or the one written when
the mutex was free. -/
theorem json_final_writeJson {p : Option Json -> Prop} {tree : Json}
    (hold : p (w.json file))
    (hnew : w.files.locked = false -> p (some tree)) :
    p ((final (writeJson tree file) w).json file) := by
  unfold writeJson onFiles
  rw [final_zoom]
  unfold World.json at hold ⊢
  rcases final_writeData_cases (Body.json tree) file truncateMode w.files with
    hcontent | ⟨hfree, hcontent⟩
  · show p (Option.bind ((final _ w.files).content file) Body.parse)
    rw [hcontent]
    exact hold
  · show p (Option.bind ((final _ w.files).content file) Body.parse)
    rw [hcontent]
    simpa [store, written] using hnew hfree

/-- A file is read, and what follows ends well from what was read. -/
theorem json_final_readJson_bind {α : Type} {p : Option Json -> Prop}
    {next : Option Json -> Daemon α} (hfile : file.installed = true)
    (hsame : p (w.json file))
    (hnext : forall json w', HasRead file w json w' ->
      p ((final (next json) w').json file)) :
    p ((final (readJson file >>= next) w).json file) := by
  apply final_bind (p := fun w' => p (w'.json file)) (wlp_readJson_hasRead hfile)
  · have hbeside : Beside [] w _ := respects_readJson hfile w
    rw [hbeside.json_eq List.not_mem_nil]
    exact hsame
  · exact hnext

/-- The write at the end of an edit, and what follows it and writes nothing. -/
theorem json_final_writeJson_bind {α : Type} {p : Option Json -> Prop}
    {json : Option Json} {w' : World} {tree : Json} {next : Int32 -> Daemon α}
    (hread : HasRead file w json w') (hold : p (w.json file))
    (hnew : json = w.json file -> p (some tree))
    (hnext : forall ret, Respects (Beside []) (next ret)) :
    p ((final (writeJson tree file >>= next) w').json file) := by
  have hkept : forall before after : World, Beside [] before after ->
      p (before.json file) -> p (after.json file) := by
    intro before after hbeside hbefore
    rw [hbeside.json_eq List.not_mem_nil]
    exact hbefore
  apply final_bind_of_respects (p := fun after => p (after.json file)) hkept hnext
  apply json_final_writeJson
  · rw [hread.beside.json_eq List.not_mem_nil]
    exact hold
  · intro hfree
    cases hread.current with
    | inl hjson => exact hnew hjson
    | inr hheld => exact absurd hheld.2 (by rw [hfree]; exact Bool.false_ne_true)

/-!
## A held mutex
-/

theorem wlp_writeJson_written (tree : Json) (file : DaemonFile) (w : World) :
    wlp (writeJson tree file) (fun _ w' =>
      w'.files.locked = true ∨ w'.json file = some tree) w := by
  unfold writeJson onFiles
  rw [wlp_zoom, wlp_iff]
  intro ret fs' hrun
  have hends := (wp_writeData (Body.json tree) file truncateMode
    (fun _ fs => fs = fs') w.files).mp ((wp_of_run hrun _).mpr rfl)
  have hcases := hends.2
  rw [if_pos (Or.inl rfl)] at hcases
  split at hcases
  · left
    rw [← hcases]
  · right
    rw [← hcases]
    simp [World.json, store, written, nextFopen]

theorem wlp_readLines_of_locked {post : Option (List String) -> World -> Prop}
    (h : w.files.locked = true) : wlp (readLines file) post w := by
  unfold readLines onFiles readLine
  rw [wlp_zoom, wlp_bind, wlp_iff]
  intro body fs' hrun
  have hends := (wp_readData file (fun _ _ => True) w.files).mp
    ((wp_of_run hrun _).mpr trivial)
  rw [h] at hends
  cases hends.1

end

end Noc
