import Mathlib.Data.List.Nodup
import Mathlib.Logic.Function.Basic
import Noc.Foundation.Runs

/-!
# Timers

`utils/timer/timer.c`: a list of nodes, each with a descriptor of the kernel that
becomes readable when its time is over, and a thread that polls the descriptors and
calls back.  Requests start and stop timers while the thread is anywhere in its
round.
-/

namespace Noc
namespace Utils

open Foundation

inductive TTimer where
  | singleShot
  | periodic
  deriving DecidableEq, Repr

/-- `start_timer` returns the address of a node; `id` numbers the nodes. -/
structure TimerNode where
  id : Nat
  fd : Nat
  deriving DecidableEq, Repr

/-- An open descriptor: the timer it was made for, whether its time starts again or
at all, and the expirations that were not read. -/
structure TimerFd where
  owner : Nat
  interval : Bool
  armed : Bool
  expirations : Nat
  deriving DecidableEq, Repr

namespace TimerFd

def expire (timerFd : TimerFd) : TimerFd :=
  { timerFd with
    armed := timerFd.interval
    expirations := timerFd.expirations + 1 }

/-- `read` takes all expirations at once. -/
def read (timerFd : TimerFd) : TimerFd :=
  { timerFd with expirations := 0 }

end TimerFd

/-- Where the thread is in its round; the pairs are the entries of `ufds` still to be
looked at, with their `POLLIN`. -/
inductive TimerThread where
  | collecting
  | polling (fds : List Nat)
  | looking (ufds : List (Nat × Bool))
  | expired (fd : Nat) (ufds : List (Nat × Bool))
  | calling (node : TimerNode) (ufds : List (Nat × Bool))
  deriving DecidableEq, Repr

/-- The state, and what has happened: the types of the timers that were started, the
expirations and the calls. -/
structure Timers where
  head : List TimerNode
  fds : Nat -> Option TimerFd
  thread : TimerThread
  types : List TTimer
  expirations : List Nat
  calls : List Nat

def maxTimerCount : Nat := 1000

namespace Timers

def initial : Timers where
  head := []
  fds := fun _ => none
  thread := .collecting
  types := []
  expirations := []
  calls := []

/-- The descriptor of the next timer. -/
def newFd (timers : Timers) (type : TTimer) : TimerFd where
  owner := timers.types.length
  interval := type = .periodic
  armed := true
  expirations := 0

def startTimer (timers : Timers) (fd : Nat) (type : TTimer) : Timers :=
  { timers with
    head := { id := timers.types.length, fd } :: timers.head
    fds := Function.update timers.fds fd (some (timers.newFd type))
    types := timers.types ++ [type] }

def stopTimer (timers : Timers) (node : TimerNode) : Timers :=
  { timers with
    head := timers.head.erase node
    fds := Function.update timers.fds node.fd none }

/-- The kernel counts an expiration. -/
def expire (timers : Timers) (fd : Nat) (timerFd : TimerFd) : Timers :=
  { timers with
    fds := Function.update timers.fds fd (some timerFd.expire)
    expirations := timerFd.owner :: timers.expirations }

/-- The thread reads a descriptor. -/
def read (timers : Timers) (fd : Nat) (timerFd : TimerFd) (ufds : List (Nat × Bool)) :
    Timers :=
  { timers with
    fds := Function.update timers.fds fd (some timerFd.read)
    thread := .expired fd ufds }

def getTimerFromFd (timers : Timers) (fd : Nat) : Option TimerNode :=
  timers.head.find? fun node => node.fd = fd

def readable (timers : Timers) (fd : Nat) : Bool :=
  (timers.fds fd).any fun timerFd => 0 < timerFd.expirations

/-- The next thing the thread does, if it can: it is stuck in `read` at a descriptor
without an expiration, and has no room for too many timers. -/
def timerThread (timers : Timers) : Option Timers :=
  match timers.thread with
  | .collecting =>
      if timers.head.length <= maxTimerCount then
        some { timers with thread := .polling (timers.head.map TimerNode.fd) }
      else none
  | .polling fds =>
      some { timers with thread := .looking (fds.map fun fd => (fd, timers.readable fd)) }
  | .looking [] => some { timers with thread := .collecting }
  | .looking ((_, false) :: ufds) => some { timers with thread := .looking ufds }
  | .looking ((fd, true) :: ufds) =>
      match timers.fds fd with
      | none => some { timers with thread := .looking ufds }
      | some timerFd =>
          if timerFd.expirations = 0 then none
          else some (timers.read fd timerFd ufds)
  | .expired fd ufds =>
      match timers.getTimerFromFd fd with
      | none => some { timers with thread := .looking ufds }
      | some node => some { timers with thread := .calling node ufds }
  | .calling node ufds =>
      some { timers with thread := .looking ufds, calls := node.id :: timers.calls }

end Timers

inductive TimerEvent where
  | start (fd : Nat) (type : TTimer)
  | stop (node : TimerNode)
  | expire (fd : Nat)
  | thread
  deriving DecidableEq, Repr

/-- A timer gets a descriptor that is not open, and only timers of the list are
stopped. -/
inductive TimerStep : Timers -> TimerEvent -> Timers -> Prop where
  | start {timers : Timers} {fd : Nat} {type : TTimer} (hclosed : timers.fds fd = none) :
      TimerStep timers (.start fd type) (timers.startTimer fd type)
  | stop {timers : Timers} {node : TimerNode} (hlisted : node ∈ timers.head) :
      TimerStep timers (.stop node) (timers.stopTimer node)
  | expire {timers : Timers} {fd : Nat} {timerFd : TimerFd}
      (hopen : timers.fds fd = some timerFd) (harmed : timerFd.armed = true) :
      TimerStep timers (.expire fd) (timers.expire fd timerFd)
  | thread {timers timers' : Timers} (hthread : timers.timerThread = some timers') :
      TimerStep timers .thread timers'

/-- The thread has read an expiration and not called back yet. -/
def TimerThread.Serving : TimerThread -> Prop
  | expired _ _ | calling _ _ => True
  | _ => False

/-- A step that stops no timer behind the back of a thread that is about to call. -/
def UndisturbedStep (timers : Timers) (event : TimerEvent) (timers' : Timers) : Prop :=
  TimerStep timers event timers' ∧
    forall node, event = .stop node -> ¬ timers.thread.Serving

/-!
## What the thread does
-/

inductive ThreadStep (timers : Timers) : Timers -> Prop where
  | collect (hphase : timers.thread = .collecting) :
      ThreadStep timers
        { timers with thread := .polling (timers.head.map TimerNode.fd) }
  | poll {fds : List Nat} (hphase : timers.thread = .polling fds) :
      ThreadStep timers
        { timers with thread := .looking (fds.map fun fd => (fd, timers.readable fd)) }
  | again (hphase : timers.thread = .looking []) :
      ThreadStep timers { timers with thread := .collecting }
  | skip {fd : Nat} {ready : Bool} {ufds : List (Nat × Bool)}
      (hphase : timers.thread = .looking ((fd, ready) :: ufds))
      (hclosed : ready = true -> timers.fds fd = none) :
      ThreadStep timers { timers with thread := .looking ufds }
  | read {fd : Nat} {ufds : List (Nat × Bool)} {timerFd : TimerFd}
      (hphase : timers.thread = .looking ((fd, true) :: ufds))
      (hopen : timers.fds fd = some timerFd) (hexpired : timerFd.expirations ≠ 0) :
      ThreadStep timers (timers.read fd timerFd ufds)
  | unlisted {fd : Nat} {ufds : List (Nat × Bool)}
      (hphase : timers.thread = .expired fd ufds)
      (hnone : timers.getTimerFromFd fd = none) :
      ThreadStep timers { timers with thread := .looking ufds }
  | found {fd : Nat} {ufds : List (Nat × Bool)} {node : TimerNode}
      (hphase : timers.thread = .expired fd ufds)
      (hfound : timers.getTimerFromFd fd = some node) :
      ThreadStep timers { timers with thread := .calling node ufds }
  | call {node : TimerNode} {ufds : List (Nat × Bool)}
      (hphase : timers.thread = .calling node ufds) :
      ThreadStep timers
        { timers with thread := .looking ufds, calls := node.id :: timers.calls }

theorem threadStep_of_timerThread {timers timers' : Timers}
    (h : timers.timerThread = some timers') : ThreadStep timers timers' := by
  unfold Timers.timerThread at h
  cases hphase : timers.thread with
  | collecting =>
      rw [hphase] at h
      by_cases hroom : timers.head.length <= maxTimerCount
      · simp only [if_pos hroom] at h
        cases h
        exact .collect hphase
      · simp only [if_neg hroom] at h
        cases h
  | polling fds =>
      rw [hphase] at h
      cases h
      exact .poll hphase
  | looking ufds =>
      rw [hphase] at h
      cases ufds with
      | nil =>
          cases h
          exact .again hphase
      | cons entry rest =>
          rcases entry with ⟨fd, ready⟩
          cases ready with
          | false =>
              cases h
              exact .skip hphase fun hready => by cases hready
          | true =>
              cases hopen : timers.fds fd with
              | none =>
                  simp only [hopen] at h
                  cases h
                  exact .skip hphase fun _ => hopen
              | some timerFd =>
                  simp only [hopen] at h
                  by_cases hexpired : timerFd.expirations = 0
                  · rw [if_pos hexpired] at h
                    cases h
                  · rw [if_neg hexpired] at h
                    cases h
                    exact .read hphase hopen hexpired
  | expired fd ufds =>
      rw [hphase] at h
      cases hfound : timers.getTimerFromFd fd with
      | none =>
          simp only [hfound] at h
          cases h
          exact .unlisted hphase hfound
      | some node =>
          simp only [hfound] at h
          cases h
          exact .found hphase hfound
  | calling node ufds =>
      rw [hphase] at h
      cases h
      exact .call hphase

/-!
## The list and the descriptors
-/

/-- The open descriptors are those of the nodes of the list, each of its own node. -/
structure Kept (timers : Timers) : Prop where
  ids : (timers.head.map TimerNode.id).Nodup
  started : forall node, node ∈ timers.head -> node.id < timers.types.length
  opens : forall node, node ∈ timers.head -> exists timerFd,
    timers.fds node.fd = some timerFd ∧ timerFd.owner = node.id
  owned : forall fd timerFd, timers.fds fd = some timerFd ->
    { id := timerFd.owner, fd } ∈ timers.head

section

variable {timers timers' : Timers} {node other : TimerNode} {fd : Nat}
  {timerFd : TimerFd} {type : TTimer} {event : TimerEvent}

theorem fds_startTimer :
    (timers.startTimer fd type).fds =
      Function.update timers.fds fd (some (timers.newFd type)) := rfl

theorem fds_stopTimer :
    (timers.stopTimer node).fds = Function.update timers.fds node.fd none := rfl

theorem kept_initial : Kept Timers.initial where
  ids := List.nodup_nil
  started := fun _ hmem => by cases hmem
  opens := fun _ hmem => by cases hmem
  owned := fun _ _ hopen => by cases hopen

theorem Kept.eq_of_id (h : Kept timers) (hnode : node ∈ timers.head)
    (hother : other ∈ timers.head) (hid : node.id = other.id) : node = other :=
  List.inj_on_of_nodup_map h.ids hnode hother hid

theorem Kept.eq_of_fd (h : Kept timers) (hnode : node ∈ timers.head)
    (hother : other ∈ timers.head) (hfd : node.fd = other.fd) : node = other := by
  rcases h.opens node hnode with ⟨timerFd, hopen, howner⟩
  rcases h.opens other hother with ⟨timerFd', hopen', howner'⟩
  rw [hfd, hopen'] at hopen
  cases hopen
  exact h.eq_of_id hnode hother (howner.symm.trans howner')

theorem Kept.nodup_fds (h : Kept timers) : (timers.head.map TimerNode.fd).Nodup :=
  (List.Nodup.of_map _ h.ids).map_on
    fun _ hnode _ hother hfd => h.eq_of_fd hnode hother hfd

theorem Kept.fd_of_owner (h : Kept timers) {fd' : Nat} {timerFd' : TimerFd}
    (hopen : timers.fds fd = some timerFd) (hopen' : timers.fds fd' = some timerFd')
    (howner : timerFd.owner = timerFd'.owner) : fd = fd' := by
  have hsame := h.eq_of_id (h.owned fd timerFd hopen) (h.owned fd' timerFd' hopen') howner
  exact congrArg TimerNode.fd hsame

/-- The node of an open descriptor is found by it. -/
theorem Kept.getTimerFromFd (h : Kept timers) (hopen : timers.fds fd = some timerFd) :
    timers.getTimerFromFd fd = some { id := timerFd.owner, fd } := by
  have hmem := h.owned fd timerFd hopen
  have hsome : (timers.getTimerFromFd fd).isSome = true :=
    List.find?_isSome.mpr ⟨_, hmem, by simp⟩
  rcases Option.isSome_iff_exists.mp hsome with ⟨found, hfound⟩
  have hfd : found.fd = fd := by simpa using List.find?_some hfound
  rw [hfound, h.eq_of_fd (List.mem_of_find?_eq_some hfound) hmem hfd]

theorem kept_startTimer (h : Kept timers) (hclosed : timers.fds fd = none)
    (type : TTimer) : Kept (timers.startTimer fd type) where
  ids := by
    refine List.nodup_cons.mpr ⟨fun hmem => ?_, h.ids⟩
    rcases List.mem_map.mp hmem with ⟨node, hnode, hid⟩
    exact Nat.lt_irrefl _ (hid ▸ h.started node hnode)
  started := by
    intro node hmem
    show node.id < (timers.types ++ [type]).length
    rw [List.length_append, List.length_singleton]
    rcases List.mem_cons.mp hmem with rfl | hold
    · exact Nat.lt_succ_self _
    · exact Nat.lt_succ_of_lt (h.started node hold)
  opens := by
    intro node hmem
    rcases List.mem_cons.mp hmem with rfl | hold
    · exact ⟨_, Function.update_self _ _ _, rfl⟩
    · rcases h.opens node hold with ⟨timerFd, hopen, howner⟩
      have hne : node.fd ≠ fd := by
        rintro rfl
        rw [hclosed] at hopen
        cases hopen
      exact ⟨timerFd, (Function.update_of_ne hne _ _).trans hopen, howner⟩
  owned := by
    intro fd' timerFd hopen
    by_cases hfd : fd' = fd
    · subst hfd
      rw [fds_startTimer, Function.update_self] at hopen
      cases hopen
      exact List.mem_cons_self
    · rw [fds_startTimer, Function.update_of_ne hfd] at hopen
      exact List.mem_cons_of_mem _ (h.owned fd' timerFd hopen)

theorem Kept.mem_erase_iff (h : Kept timers) :
    other ∈ timers.head.erase node <-> other ≠ node ∧ other ∈ timers.head :=
  (List.Nodup.of_map _ h.ids).mem_erase_iff

theorem kept_stopTimer (h : Kept timers) (hlisted : node ∈ timers.head) :
    Kept (timers.stopTimer node) where
  ids := h.ids.sublist (List.erase_sublist.map TimerNode.id)
  started := fun other hmem => h.started other (h.mem_erase_iff.mp hmem).2
  opens := by
    intro other hmem
    rcases h.mem_erase_iff.mp hmem with ⟨hne, hold⟩
    have hfd : other.fd ≠ node.fd := fun hsame => hne (h.eq_of_fd hold hlisted hsame)
    rcases h.opens other hold with ⟨timerFd, hopen, howner⟩
    exact ⟨timerFd, (Function.update_of_ne hfd _ _).trans hopen, howner⟩
  owned := by
    intro fd timerFd hopen
    have hfd : fd ≠ node.fd := by
      rintro rfl
      rw [fds_stopTimer, Function.update_self] at hopen
      cases hopen
    rw [fds_stopTimer, Function.update_of_ne hfd] at hopen
    refine h.mem_erase_iff.mpr ⟨fun hsame => hfd ?_, h.owned fd timerFd hopen⟩
    exact congrArg TimerNode.fd hsame

/-- Nothing but the counts of a descriptor changes. -/
theorem Kept.update (h : Kept timers) (hopen : timers.fds fd = some timerFd)
    (timerFd' : TimerFd) (howner : timerFd'.owner = timerFd.owner)
    (hhead : timers'.head = timers.head) (htypes : timers'.types = timers.types)
    (hfds : timers'.fds = Function.update timers.fds fd (some timerFd')) :
    Kept timers' where
  ids := by
    rw [hhead]
    exact h.ids
  started := by
    rw [hhead, htypes]
    exact h.started
  opens := by
    rw [hhead, hfds]
    intro node hmem
    rcases h.opens node hmem with ⟨found, hfound, hid⟩
    by_cases hfd : node.fd = fd
    · rw [hfd, hopen] at hfound
      cases hfound
      rw [hfd]
      exact ⟨timerFd', Function.update_self _ _ _, howner.trans hid⟩
    · exact ⟨found, (Function.update_of_ne hfd _ _).trans hfound, hid⟩
  owned := by
    rw [hhead, hfds]
    intro fd' found hfound
    by_cases hfd : fd' = fd
    · subst hfd
      rw [Function.update_self] at hfound
      cases hfound
      rw [howner]
      exact h.owned fd' timerFd hopen
    · rw [Function.update_of_ne hfd] at hfound
      exact h.owned fd' found hfound

/-!
## Expirations and calls
-/

/-- The expiration of a timer that the thread has read and not called back for. -/
def Timers.token (timers : Timers) (id : Nat) : Nat :=
  match timers.thread with
  | .expired fd _ => if (timers.fds fd).any fun timerFd => timerFd.owner = id then 1 else 0
  | .calling node _ => if node.id = id then 1 else 0
  | _ => 0

/-- No timer is called back more often than it has expired, counted with what is
under way. -/
structure Counted (timers : Timers) : Prop where
  kept : Kept timers
  called : forall id, timers.calls.count id + timers.token id <= timers.expirations.count id
  unread : forall fd timerFd, timers.fds fd = some timerFd ->
    timers.calls.count timerFd.owner + timers.token timerFd.owner + timerFd.expirations <=
      timers.expirations.count timerFd.owner
  serving : forall fd ufds, timers.thread = .expired fd ufds -> timers.fds fd ≠ none
  calling : forall node ufds, timers.thread = .calling node ufds -> node ∈ timers.head

theorem counted_initial : Counted Timers.initial where
  kept := kept_initial
  called := fun _ => Nat.le_refl _
  unread := fun _ _ hopen => by cases hopen
  serving := fun _ _ hthread => by cases hthread
  calling := fun _ _ hthread => by cases hthread

theorem token_of_not_serving (h : ¬ timers.thread.Serving) (id : Nat) :
    timers.token id = 0 := by
  unfold Timers.token
  cases hthread : timers.thread with
  | collecting => rfl
  | polling fds => rfl
  | looking ufds => rfl
  | expired fd ufds => exact absurd (hthread ▸ trivial) h
  | calling node ufds => exact absurd (hthread ▸ trivial) h

theorem token_of_expired {ufds : List (Nat × Bool)}
    (hthread : timers.thread = .expired fd ufds) (hopen : timers.fds fd = some timerFd)
    (id : Nat) : timers.token id = if timerFd.owner = id then 1 else 0 := by
  simp [Timers.token, hthread, hopen]

theorem token_of_calling {ufds : List (Nat × Bool)}
    (hthread : timers.thread = .calling node ufds) (id : Nat) :
    timers.token id = if node.id = id then 1 else 0 := by
  unfold Timers.token
  rw [hthread]

/-- The token belongs to the same timer when the descriptor read keeps its owner. -/
theorem token_eq (hthread : timers'.thread = timers.thread)
    (howner : forall fd ufds, timers.thread = .expired fd ufds ->
      (timers'.fds fd).map TimerFd.owner = (timers.fds fd).map TimerFd.owner) (id : Nat) :
    timers'.token id = timers.token id := by
  unfold Timers.token
  rw [hthread]
  cases hphase : timers.thread with
  | collecting => rfl
  | polling fds => rfl
  | looking ufds => rfl
  | calling node ufds => rfl
  | expired fd ufds =>
      have hsame := howner fd ufds hphase
      have hany : forall found : Option TimerFd,
          (found.any fun timerFd => timerFd.owner = id) =
            (found.map TimerFd.owner).any fun owner => owner = id := by
        intro found
        cases found <;> rfl
      simp only [hany, hsame]

theorem counted_startTimer (h : Counted timers) (hclosed : timers.fds fd = none)
    (type : TTimer) : Counted (timers.startTimer fd type) := by
  have hne : forall fd' ufds, timers.thread = .expired fd' ufds -> fd' ≠ fd := by
    rintro fd' ufds hthread rfl
    exact h.serving fd' ufds hthread hclosed
  have htoken : forall id, (timers.startTimer fd type).token id = timers.token id := by
    refine token_eq rfl fun fd' ufds hthread => ?_
    rw [fds_startTimer, Function.update_of_ne (hne fd' ufds hthread)]
  refine
    { kept := kept_startTimer h.kept hclosed type
      called := ?_
      unread := ?_
      serving := ?_
      calling := ?_ }
  · intro id
    rw [htoken]
    exact h.called id
  · intro fd' timerFd hopen
    rw [htoken]
    by_cases hfd : fd' = fd
    · rw [hfd, fds_startTimer, Function.update_self] at hopen
      cases hopen
      exact h.called _
    · rw [fds_startTimer, Function.update_of_ne hfd] at hopen
      exact h.unread fd' timerFd hopen
  · intro fd' ufds hthread
    rw [fds_startTimer, Function.update_of_ne (hne fd' ufds hthread)]
    exact h.serving fd' ufds hthread
  · intro node ufds hthread
    exact List.mem_cons_of_mem _ (h.calling node ufds hthread)

theorem counted_stopTimer (h : Counted timers) (hlisted : node ∈ timers.head)
    (hserving : ¬ timers.thread.Serving) : Counted (timers.stopTimer node) := by
  have htoken : forall id, (timers.stopTimer node).token id = timers.token id := by
    refine token_eq rfl fun fd ufds hthread => ?_
    rw [hthread] at hserving
    exact absurd trivial hserving
  refine
    { kept := kept_stopTimer h.kept hlisted
      called := ?_
      unread := ?_
      serving := ?_
      calling := ?_ }
  · intro id
    rw [htoken]
    exact h.called id
  · intro fd timerFd hopen
    have hfd : fd ≠ node.fd := by
      rintro rfl
      rw [fds_stopTimer, Function.update_self] at hopen
      cases hopen
    rw [fds_stopTimer, Function.update_of_ne hfd] at hopen
    rw [htoken]
    exact h.unread fd timerFd hopen
  · intro fd ufds hthread
    have hthread' : timers.thread = .expired fd ufds := hthread
    rw [hthread'] at hserving
    exact absurd trivial hserving
  · intro other ufds hthread
    have hthread' : timers.thread = .calling other ufds := hthread
    rw [hthread'] at hserving
    exact absurd trivial hserving

theorem fds_expire :
    (timers.expire fd timerFd).fds =
      Function.update timers.fds fd (some timerFd.expire) := rfl

theorem counted_expire (h : Counted timers) (hopen : timers.fds fd = some timerFd) :
    Counted (timers.expire fd timerFd) := by
  have htoken : forall id, (timers.expire fd timerFd).token id = timers.token id := by
    refine token_eq rfl fun fd' ufds hthread => ?_
    by_cases hfd : fd' = fd
    · rw [hfd, fds_expire, Function.update_self, hopen]
      rfl
    · rw [fds_expire, Function.update_of_ne hfd]
  have hmore : forall id, timers.expirations.count id <=
      (timers.expire fd timerFd).expirations.count id := fun id =>
    List.count_le_count_cons
  refine
    { kept := h.kept.update hopen timerFd.expire rfl rfl rfl fds_expire
      called := ?_
      unread := ?_
      serving := ?_
      calling := h.calling }
  · intro id
    rw [htoken]
    exact Nat.le_trans (h.called id) (hmore id)
  · intro fd' timerFd' hopen'
    rw [htoken]
    by_cases hfd : fd' = fd
    · rw [hfd, fds_expire, Function.update_self] at hopen'
      cases hopen'
      have hunread := h.unread fd timerFd hopen
      show timers.calls.count timerFd.owner + timers.token timerFd.owner +
        (timerFd.expirations + 1) <=
          (timerFd.owner :: timers.expirations).count timerFd.owner
      rw [List.count_cons_self]
      exact Nat.succ_le_succ hunread
    · rw [fds_expire, Function.update_of_ne hfd] at hopen'
      exact Nat.le_trans (h.unread fd' timerFd' hopen') (hmore _)
  · intro fd' ufds hthread
    by_cases hfd : fd' = fd
    · rw [hfd, fds_expire, Function.update_self]
      exact Option.some_ne_none _
    · rw [fds_expire, Function.update_of_ne hfd]
      exact h.serving fd' ufds hthread

/-- The thread moves on without having read or called. -/
theorem Counted.moved (h : Counted timers) {thread : TimerThread}
    (hthread : ¬ thread.Serving) : Counted { timers with thread } := by
  have htoken : forall id, ({ timers with thread } : Timers).token id = 0 :=
    token_of_not_serving hthread
  refine
    { kept := ⟨h.kept.ids, h.kept.started, h.kept.opens, h.kept.owned⟩
      called := ?_
      unread := ?_
      serving := ?_
      calling := ?_ }
  · intro id
    rw [htoken]
    exact Nat.le_trans (Nat.le_add_right _ _) (h.called id)
  · intro fd timerFd hopen
    rw [htoken]
    have hunread := h.unread fd timerFd hopen
    show timers.calls.count _ + 0 + _ <= timers.expirations.count _
    omega
  · rintro fd ufds rfl
    exact absurd trivial hthread
  · rintro node ufds rfl
    exact absurd trivial hthread

theorem fds_read {ufds : List (Nat × Bool)} :
    (timers.read fd timerFd ufds).fds =
      Function.update timers.fds fd (some timerFd.read) := rfl

theorem counted_read (h : Counted timers) (ufds : List (Nat × Bool))
    (hthread : ¬ timers.thread.Serving) (hopen : timers.fds fd = some timerFd)
    (hexpired : timerFd.expirations ≠ 0) : Counted (timers.read fd timerFd ufds) := by
  have hread : (timers.read fd timerFd ufds).fds fd = some timerFd.read :=
    Function.update_self _ _ _
  have htoken : forall id, (timers.read fd timerFd ufds).token id =
      if timerFd.read.owner = id then 1 else 0 :=
    token_of_expired rfl hread
  have howner := h.unread fd timerFd hopen
  rw [token_of_not_serving hthread] at howner
  refine
    { kept := h.kept.update hopen timerFd.read rfl rfl rfl fds_read
      called := ?_
      unread := ?_
      serving := ?_
      calling := fun _ _ hphase => by cases hphase }
  · intro id
    rw [htoken]
    show timers.calls.count id + _ <= timers.expirations.count id
    by_cases hid : timerFd.owner = id
    · subst hid
      have hone : (if timerFd.read.owner = timerFd.owner then 1 else 0) = 1 := if_pos rfl
      rw [hone]
      omega
    · have hcalled := h.called id
      have hnone : (if timerFd.read.owner = id then 1 else 0) = 0 := if_neg hid
      rw [hnone]
      omega
  · intro fd' timerFd' hopen'
    rw [htoken]
    show timers.calls.count _ + _ + _ <= timers.expirations.count _
    by_cases hfd : fd' = fd
    · rw [hfd, hread] at hopen'
      cases hopen'
      rw [if_pos rfl]
      show timers.calls.count timerFd.owner + 1 + 0 <=
        timers.expirations.count timerFd.owner
      omega
    · rw [fds_read, Function.update_of_ne hfd] at hopen'
      have hne : timerFd.read.owner ≠ timerFd'.owner := fun hsame =>
        hfd (h.kept.fd_of_owner hopen hopen' hsame).symm
      have hunread := h.unread fd' timerFd' hopen'
      rw [if_neg hne]
      omega
  · rintro fd' ufds' ⟨⟩
    rw [hread]
    exact Option.some_ne_none _

theorem counted_lookup (h : Counted timers) {ufds : List (Nat × Bool)}
    (hthread : timers.thread = .expired fd ufds)
    (hfound : timers.getTimerFromFd fd = some node) :
    Counted { timers with thread := .calling node ufds } := by
  rcases Option.ne_none_iff_exists'.mp (h.serving fd ufds hthread) with ⟨timerFd, hopen⟩
  have hnode : node.id = timerFd.owner := by
    rw [h.kept.getTimerFromFd hopen] at hfound
    cases hfound
    rfl
  have htoken : forall id,
      ({ timers with thread := .calling node ufds } : Timers).token id =
        timers.token id := by
    intro id
    rw [token_of_calling rfl, token_of_expired hthread hopen, hnode]
  refine
    { kept := ⟨h.kept.ids, h.kept.started, h.kept.opens, h.kept.owned⟩
      called := ?_
      unread := ?_
      serving := fun _ _ hphase => by cases hphase
      calling := ?_ }
  · intro id
    rw [htoken]
    exact h.called id
  · intro fd' timerFd' hopen'
    rw [htoken]
    exact h.unread fd' timerFd' hopen'
  · rintro other ufds' ⟨⟩
    exact List.mem_of_find?_eq_some hfound

theorem counted_call (h : Counted timers) {ufds : List (Nat × Bool)}
    (hthread : timers.thread = .calling node ufds) :
    Counted { timers with thread := .looking ufds, calls := node.id :: timers.calls } := by
  have htoken : forall id,
      (node.id :: timers.calls).count id = timers.calls.count id + timers.token id := by
    intro id
    rw [token_of_calling hthread, List.count_cons]
    simp
  refine
    { kept := ⟨h.kept.ids, h.kept.started, h.kept.opens, h.kept.owned⟩
      called := ?_
      unread := ?_
      serving := fun _ _ hphase => by cases hphase
      calling := fun _ _ hphase => by cases hphase }
  · intro id
    show (node.id :: timers.calls).count id + 0 <= timers.expirations.count id
    rw [htoken]
    exact h.called id
  · intro fd timerFd hopen
    show (node.id :: timers.calls).count _ + 0 + _ <= timers.expirations.count _
    rw [htoken]
    exact h.unread fd timerFd hopen

theorem counted_timerThread (h : Counted timers)
    (hthread : timers.timerThread = some timers') : Counted timers' := by
  cases threadStep_of_timerThread hthread with
  | collect hphase => exact h.moved id
  | poll hphase => exact h.moved id
  | again hphase => exact h.moved id
  | skip hphase hclosed => exact h.moved id
  | read hphase hopen hexpired =>
      refine counted_read h _ ?_ hopen hexpired
      rw [hphase]
      exact id
  | unlisted hphase hnone => exact h.moved id
  | found hphase hfound => exact counted_lookup h hphase hfound
  | call hphase => exact counted_call h hphase

theorem counted_of_step (h : Counted timers) (hstep : UndisturbedStep timers event timers') :
    Counted timers' := by
  rcases hstep with ⟨hstep, hundisturbed⟩
  cases hstep with
  | start hclosed => exact counted_startTimer h hclosed _
  | stop hlisted => exact counted_stopTimer h hlisted (hundisturbed _ rfl)
  | expire hopen harmed => exact counted_expire h hopen
  | thread hthread => exact counted_timerThread h hthread

/-!
## Timers that fire once
-/

/-- A single-shot timer expires at most once. -/
structure Single (timers : Timers) : Prop where
  fresh : forall id, timers.types.length <= id -> timers.expirations.count id = 0
  once : forall id, timers.types[id]? = some .singleShot ->
    timers.expirations.count id <= 1
  disarmed : forall fd timerFd, timers.fds fd = some timerFd ->
    timers.types[timerFd.owner]? = some .singleShot ->
      timerFd.interval = false ∧
        (timerFd.armed = true -> timers.expirations.count timerFd.owner = 0)

theorem single_initial : Single Timers.initial where
  fresh := fun _ _ => rfl
  once := fun _ htype => by cases htype
  disarmed := fun _ _ hopen => by cases hopen

theorem Kept.owner_lt (h : Kept timers) (hopen : timers.fds fd = some timerFd) :
    timerFd.owner < timers.types.length :=
  h.started _ (h.owned fd timerFd hopen)

theorem single_startTimer (hkept : Kept timers) (h : Single timers) (fd : Nat)
    (type : TTimer) : Single (timers.startTimer fd type) := by
  have htypes : (timers.startTimer fd type).types = timers.types ++ [type] := rfl
  refine { fresh := fun id hle => ?_, once := fun id htype => ?_, disarmed := ?_ }
  · rw [htypes, List.length_append] at hle
    exact h.fresh id (Nat.le_trans (Nat.le_add_right _ _) hle)
  · rcases Nat.lt_or_ge id timers.types.length with hlt | hge
    · rw [htypes, List.getElem?_append_left hlt] at htype
      exact h.once id htype
    · exact Nat.le_trans (Nat.le_of_eq (h.fresh id hge)) (Nat.zero_le 1)
  · intro fd' timerFd hopen htype
    by_cases hfd : fd' = fd
    · rw [hfd, fds_startTimer, Function.update_self] at hopen
      cases hopen
      refine ⟨?_, fun _ => h.fresh _ (Nat.le_refl _)⟩
      have hsingle : type = .singleShot := by
        rw [htypes] at htype
        simpa [Timers.newFd] using htype
      rw [hsingle]
      rfl
    · rw [fds_startTimer, Function.update_of_ne hfd] at hopen
      rw [htypes, List.getElem?_append_left (hkept.owner_lt hopen)] at htype
      exact h.disarmed fd' timerFd hopen htype

theorem single_stopTimer (h : Single timers) (node : TimerNode) :
    Single (timers.stopTimer node) where
  fresh := h.fresh
  once := h.once
  disarmed := by
    intro fd timerFd hopen
    by_cases hfd : fd = node.fd
    · rw [hfd, fds_stopTimer, Function.update_self] at hopen
      cases hopen
    · rw [fds_stopTimer, Function.update_of_ne hfd] at hopen
      exact h.disarmed fd timerFd hopen

theorem single_expire (hkept : Kept timers) (h : Single timers)
    (hopen : timers.fds fd = some timerFd) (harmed : timerFd.armed = true) :
    Single (timers.expire fd timerFd) := by
  have hcount : forall id, (timers.expire fd timerFd).expirations.count id =
      timers.expirations.count id + if timerFd.owner = id then 1 else 0 := by
    intro id
    show (timerFd.owner :: timers.expirations).count id = _
    rw [List.count_cons]
    simp
  refine { fresh := fun id hle => ?_, once := fun id htype => ?_, disarmed := ?_ }
  · have hne : timerFd.owner ≠ id := Nat.ne_of_lt (Nat.lt_of_lt_of_le (hkept.owner_lt hopen) hle)
    rw [hcount, if_neg hne, h.fresh id hle]
  · rw [hcount]
    by_cases hid : timerFd.owner = id
    · subst hid
      have hnone := (h.disarmed fd timerFd hopen htype).2 harmed
      rw [if_pos rfl]
      omega
    · rw [if_neg hid]
      exact h.once id htype
  · intro fd' timerFd' hopen' htype
    by_cases hfd : fd' = fd
    · rw [hfd, fds_expire, Function.update_self] at hopen'
      cases hopen'
      have hinterval := (h.disarmed fd timerFd hopen htype).1
      refine ⟨hinterval, fun harmed' => ?_⟩
      have hoff : timerFd.interval = true := harmed'
      rw [hinterval] at hoff
      cases hoff
    · rw [fds_expire, Function.update_of_ne hfd] at hopen'
      have hne : timerFd.owner ≠ timerFd'.owner := fun hsame =>
        hfd (hkept.fd_of_owner hopen hopen' hsame).symm
      rw [hcount, if_neg hne]
      exact h.disarmed fd' timerFd' hopen' htype

/-- Only reading touches a descriptor, and leaves its timer as it is. -/
theorem single_of_threadStep (h : Single timers) (hstep : ThreadStep timers timers') :
    Single timers' := by
  cases hstep with
  | collect | poll | again | skip | unlisted | found | call =>
      exact ⟨h.fresh, h.once, h.disarmed⟩
  | read hphase hopen hexpired =>
      rename_i fd ufds timerFd
      refine ⟨h.fresh, h.once, fun fd' timerFd' hopen' htype => ?_⟩
      by_cases hfd : fd' = fd
      · rw [hfd, fds_read, Function.update_self] at hopen'
        cases hopen'
        exact h.disarmed fd timerFd hopen htype
      · rw [fds_read, Function.update_of_ne hfd] at hopen'
        exact h.disarmed fd' timerFd' hopen' htype

theorem single_of_step (hkept : Kept timers) (h : Single timers)
    (hstep : TimerStep timers event timers') : Single timers' := by
  cases hstep with
  | start hclosed => exact single_startTimer hkept h _ _
  | stop hlisted => exact single_stopTimer h _
  | expire hopen harmed => exact single_expire hkept h hopen harmed
  | thread hthread => exact single_of_threadStep h (threadStep_of_timerThread hthread)

/-- However timers are started and stopped while the thread goes its rounds, none is
called back more often than it has expired, one that fires once at most once, and
none that has been stopped. -/
theorem called_of_run {events : List TimerEvent}
    (hrun : Runs UndisturbedStep Timers.initial events timers) :
    (forall id, timers.calls.count id <= timers.expirations.count id) ∧
    (forall id, timers.types[id]? = some .singleShot -> timers.calls.count id <= 1) ∧
    (forall node ufds, timers.thread = .calling node ufds -> node ∈ timers.head) := by
  have hend := hrun.invariant (fun timers => Counted timers ∧ Single timers)
    (fun s event s' h hstep => ⟨counted_of_step h.1 hstep,
      single_of_step h.1.kept h.2 hstep.1⟩)
    ⟨counted_initial, single_initial⟩
  have hcalls : forall id, timers.calls.count id <= timers.expirations.count id := fun id =>
    Nat.le_trans (Nat.le_add_right _ _) (hend.1.called id)
  exact ⟨hcalls, fun id htype => Nat.le_trans (hcalls id) (hend.2.once id htype),
    hend.1.calling⟩

def Timers.expiredOne : Timers :=
  (Timers.initial.startTimer 5 .singleShot).expire 5 (Timers.initial.newFd .singleShot)

theorem undisturbedStep_thread (h : timers.timerThread = some timers') :
    UndisturbedStep timers .thread timers' :=
  ⟨.thread h, fun _ hstop => by cases hstop⟩

theorem runs_expiredOne :
    Runs UndisturbedStep Timers.initial [.start 5 .singleShot, .expire 5, .thread]
      { Timers.expiredOne with thread := .polling [5] } := by
  have hexpire : TimerStep (Timers.initial.startTimer 5 .singleShot) (.expire 5)
      Timers.expiredOne := .expire rfl rfl
  refine .cons ⟨.start rfl, fun _ hstop => by cases hstop⟩ ?_
  refine .cons ⟨hexpire, fun _ hstop => by cases hstop⟩ ?_
  exact .cons (undisturbedStep_thread rfl) (.nil _)

/-- The thread is about to call back for the only timer. -/
theorem called_of_run_one : exists events timers,
    Runs UndisturbedStep Timers.initial events timers ∧
      timers.thread = .calling { id := 0, fd := 5 } [] ∧
      timers.calls.count 0 <= timers.expirations.count 0 ∧ timers.calls.count 0 <= 1 ∧
      { id := 0, fd := 5 } ∈ timers.head := by
  have hrun := runs_expiredOne.append (.cons (undisturbedStep_thread rfl)
    (.cons (undisturbedStep_thread rfl) (.cons (undisturbedStep_thread rfl) (.nil _))))
  rcases called_of_run hrun with ⟨hcalls, honce, hlisted⟩
  exact ⟨_, _, hrun, rfl, hcalls 0, honce 0 rfl, hlisted _ _ rfl⟩

/-!
## Rounds
-/

/-- The entries of `ufds` the thread has still to look at. -/
def TimerThread.remaining : TimerThread -> List (Nat × Bool)
  | collecting | polling _ => []
  | looking ufds | expired _ ufds | calling _ ufds => ufds

def TimerThread.polled : TimerThread -> List Nat
  | polling fds => fds
  | _ => []

/-- The descriptors are looked at once each, and those to be read can be read. -/
structure Ready (timers : Timers) : Prop where
  polled : timers.thread.polled.Nodup
  once : (timers.thread.remaining.map Prod.fst).Nodup
  readable : forall fd, (fd, true) ∈ timers.thread.remaining ->
    exists timerFd, timers.fds fd = some timerFd ∧ timerFd.expirations ≠ 0

/-- A timer that has expired is to be called back in this round, or has been. -/
inductive Due (node : TimerNode) (calls : Nat) (timers : Timers) : Prop where
  | polled {timerFd : TimerFd} (hmem : node.fd ∈ timers.thread.polled)
      (hopen : timers.fds node.fd = some timerFd) (hexpired : timerFd.expirations ≠ 0)
  | remaining (hmem : (node.fd, true) ∈ timers.thread.remaining)
  | expired {ufds : List (Nat × Bool)} (hphase : timers.thread = .expired node.fd ufds)
  | calling {ufds : List (Nat × Bool)} (hphase : timers.thread = .calling node ufds)
  | called (hcalls : calls < timers.calls.count node.id)

/-- A step that stops no timer. -/
def KeepingStep (timers : Timers) (event : TimerEvent) (timers' : Timers) : Prop :=
  TimerStep timers event timers' ∧ forall node, event ≠ .stop node

theorem ready_startTimer (h : Ready timers) (hclosed : timers.fds fd = none)
    (type : TTimer) : Ready (timers.startTimer fd type) where
  polled := h.polled
  once := h.once
  readable := by
    intro fd' hmem
    rcases h.readable fd' hmem with ⟨timerFd, hopen, hexpired⟩
    have hfd : fd' ≠ fd := by
      rintro rfl
      rw [hclosed] at hopen
      cases hopen
    refine ⟨timerFd, ?_, hexpired⟩
    rw [fds_startTimer, Function.update_of_ne hfd]
    exact hopen

theorem ready_expire (h : Ready timers) (hopen : timers.fds fd = some timerFd) :
    Ready (timers.expire fd timerFd) where
  polled := h.polled
  once := h.once
  readable := by
    intro fd' hmem
    by_cases hfd : fd' = fd
    · subst hfd
      exact ⟨timerFd.expire, Function.update_self _ _ _, Nat.succ_ne_zero _⟩
    · rcases h.readable fd' hmem with ⟨timerFd', hopen', hexpired⟩
      refine ⟨timerFd', ?_, hexpired⟩
      rw [fds_expire, Function.update_of_ne hfd]
      exact hopen'

theorem readable_iff :
    timers.readable fd = true <->
      exists timerFd, timers.fds fd = some timerFd ∧ timerFd.expirations ≠ 0 := by
  unfold Timers.readable
  rw [Option.any_eq_true]
  simp [Nat.pos_iff_ne_zero]

theorem Ready.same (h : Ready timers) {thread : TimerThread} {calls : List Nat}
    (hremaining : timers.thread.remaining = thread.remaining)
    (hpolled : thread.polled = []) :
    Ready { timers with thread, calls } where
  polled := by
    show thread.polled.Nodup
    rw [hpolled]
    exact List.nodup_nil
  once := by
    show (thread.remaining.map Prod.fst).Nodup
    rw [← hremaining]
    exact h.once
  readable := by
    show forall fd, (fd, true) ∈ thread.remaining -> _
    rw [← hremaining]
    exact h.readable

theorem ready_of_threadStep (hkept : Kept timers) (h : Ready timers)
    (hstep : ThreadStep timers timers') : Ready timers' := by
  cases hstep with
  | collect hphase =>
      exact ⟨hkept.nodup_fds, List.nodup_nil, fun _ hmem => by cases hmem⟩
  | poll hphase =>
      rename_i fds
      have hfds : fds.Nodup := by
        have hpolled := h.polled
        rw [hphase] at hpolled
        exact hpolled
      refine ⟨List.nodup_nil, ?_, fun fd hmem => ?_⟩
      · show ((fds.map fun fd => (fd, timers.readable fd)).map Prod.fst).Nodup
        rw [List.map_map]
        simpa [Function.comp_def] using hfds
      · rcases List.mem_map.mp hmem with ⟨fd', _, heq⟩
        rcases Prod.mk.inj heq with ⟨rfl, hready⟩
        exact readable_iff.mp hready
  | again hphase => exact ⟨List.nodup_nil, List.nodup_nil, fun _ hmem => by cases hmem⟩
  | skip hphase hclosed =>
      have hremaining : timers.thread.remaining = _ :=
        congrArg TimerThread.remaining hphase
      have honce := h.once
      rw [hremaining] at honce
      refine ⟨List.nodup_nil, (List.nodup_cons.mp honce).2, fun fd hmem => ?_⟩
      refine h.readable fd ?_
      rw [hremaining]
      exact List.mem_cons_of_mem _ hmem
  | read hphase hopen hexpired =>
      rename_i fd ufds timerFd
      have hremaining : timers.thread.remaining = (fd, true) :: ufds :=
        congrArg TimerThread.remaining hphase
      have honce := h.once
      rw [hremaining] at honce
      refine ⟨List.nodup_nil, (List.nodup_cons.mp honce).2, fun fd' hmem => ?_⟩
      have hlater : (fd', true) ∈ ufds := hmem
      have hfd : fd' ≠ fd := by
        rintro rfl
        exact (List.nodup_cons.mp honce).1 (List.mem_map_of_mem hlater)
      rw [fds_read, Function.update_of_ne hfd]
      refine h.readable fd' ?_
      rw [hremaining]
      exact List.mem_cons_of_mem _ hlater
  | unlisted hphase hnone => exact h.same (by rw [hphase]; rfl) rfl
  | found hphase hfound => exact h.same (by rw [hphase]; rfl) rfl
  | call hphase => exact h.same (by rw [hphase]; rfl) rfl

/-- The thread is stuck nowhere in its round. -/
theorem Ready.timerThread_ne_none (h : Ready timers)
    (hphase : timers.thread ≠ .collecting) : timers.timerThread ≠ none := by
  unfold Timers.timerThread
  cases hthread : timers.thread with
  | collecting => exact absurd hthread hphase
  | polling fds => simp
  | expired fd ufds =>
      cases hfound : timers.getTimerFromFd fd with
      | none => simp [hfound]
      | some node => simp [hfound]
  | calling node ufds => simp
  | looking ufds =>
      cases ufds with
      | nil => simp
      | cons entry rest =>
          rcases entry with ⟨fd, ready⟩
          cases ready with
          | false => simp
          | true =>
              have hmem : (fd, true) ∈ timers.thread.remaining := by
                rw [hthread]
                exact List.mem_cons_self
              rcases h.readable fd hmem with ⟨timerFd, hopen, hexpired⟩
              simp [hopen, hexpired]

theorem polled_of_step (h : Counted timers) (hpolled : timers.thread.polled.Nodup)
    (hstep : TimerStep timers event timers') : timers'.thread.polled.Nodup := by
  cases hstep with
  | start hclosed => exact hpolled
  | stop hlisted => exact hpolled
  | expire hopen harmed => exact hpolled
  | thread hthread =>
      cases threadStep_of_timerThread hthread with
      | collect => exact h.kept.nodup_fds
      | poll | again | skip | read | unlisted | found | call => exact List.nodup_nil

/-- What holds of an expired timer from the poll on. -/
structure Round (node : TimerNode) (calls : Nat) (timers : Timers) : Prop where
  counted : Counted timers
  ready : Ready timers
  listed : node ∈ timers.head
  least : calls <= timers.calls.count node.id
  due : Due node calls timers

theorem due_startTimer {calls : Nat} (h : Due node calls timers)
    (hclosed : timers.fds fd = none) (type : TTimer) :
    Due node calls (timers.startTimer fd type) := by
  cases h with
  | polled hmem hopen hexpired =>
      have hfd : node.fd ≠ fd := by
        rintro rfl
        rw [hclosed] at hopen
        cases hopen
      refine .polled hmem ?_ hexpired
      rw [fds_startTimer, Function.update_of_ne hfd]
      exact hopen
  | remaining hmem => exact .remaining hmem
  | expired hphase => exact .expired hphase
  | calling hphase => exact .calling hphase
  | called hcalls => exact .called hcalls

theorem due_expire {calls : Nat} (h : Due node calls timers) (fd : Nat)
    (timerFd : TimerFd) : Due node calls (timers.expire fd timerFd) := by
  cases h with
  | polled hmem hopen hexpired =>
      by_cases hfd : node.fd = fd
      · have hnew : (timers.expire fd timerFd).fds node.fd = some timerFd.expire := by
          rw [fds_expire, hfd, Function.update_self]
        exact .polled hmem hnew (Nat.succ_ne_zero _)
      · refine .polled hmem ?_ hexpired
        rw [fds_expire, Function.update_of_ne hfd]
        exact hopen
  | remaining hmem => exact .remaining hmem
  | expired hphase => exact .expired hphase
  | calling hphase => exact .calling hphase
  | called hcalls => exact .called hcalls

/-- What is due is due to be looked at, unless the thread is at it already. -/
theorem Due.cases_of_polled {calls : Nat} (h : Due node calls timers)
    (hpolled : timers.thread.polled = []) :
    (node.fd, true) ∈ timers.thread.remaining ∨
      (exists ufds, timers.thread = .expired node.fd ufds) ∨
      (exists ufds, timers.thread = .calling node ufds) ∨
      calls < timers.calls.count node.id := by
  cases h with
  | polled hmem hopen hexpired =>
      rw [hpolled] at hmem
      cases hmem
  | remaining hmem => exact Or.inl hmem
  | expired hphase => exact Or.inr (Or.inl ⟨_, hphase⟩)
  | calling hphase => exact Or.inr (Or.inr (Or.inl ⟨_, hphase⟩))
  | called hcalls => exact Or.inr (Or.inr (Or.inr hcalls))

theorem due_of_threadStep {calls : Nat} (h : Round node calls timers)
    (hstep : ThreadStep timers timers') : Due node calls timers' := by
  have hdue : timers.thread.polled = [] -> _ := h.due.cases_of_polled
  cases hstep with
  | collect hphase =>
      rw [hphase] at hdue
      rcases hdue rfl with hmem | ⟨_, hother⟩ | ⟨_, hother⟩ | hcalls
      · cases hmem
      · cases hother
      · cases hother
      · exact .called hcalls
  | again hphase =>
      rw [hphase] at hdue
      rcases hdue rfl with hmem | ⟨_, hother⟩ | ⟨_, hother⟩ | hcalls
      · cases hmem
      · cases hother
      · cases hother
      · exact .called hcalls
  | poll hphase =>
      cases h.due with
      | polled hmem hopen hexpired =>
          rw [hphase] at hmem
          have hready : timers.readable node.fd = true :=
            readable_iff.mpr ⟨_, hopen, hexpired⟩
          refine .remaining (List.mem_map.mpr ⟨node.fd, hmem, ?_⟩)
          rw [hready]
      | remaining hmem =>
          rw [hphase] at hmem
          cases hmem
      | expired hother =>
          rw [hphase] at hother
          cases hother
      | calling hother =>
          rw [hphase] at hother
          cases hother
      | called hcalls => exact .called hcalls
  | skip hphase hclosed =>
      have hreadable := h.ready.readable node.fd
      rw [hphase] at hdue hreadable
      rcases hdue rfl with hmem | ⟨_, hother⟩ | ⟨_, hother⟩ | hcalls
      · rcases List.mem_cons.mp hmem with heq | hlater
        · cases heq
          -- A descriptor that is to be read is open.
          rcases hreadable hmem with ⟨timerFd, hopen, _⟩
          rw [hclosed rfl] at hopen
          cases hopen
        · exact .remaining hlater
      · cases hother
      · cases hother
      · exact .called hcalls
  | read hphase hopen hexpired =>
      rw [hphase] at hdue
      rcases hdue rfl with hmem | ⟨_, hother⟩ | ⟨_, hother⟩ | hcalls
      · rcases List.mem_cons.mp hmem with heq | hlater
        · cases heq
          exact .expired rfl
        · exact .remaining hlater
      · cases hother
      · cases hother
      · exact .called hcalls
  | unlisted hphase hnone =>
      have hserving := h.counted.serving _ _ hphase
      rw [hphase] at hdue
      rcases hdue rfl with hmem | ⟨_, hother⟩ | ⟨_, hother⟩ | hcalls
      · exact .remaining hmem
      · rcases Option.ne_none_iff_exists'.mp hserving with ⟨timerFd, hopen⟩
        rw [h.counted.kept.getTimerFromFd hopen] at hnone
        cases hnone
      · cases hother
      · exact .called hcalls
  | found hphase hfound =>
      rw [hphase] at hdue
      rcases hdue rfl with hmem | ⟨_, hother⟩ | ⟨_, hother⟩ | hcalls
      · exact .remaining hmem
      · cases hother
        have hfd := List.find?_some hfound
        have hsame := h.counted.kept.eq_of_fd (List.mem_of_find?_eq_some hfound) h.listed
          (of_decide_eq_true hfd)
        rw [hsame]
        exact .calling rfl
      · cases hother
      · exact .called hcalls
  | call hphase =>
      rw [hphase] at hdue
      rcases hdue rfl with hmem | ⟨_, hother⟩ | ⟨_, hother⟩ | hcalls
      · exact .remaining hmem
      · cases hother
      · cases hother
        refine .called ?_
        rw [List.count_cons_self]
        exact Nat.lt_succ_of_le h.least
      · refine .called (Nat.lt_of_lt_of_le hcalls ?_)
        exact List.count_le_count_cons

theorem round_of_step {calls : Nat} (h : Round node calls timers)
    (hstep : KeepingStep timers event timers') : Round node calls timers' := by
  have hcounted := counted_of_step h.counted
    ⟨hstep.1, fun node hstop => absurd hstop (hstep.2 node)⟩
  rcases hstep with ⟨hstep, hkeeping⟩
  cases hstep with
  | start hclosed =>
      exact
        { counted := hcounted
          ready := ready_startTimer h.ready hclosed _
          listed := List.mem_cons_of_mem _ h.listed
          least := h.least
          due := due_startTimer h.due hclosed _ }
  | stop hlisted => exact absurd rfl (hkeeping _)
  | expire hopen harmed =>
      exact
        { counted := hcounted
          ready := ready_expire h.ready hopen
          listed := h.listed
          least := h.least
          due := due_expire h.due _ _ }
  | thread hthread =>
      have hstep := threadStep_of_timerThread hthread
      have hready := ready_of_threadStep h.counted.kept h.ready hstep
      have hdue := due_of_threadStep h hstep
      have hkept : node ∈ timers'.head ∧ calls <= timers'.calls.count node.id := by
        cases hstep with
        | collect | poll | again | skip | read | unlisted | found =>
            exact ⟨h.listed, h.least⟩
        | call => exact ⟨h.listed, Nat.le_trans h.least List.count_le_count_cons⟩
      exact
        { counted := hcounted
          ready := hready
          listed := hkept.1
          least := hkept.2
          due := hdue }

end

/-- A timer that has expired when the thread polls is called back before the thread
polls again, and the thread gets there, as long as no timer is stopped. -/
theorem called_of_round {timers timers' : Timers} {events later : List TimerEvent}
    {fds : List Nat} {node : TimerNode} {timerFd : TimerFd}
    (hrun : Runs UndisturbedStep Timers.initial events timers)
    (hphase : timers.thread = .polling fds) (hlisted : node ∈ timers.head)
    (hmem : node.fd ∈ fds) (hopen : timers.fds node.fd = some timerFd)
    (hexpired : timerFd.expirations ≠ 0) (hlater : Runs KeepingStep timers later timers') :
    if timers'.thread = .collecting then
      timers.calls.count node.id < timers'.calls.count node.id
    else timers'.timerThread ≠ none := by
  have hstart := hrun.invariant
    (fun timers => Counted timers ∧ timers.thread.polled.Nodup)
    (fun s event s' h hstep => ⟨counted_of_step h.1 hstep,
      polled_of_step h.1 h.2 hstep.1⟩)
    ⟨counted_initial, List.nodup_nil⟩
  have hremaining : timers.thread.remaining = [] := congrArg TimerThread.remaining hphase
  have hfirst : Round node (timers.calls.count node.id) timers :=
    { counted := hstart.1
      ready :=
        { polled := hstart.2
          once := by
            rw [hremaining]
            exact List.nodup_nil
          readable := fun fd hread => by
            rw [hremaining] at hread
            cases hread }
      listed := hlisted
      least := Nat.le_refl _
      due := .polled (by rw [hphase]; exact hmem) hopen hexpired }
  have hlast := hlater.invariant (Round node (timers.calls.count node.id))
    (fun _ _ _ h hstep => round_of_step h hstep) hfirst
  split
  · rename_i hcollecting
    have hdue := hlast.due.cases_of_polled (by rw [hcollecting]; rfl)
    rw [hcollecting] at hdue
    rcases hdue with hread | ⟨_, hother⟩ | ⟨_, hother⟩ | hcalls
    · cases hread
    · cases hother
    · cases hother
    · exact hcalls
  · rename_i hmidway
    exact hlast.ready.timerThread_ne_none hmidway

theorem keepingStep_thread {timers timers' : Timers}
    (h : timers.timerThread = some timers') : KeepingStep timers .thread timers' :=
  ⟨.thread h, fun _ hstop => by cases hstop⟩

theorem called_of_round_one : exists timers later timers',
    Runs KeepingStep timers later timers' ∧ timers'.thread = .collecting ∧
      timers.calls.count 0 < timers'.calls.count 0 := by
  let polling : Timers := { Timers.expiredOne with thread := .polling [5] }
  have hpoll : KeepingStep polling .thread
      { polling with thread := .looking [(5, true)] } := keepingStep_thread rfl
  have hlater := Runs.cons hpoll (.cons (keepingStep_thread rfl)
    (.cons (keepingStep_thread rfl) (.cons (keepingStep_thread rfl)
      (.cons (keepingStep_thread rfl) (.nil _)))))
  exact ⟨_, _, _, hlater, rfl, called_of_round runs_expiredOne rfl List.mem_cons_self
    List.mem_cons_self rfl (Nat.succ_ne_zero _) hlater⟩

end Utils
end Noc
