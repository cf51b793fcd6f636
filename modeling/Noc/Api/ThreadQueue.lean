import Mathlib.Data.List.Perm.Subperm
import Noc.Utils.Queue

/-!
# The threads of the requests

`mqtt_on_message_cb_handler` starts a thread for each request and pushes it to
`thread_queue`; `thread_garbage` pops one of them and pushes it back unless it
can be joined.  It looks whether the queue is empty before it takes the lock, so
that threads may be pushed in between.
-/

namespace Noc
namespace Api

open Utils

/-- `pthread_t`. -/
abbrev Thread := Nat

/-- What `init` makes room for. -/
def threadQueueCapacity : Nat := 1000

/-- The queue, whether a call of `thread_garbage` found it filled and has not
popped yet, and the threads started and joined so far. -/
structure Threads where
  queue : Queue Thread
  filled : Bool
  started : List Thread
  joined : List Thread

inductive Event where
  /-- A request arrives, and its thread is pushed. -/
  | started (thread : Thread)
  /-- `thread_garbage` is called and looks at the queue. -/
  | called
  /-- It takes the lock; `pthread_tryjoin_np` joins the threads that are over. -/
  | locked (ended : Thread -> Bool)

def Event.thread? : Event -> Option Thread
  | .started thread => some thread
  | _ => none

namespace Threads

def start (threads : Threads) (thread : Thread) : Option Threads := do
  let (_, queue) <- qPush threads.queue thread
  return { threads with queue := queue, started := threads.started ++ [thread] }

/-- There is no result when nothing is popped: the thread to join would not be
initialised. -/
def collect (threads : Threads) (ended : Thread -> Bool) : Option Threads := do
  match <- qPop threads.queue with
  | (none, _) => none
  | (some thread, queue) =>
      if ended thread = true then
        return { threads with
          queue := queue, filled := false, joined := threads.joined ++ [thread] }
      else
        let (_, queue) <- qPush queue thread
        return { threads with queue := queue, filled := false }

def step (threads : Threads) : Event -> Option Threads
  | .started thread => threads.start thread
  | .called => some { threads with filled := !qIsEmpty threads.queue }
  | .locked ended =>
      if threads.filled = true then threads.collect ended else some threads

def run : Threads -> List Event -> Option Threads
  | threads, [] => some threads
  | threads, event :: events => do (<- threads.step event).run events

end Threads

/-- The queue of `init`, in slots that may hold anything. -/
def initThreads (slots : List Thread) : Threads where
  queue := qInit slots threadQueueCapacity .fifo true
  filled := false
  started := []
  joined := []

/-!
## What the queue holds
-/

/-- The queue holds these threads, oldest first. -/
structure Keeps (threads : Threads) (held : List Thread) : Prop where
  row : Represents threads.queue
    { impl := .fifo, ovw := true, capacity := threadQueueCapacity, held }
  bounded : held.length <= threadQueueCapacity
  filled : threads.filled = true -> held ≠ []

/-- The threads that are in the queue when one more is pushed. -/
def pushed (held : List Thread) (thread : Thread) : List Thread :=
  if held.length < threadQueueCapacity then held ++ [thread]
  else held.tail ++ [thread]

section

variable {threads threads' : Threads} {held : List Thread} {thread : Thread}
variable {events : List Event} {ended : Thread -> Bool}

theorem length_pushed (hbounded : held.length <= threadQueueCapacity)
    (thread : Thread) : (pushed held thread).length <= threadQueueCapacity := by
  unfold pushed
  split
  · rw [List.length_append, List.length_singleton]
    omega
  · rw [List.length_append, List.length_tail, List.length_singleton]
    unfold threadQueueCapacity at *
    omega

theorem pushed_ne_nil (held : List Thread) (thread : Thread) :
    pushed held thread ≠ [] := by
  unfold pushed
  split <;> simp

theorem keeps_initThreads {slots : List Thread}
    (hslots : slots.length = threadQueueCapacity) : Keeps (initThreads slots) [] where
  row := represents_qInit (by decide) hslots .fifo true
  bounded := Nat.zero_le _
  filled := fun hfilled => by cases hfilled

theorem represents_pushed {queue : Queue Thread}
    (h : Represents queue
      { impl := .fifo, ovw := true, capacity := threadQueueCapacity, held })
    (thread : Thread) :
    exists queue', qPush queue thread = some (true, queue') ∧
      Represents queue'
        { impl := .fifo, ovw := true, capacity := threadQueueCapacity
          held := pushed held thread } := by
  rcases represents_qPush h thread with ⟨queue', hrun, hnext⟩
  unfold Row.push at hrun hnext
  unfold pushed
  by_cases hroom : held.length < threadQueueCapacity
  · rw [if_pos hroom] at hrun hnext ⊢
    exact ⟨queue', hrun, hnext⟩
  · rw [if_neg hroom] at hrun hnext ⊢
    exact ⟨queue', hrun, hnext⟩

theorem Keeps.start (h : Keeps threads held) (thread : Thread) :
    exists threads', threads.start thread = some threads' ∧
      Keeps threads' (pushed held thread) ∧
      threads'.started = threads.started ++ [thread] ∧
      threads'.joined = threads.joined ∧ threads'.filled = threads.filled := by
  rcases represents_pushed h.row thread with ⟨queue, hrun, hrow⟩
  exact ⟨{ threads with queue := queue, started := threads.started ++ [thread] },
    by simp [Threads.start, hrun],
    ⟨hrow, length_pushed h.bounded thread, fun _ => pushed_ne_nil held thread⟩,
    rfl, rfl, rfl⟩

theorem Keeps.call (h : Keeps threads held) :
    Keeps { threads with filled := !qIsEmpty threads.queue } held where
  row := h.row
  bounded := h.bounded
  filled := fun hfilled hempty => by
    rw [show (!qIsEmpty threads.queue) = false by
      rw [(qIsEmpty_iff h.row).mpr hempty]
      rfl] at hfilled
    cases hfilled

/-- The oldest thread is joined or becomes the newest one. -/
theorem Keeps.collect {oldest : Thread} {rest : List Thread}
    (h : Keeps threads (oldest :: rest)) (ended : Thread -> Bool) :
    exists threads', threads.collect ended = some threads' ∧
      Keeps threads' (if ended oldest = true then rest else rest ++ [oldest]) ∧
      threads'.started = threads.started ∧
      threads'.joined =
        threads.joined ++ if ended oldest = true then [oldest] else [] := by
  rcases represents_qPop h.row with ⟨queue, hpop, hrow⟩
  have hbounded := h.bounded
  rw [List.length_cons] at hbounded
  have hpopped : qPop threads.queue = some (some oldest, queue) := hpop
  have hrest : Represents queue
      { impl := .fifo, ovw := true, capacity := threadQueueCapacity, held := rest } :=
    hrow
  by_cases hover : ended oldest = true
  · refine ⟨{ threads with
      queue := queue, filled := false, joined := threads.joined ++ [oldest] },
      ?_, ?_, rfl, ?_⟩
    · simp [Threads.collect, hpopped, hover]
    · rw [if_pos hover]
      exact ⟨hrest, by omega, fun hfilled => by cases hfilled⟩
    · rw [if_pos hover]
  · rcases represents_pushed hrest oldest with ⟨queue', hpush, hrow'⟩
    have hpushed : pushed rest oldest = rest ++ [oldest] :=
      if_pos hbounded
    rw [hpushed] at hrow'
    refine ⟨{ threads with queue := queue', filled := false }, ?_, ?_, rfl, ?_⟩
    · simp [Threads.collect, hpopped, hover, hpush]
    · rw [if_neg hover]
      refine ⟨hrow', ?_, fun hfilled => by cases hfilled⟩
      rw [List.length_append, List.length_singleton]
      exact hbounded
    · rw [if_neg hover, List.append_nil]

/-!
## No thread is lost
-/

/-- Each thread started is joined, in the queue or lost, and only once. -/
def Accounted (threads : Threads) (held lost : List Thread) : Prop :=
  (threads.joined ++ held ++ lost).Perm threads.started

/-- Fewer threads are unjoined than the queue has room for. -/
def Threads.Unfull (threads : Threads) : Prop :=
  threads.started.length < threads.joined.length + threadQueueCapacity

/-- Whenever a thread is started, there is room in the queue. -/
def Roomy : Threads -> List Event -> Prop
  | _, [] => True
  | threads, event :: events =>
      (forall thread, event = .started thread -> threads.Unfull) ∧
        forall threads', threads.step event = some threads' -> Roomy threads' events

theorem Accounted.length_held_lt (h : Accounted threads held [])
    (hroom : threads.Unfull) : held.length < threadQueueCapacity := by
  have hlength := h.length_eq
  rw [List.append_nil, List.length_append] at hlength
  unfold Threads.Unfull at hroom
  omega

/-- A thread that is pushed to a full queue drives the oldest one out. -/
theorem exists_lost (held lost : List Thread) (thread : Thread) :
    exists lost', (pushed held thread ++ lost').Perm (held ++ lost ++ [thread]) ∧
      (held.length < threadQueueCapacity -> lost' = lost) := by
  unfold pushed
  by_cases hroom : held.length < threadQueueCapacity
  · refine ⟨lost, ?_, fun _ => rfl⟩
    rw [if_pos hroom, List.append_assoc, List.append_assoc]
    exact List.perm_append_comm.append_left held
  · rw [if_neg hroom]
    refine ⟨held.head?.toList ++ lost, ?_, fun hlt => absurd hlt hroom⟩
    have hsplit : held = held.head?.toList ++ held.tail := by
      cases held <;> rfl
    have hmoved : (held.tail ++ [thread] ++ (held.head?.toList ++ lost)).Perm
        (held.head?.toList ++ held.tail ++ lost ++ [thread]) := by
      refine (List.perm_iff_count.mpr ?_)
      intro value
      simp only [List.count_append]
      omega
    rwa [← hsplit] at hmoved

theorem Accounted.collected {oldest : Thread} {rest lost : List Thread}
    (h : Accounted threads (oldest :: rest) lost)
    (hstarted : threads'.started = threads.started)
    (hjoined : threads'.joined =
      threads.joined ++ if ended oldest = true then [oldest] else []) :
    Accounted threads' (if ended oldest = true then rest else rest ++ [oldest]) lost := by
  unfold Accounted at h ⊢
  rw [hstarted, hjoined]
  refine List.Perm.trans ?_ h
  refine List.Perm.append_right lost ?_
  by_cases hover : ended oldest = true
  · rw [if_pos hover, if_pos hover, List.append_assoc]
    exact List.Perm.refl _
  · rw [if_neg hover, if_neg hover, List.append_nil]
    exact (List.perm_append_singleton oldest rest).append_left _

/-- What one event does, whatever happened before. -/
theorem Keeps.step (h : Keeps threads held) (event : Event) :
    exists threads' held', threads.step event = some threads' ∧
      Keeps threads' held' ∧
      threads'.started = threads.started ++ event.thread?.toList ∧
      threads.joined <+: threads'.joined ∧
      forall lost, Accounted threads held lost ->
        exists lost', Accounted threads' held' lost' ∧
          ((forall thread, event = .started thread ->
            held.length < threadQueueCapacity) -> lost' = lost) := by
  cases event with
  | started thread =>
      rcases h.start thread with ⟨threads', hrun, hkeeps, hstarted, hjoined, _⟩
      refine ⟨threads', pushed held thread, hrun, hkeeps, hstarted,
        ⟨[], by simp [hjoined]⟩, ?_⟩
      intro lost haccounted
      rcases exists_lost held lost thread with ⟨lost', hperm, hkept⟩
      refine ⟨lost', ?_, fun hroom => hkept (hroom thread rfl)⟩
      unfold Accounted at haccounted ⊢
      rw [hjoined, hstarted, List.append_assoc]
      rw [List.append_assoc] at haccounted
      have hmore := haccounted.append_right [thread]
      rw [List.append_assoc] at hmore
      exact (hperm.append_left threads.joined).trans hmore
  | called =>
      exact ⟨_, held, rfl, h.call, (List.append_nil _).symm, ⟨[], by simp⟩,
        fun lost haccounted => ⟨lost, haccounted, fun _ => rfl⟩⟩
  | locked ended =>
      by_cases hfilled : threads.filled = true
      · cases held with
        | nil => exact absurd rfl (h.filled hfilled)
        | cons oldest rest =>
            rcases h.collect ended with ⟨threads', hrun, hkeeps, hstarted, hjoined⟩
            refine ⟨threads', _, by simp [Threads.step, hfilled, hrun], hkeeps,
              hstarted.trans (List.append_nil _).symm, ⟨_, hjoined.symm⟩, ?_⟩
            exact fun lost haccounted =>
              ⟨lost, haccounted.collected hstarted hjoined, fun _ => rfl⟩
      · exact ⟨threads, held, by simp [Threads.step, hfilled], h,
          (List.append_nil _).symm, ⟨[], by simp⟩,
          fun lost haccounted => ⟨lost, haccounted, fun _ => rfl⟩⟩

theorem Keeps.run (h : Keeps threads held) (events : List Event) :
    exists threads' held', threads.run events = some threads' ∧
      Keeps threads' held' ∧
      threads'.started = threads.started ++ events.filterMap Event.thread? ∧
      threads.joined <+: threads'.joined ∧
      forall lost, Accounted threads held lost ->
        exists lost', Accounted threads' held' lost' ∧
          (lost = [] -> Roomy threads events -> lost' = []) := by
  induction events generalizing threads held with
  | nil =>
      exact ⟨threads, held, rfl, h, (List.append_nil _).symm, ⟨[], by simp⟩,
        fun lost haccounted => ⟨lost, haccounted, fun hnone _ => hnone⟩⟩
  | cons event rest ih =>
      rcases h.step event with
        ⟨middle, between, hstep, hkeeps, hstarted, hjoined, hfirst⟩
      rcases ih hkeeps with
        ⟨threads', held', hrun, hlast, hstarted', hjoined', hlater⟩
      refine ⟨threads', held', by simp [Threads.run, hstep, hrun], hlast, ?_,
        hjoined.trans hjoined', ?_⟩
      · rw [hstarted', hstarted, List.append_assoc]
        cases hthread : event.thread? with
        | none => rw [List.filterMap_cons_none hthread]; rfl
        | some thread => rw [List.filterMap_cons_some hthread]; rfl
      intro lost haccounted
      rcases hfirst lost haccounted with ⟨lost', haccounted', hkept⟩
      rcases hlater lost' haccounted' with ⟨lost'', haccounted'', hkept'⟩
      refine ⟨lost'', haccounted'', ?_⟩
      rintro rfl hroomy
      exact hkept' (hkept fun thread heq =>
        haccounted.length_held_lt (hroomy.1 thread heq)) (hroomy.2 middle hstep)

/-- However requests arrive and `thread_garbage` is called, no slot outside of the
queue is touched and no thread is joined that was not pushed.  Every thread is
joined, in the queue or driven out of it, and only once; and none is driven out
when there is room whenever a thread is started. -/
theorem run_initThreads {slots : List Thread}
    (hslots : slots.length = threadQueueCapacity) (events : List Event) :
    exists threads held lost, (initThreads slots).run events = some threads ∧
      Keeps threads held ∧
      (threads.joined ++ held ++ lost).Perm (events.filterMap Event.thread?) ∧
      (Roomy (initThreads slots) events -> lost = []) := by
  rcases (keeps_initThreads hslots).run events with
    ⟨threads, held, hrun, hkeeps, hstarted, _, hall⟩
  rcases hall [] (List.Perm.refl []) with ⟨lost, haccounted, hkept⟩
  refine ⟨threads, held, lost, hrun, hkeeps, ?_, hkept rfl⟩
  rw [Accounted, hstarted] at haccounted
  exact haccounted

theorem run_initThreads_two :
    exists threads held lost, (initThreads (List.replicate 1000 0)).run
        [.started 1, .called, .started 2, .locked fun thread => thread == 1] =
          some threads ∧
      (threads.joined ++ held ++ lost).Perm [1, 2] := by
  have hslots : (List.replicate 1000 (0 : Thread)).length = threadQueueCapacity :=
    List.length_replicate
  rcases run_initThreads hslots
    [.started 1, .called, .started 2, .locked fun thread => thread == 1] with
      ⟨threads, held, lost, hrun, _, hperm, _⟩
  exact ⟨threads, held, lost, hrun, hperm⟩

/-!
## Threads that are over are joined
-/

/-- So many calls of `thread_garbage`, and requests that arrive between them and
within them. -/
inductive Calls : Nat -> List Event -> Prop where
  | none : Calls 0 []
  | started {count : Nat} {events : List Event} (thread : Thread)
      (h : Calls count events) : Calls count (.started thread :: events)
  | call {count : Nat} {events : List Event} (meanwhile : List Thread)
      (ended : Thread -> Bool) (h : Calls count events) :
      Calls (count + 1)
        (.called :: (meanwhile.map .started ++ .locked ended :: events))

/-- The thread is over whenever it is looked at. -/
def AlwaysOver (thread : Thread) (events : List Event) : Prop :=
  forall ended, Event.locked ended ∈ events -> ended thread = true

theorem Threads.run_append (threads : Threads) (early late : List Event) :
    threads.run (early ++ late) =
      (threads.run early).bind fun middle => middle.run late := by
  induction early generalizing threads with
  | nil => rfl
  | cons event rest ih =>
      rw [List.cons_append, Threads.run, Threads.run]
      cases threads.step event with
      | none => rfl
      | some middle => exact ih middle

theorem Roomy.append {early late : List Event} (h : Roomy threads (early ++ late))
    (hrun : threads.run early = some threads') : Roomy threads' late := by
  induction early generalizing threads with
  | nil =>
      cases hrun
      exact h
  | cons event rest ih =>
      rw [Threads.run] at hrun
      rcases Option.bind_eq_some_iff.mp hrun with ⟨middle, hstep, hrest⟩
      exact ih (h.2 middle hstep) hrest

theorem Roomy.left {early late : List Event} (h : Roomy threads (early ++ late)) :
    Roomy threads early := by
  induction early generalizing threads with
  | nil => trivial
  | cons event rest ih => exact ⟨h.1, fun middle hstep => ih (h.2 middle hstep)⟩

/-- Threads that are pushed while there is room go behind the others. -/
theorem Keeps.meanwhile (h : Keeps threads held) (haccounted : Accounted threads held [])
    {late : List Event} (meanwhile : List Thread)
    (hroomy : Roomy threads (meanwhile.map .started ++ late)) :
    exists threads', threads.run (meanwhile.map .started) = some threads' ∧
      Keeps threads' (held ++ meanwhile) ∧ Accounted threads' (held ++ meanwhile) [] ∧
      threads'.filled = threads.filled := by
  induction meanwhile generalizing threads held with
  | nil =>
      rw [List.append_nil]
      exact ⟨threads, rfl, h, haccounted, rfl⟩
  | cons thread rest ih =>
      have hroom := haccounted.length_held_lt (hroomy.1 thread rfl)
      have hpushed : pushed held thread = held ++ [thread] := if_pos hroom
      rcases h.start thread with ⟨middle, hstart, hkeeps, hstarted, hjoined, hfilled⟩
      have hmiddle : Accounted middle (held ++ [thread]) [] := by
        unfold Accounted at haccounted ⊢
        rw [hjoined, hstarted]
        rw [List.append_nil] at haccounted ⊢
        rw [← List.append_assoc]
        exact haccounted.append_right [thread]
      rw [hpushed] at hkeeps
      rcases ih hkeeps hmiddle (hroomy.2 middle hstart) with
        ⟨threads', hrun, hlast, haccounted', hfilled'⟩
      rw [List.append_assoc] at hlast haccounted'
      have hstep : threads.step (.started thread) = some middle := hstart
      exact ⟨threads', by simp [Threads.run, hstep, hrun], hlast, haccounted',
        hfilled'.trans hfilled⟩

/-- One call joins the oldest thread if it is over, and else brings every thread
behind it one place forward. -/
theorem Keeps.joins {count index : Nat} (hcalls : Calls count events)
    (h : Keeps threads held) (haccounted : Accounted threads held [])
    (hroomy : Roomy threads events) (hover : AlwaysOver thread events)
    (hindex : index < count) (hheld : held[index]? = some thread) :
    exists threads', threads.run events = some threads' ∧
      thread ∈ threads'.joined := by
  induction hcalls generalizing threads held index with
  | none => exact absurd hindex (Nat.not_lt_zero _)
  | @started count events other _ ih =>
      rcases h.meanwhile haccounted [other] hroomy with
        ⟨middle, hrun, hkeeps, hmiddle, _⟩
      have hroomy' : Roomy middle events := hroomy.2 middle (by
        rw [← hrun]
        cases hstep : threads.step (.started other) <;> simp [Threads.run, hstep])
      have hkept : (held ++ [other])[index]? = some thread := by
        rw [List.getElem?_append_left (List.getElem?_eq_some_iff.mp hheld).1, hheld]
      rcases ih hkeeps hmiddle hroomy'
        (fun ended hmem => hover ended (List.mem_cons_of_mem _ hmem)) hindex hkept with
          ⟨threads', hrest, hjoined⟩
      refine ⟨threads', ?_, hjoined⟩
      have happend := Threads.run_append threads [.started other] events
      rw [show [other].map Event.started = [.started other] from rfl] at hrun
      rw [hrun] at happend
      exact happend.trans hrest
  | @call count events meanwhile ended _ ih =>
      have hne : held ≠ [] := by
        rintro rfl
        cases hheld
      have hcalled := hroomy.2 _ rfl
      have haccounted' : Accounted
          { threads with filled := !qIsEmpty threads.queue } held [] := haccounted
      rcases h.call.meanwhile haccounted' meanwhile hcalled with
        ⟨middle, hrun, hkeeps, hmiddle, hfilled⟩
      have hlocked := hcalled.append hrun
      have hset : middle.filled = true := by
        rw [hfilled]
        show (!qIsEmpty threads.queue) = true
        rw [Bool.not_eq_true', ← Bool.not_eq_true, qIsEmpty_iff h.row]
        exact hne
      cases held with
      | nil => exact absurd rfl hne
      | cons oldest rest =>
          rcases hkeeps.collect ended with
            ⟨later, hcollect, hkeeps', hstarted, hjoined⟩
          have hstep : middle.step (.locked ended) = some later := by
            rw [Threads.step, if_pos hset, hcollect]
          have hevents : threads.run (.called ::
              (meanwhile.map .started ++ .locked ended :: events)) = later.run events := by
            rw [Threads.run]
            show ({ threads with filled := !qIsEmpty threads.queue } : Threads).run
              _ = _
            rw [Threads.run_append, hrun, Option.bind_some, Threads.run, hstep]
            rfl
          rw [hevents]
          cases index with
          | zero =>
              have hsame : oldest = thread := by simpa using hheld
              rcases hkeeps'.run events with ⟨threads', _, hlast, _, _, hstart, _⟩
              refine ⟨threads', hlast, hstart.subset ?_⟩
              rw [hjoined, if_pos (by
                rw [hsame]
                exact hover ended (by simp)), hsame]
              exact List.mem_append_right _ List.mem_cons_self
          | succ index =>
              refine ih hkeeps' (hmiddle.collected hstarted hjoined)
                (hlocked.2 later hstep) (fun other hmem => hover other (by simp [hmem]))
                (Nat.lt_of_succ_lt_succ hindex) ?_
              have hrest : (rest ++ meanwhile)[index]? = some thread := by
                rw [List.getElem?_cons_succ] at hheld
                rw [List.getElem?_append_left (List.getElem?_eq_some_iff.mp hheld).1,
                  hheld]
              by_cases hjoins : ended oldest = true
              · rw [if_pos hjoins]
                exact hrest
              · rw [if_neg hjoins]
                exact (List.getElem?_append_left
                  (List.getElem?_eq_some_iff.mp hrest).1).trans hrest

/-- A thread of the queue that is over is joined when `thread_garbage` was called
as often as there were threads in the queue, whatever arrives in the meantime,
as long as there is room. -/
theorem run_joins {slots : List Thread}
    (hslots : slots.length = threadQueueCapacity) {before after : List Event}
    (hroomy : Roomy (initThreads slots) (before ++ after)) {count : Nat}
    (hcalls : Calls count after) :
    exists threads held, (initThreads slots).run before = some threads ∧
      Keeps threads held ∧
      (threads.joined ++ held).Perm (before.filterMap Event.thread?) ∧
      (held.length <= count -> forall thread, thread ∈ held ->
        AlwaysOver thread after -> exists threads',
          threads.run after = some threads' ∧ thread ∈ threads'.joined) := by
  rcases (keeps_initThreads hslots).run before with
    ⟨threads, held, hrun, hkeeps, hstarted, _, hall⟩
  rcases hall [] (List.Perm.refl []) with ⟨lost, haccounted, hkept⟩
  rw [hkept rfl hroomy.left] at haccounted
  have hperm := haccounted
  rw [Accounted, hstarted, List.append_nil] at hperm
  refine ⟨threads, held, hrun, hkeeps, hperm, ?_⟩
  intro hcount thread hmem hover
  rcases List.mem_iff_getElem?.mp hmem with ⟨index, hindex⟩
  have hlt := (List.getElem?_eq_some_iff.mp hindex).1
  exact hkeeps.joins hcalls haccounted (hroomy.append hrun) hover
    (Nat.lt_of_lt_of_le hlt hcount) hindex

theorem started_of_step {threads threads' : Threads} {event : Event}
    (h : threads.step event = some threads') :
    threads'.started = threads.started ++ event.thread?.toList := by
  cases event with
  | started thread =>
      rcases Option.bind_eq_some_iff.mp h with ⟨pushed, _, hrest⟩
      cases hrest
      rfl
  | called =>
      cases h
      exact (List.append_nil _).symm
  | locked ended =>
      have hsame : threads'.started = threads.started := by
        unfold Threads.step Threads.collect at h
        dsimp only at h
        split at h
        · rcases Option.bind_eq_some_iff.mp h with ⟨popped, _, hrest⟩
          rcases popped with ⟨thread, queue⟩
          cases thread with
          | none => cases hrest
          | some thread =>
              dsimp only at hrest
              split at hrest
              · cases hrest
                rfl
              · rcases Option.bind_eq_some_iff.mp hrest with ⟨pushed, _, hlast⟩
                cases hlast
                rfl
        · cases h
          rfl
      rw [hsame]
      exact (List.append_nil _).symm

/-- There is room for as many threads as the queue has slots. -/
theorem roomy_of_length_le {events : List Event} {threads : Threads}
    (h : threads.started.length + (events.filterMap Event.thread?).length <=
      threadQueueCapacity) : Roomy threads events := by
  induction events generalizing threads with
  | nil => trivial
  | cons event rest ih =>
      rw [List.filterMap_cons] at h
      constructor
      · rintro thread rfl
        change threads.started.length +
          (thread :: rest.filterMap Event.thread?).length <= threadQueueCapacity at h
        rw [List.length_cons] at h
        unfold Threads.Unfull
        omega
      · intro threads' hstep
        apply ih
        rw [started_of_step hstep, List.length_append]
        cases event with
        | started thread =>
            change threads.started.length +
              (thread :: rest.filterMap Event.thread?).length <= threadQueueCapacity at h
            rw [List.length_cons] at h
            show threads.started.length + 1 + _ <= _
            omega
        | called => exact h
        | locked ended => exact h

/-- Two threads in the queue, and two calls between which and within which others
arrive. -/
def twoCalls : List Event :=
  [.started 9, .called, .started 10, .locked fun thread => thread == 7,
   .called, .started 11, .locked fun thread => thread == 7 || thread == 8]

theorem run_joins_two :
    exists threads held, (initThreads (List.replicate 1000 0)).run
        [.started 7, .started 8] = some threads ∧ Keeps threads held ∧
      (held.length <= 2 -> forall thread, thread ∈ held ->
        AlwaysOver thread twoCalls -> exists threads',
          threads.run twoCalls = some threads' ∧ thread ∈ threads'.joined) := by
  have hslots : (List.replicate 1000 (0 : Thread)).length = threadQueueCapacity :=
    List.length_replicate
  have hcalls : Calls 2 twoCalls :=
    Calls.started 9 (Calls.call [10] _ (Calls.call [11] _ Calls.none))
  have hroomy : Roomy (initThreads (List.replicate 1000 0))
      ([.started 7, .started 8] ++ twoCalls) :=
    roomy_of_length_le (by decide)
  rcases run_joins hslots hroomy hcalls with ⟨threads, held, hrun, hkeeps, _, hjoins⟩
  exact ⟨threads, held, hrun, hkeeps, hjoins⟩

end

end Api
end Noc
