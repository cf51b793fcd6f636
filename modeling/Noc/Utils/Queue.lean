import Noc.Foundation.Ring

/-!
# The queue

`utils/queue/queue.c`: records of one size in slots that are used over and over
again, handed out oldest first or newest first.  There is no result when a slot
outside of the queue is read or written.
-/

namespace Noc
namespace Utils

open Foundation.Ring

inductive QueueType where
  | fifo
  | lifo
  deriving DecidableEq

/-- `Queue_t`; `inIdx` and `outIdx` are its `in` and `out`. -/
structure Queue (α : Type) where
  impl : QueueType
  ovw : Bool
  recNb : Nat
  queue : List α
  inIdx : Nat
  outIdx : Nat
  cnt : Nat

variable {α : Type}

def incIdx (pIdx finish start : Nat) : Nat :=
  if pIdx < finish - 1 then pIdx + 1 else start

def decIdx (pIdx finish start : Nat) : Nat :=
  if start < pIdx then pIdx - 1 else finish - 1

def qFlush (q : Queue α) : Queue α :=
  { q with inIdx := 0, outIdx := 0, cnt := 0 }

/-- The slots are what `malloc` returns. -/
def qInit (slots : List α) (nbRecs : Nat) (type : QueueType) (overwrite : Bool) :
    Queue α :=
  qFlush
    { impl := type, ovw := overwrite, recNb := nbRecs, queue := slots
      inIdx := 0, outIdx := 0, cnt := 0 }

def qIsEmpty (q : Queue α) : Bool :=
  q.cnt == 0

def qIsFull (q : Queue α) : Bool :=
  q.cnt == q.recNb

def qGetCount (q : Queue α) : Nat :=
  q.cnt

def qPush (q : Queue α) (record : α) : Option (Bool × Queue α) :=
  if q.ovw = false ∧ qIsFull q = true then some (false, q)
  else if q.inIdx < q.queue.length then
    let q := { q with
      queue := q.queue.set q.inIdx record
      inIdx := incIdx q.inIdx q.recNb 0 }
    if qIsFull q = false then some (true, { q with cnt := q.cnt + 1 })
    else if q.ovw = true then
      match q.impl with
      | .fifo => some (true, { q with outIdx := incIdx q.outIdx q.recNb 0 })
      | .lifo => some (true, q)
    else some (true, q)
  else none

def qPop (q : Queue α) : Option (Option α × Queue α) :=
  if qIsEmpty q = true then some (none, q)
  else
    match q.impl with
    | .fifo => do
        let record <- q.queue[q.outIdx]?
        return (some record,
          { q with outIdx := incIdx q.outIdx q.recNb 0, cnt := q.cnt - 1 })
    | .lifo => do
        let inIdx := decIdx q.inIdx q.recNb 0
        let record <- q.queue[inIdx]?
        return (some record, { q with inIdx := inIdx, cnt := q.cnt - 1 })

def qPeek (q : Queue α) : Option (Option α) :=
  if qIsEmpty q = true then some none
  else
    match q.impl with
    | .fifo => q.queue[q.outIdx]?.map some
    | .lifo => q.queue[decIdx q.inIdx q.recNb 0]?.map some

def qDrop (q : Queue α) : Bool × Queue α :=
  if qIsEmpty q = true then (false, q)
  else
    match q.impl with
    | .fifo =>
        (true, { q with outIdx := incIdx q.outIdx q.recNb 0, cnt := q.cnt - 1 })
    | .lifo =>
        (true, { q with inIdx := decIdx q.inIdx q.recNb 0, cnt := q.cnt - 1 })

def qPeekIdx (q : Queue α) (idx : Nat) : Option (Option α) :=
  if qGetCount q < idx + 1 then some none
  else
    match q.impl with
    | .fifo => q.queue[(q.outIdx + idx) % q.recNb]?.map some
    | .lifo => q.queue[idx]?.map some

/-!
## What a queue is for
-/

/-- A row of records, oldest first, with room for so many. -/
structure Row (α : Type) where
  impl : QueueType
  ovw : Bool
  capacity : Nat
  held : List α

namespace Row

/-- Which record is handed out next. -/
def next (row : Row α) : Option α :=
  match row.impl with
  | .fifo => row.held.head?
  | .lifo => row.held.getLast?

def rest (row : Row α) : List α :=
  match row.impl with
  | .fifo => row.held.tail
  | .lifo => row.held.dropLast

/-- A full row refuses a record, or its oldest one makes room. -/
def push (row : Row α) (record : α) : Bool × Row α :=
  if row.held.length < row.capacity then
    (true, { row with held := row.held ++ [record] })
  else if row.ovw then (true, { row with held := row.held.tail ++ [record] })
  else (false, row)

def pop (row : Row α) : Option α × Row α :=
  (row.next, { row with held := row.rest })

def flush (row : Row α) : Row α :=
  { row with held := [] }

/-- Records at an index are asked for of such rows only: a newest-first one that
overwrites counts its slots, not its records. -/
def Counted (row : Row α) : Prop :=
  row.impl = .lifo -> row.ovw = false

end Row

/-- The slots hold a row, from the one on where its oldest record lies. -/
structure Holds (q : Queue α) (first : Nat) (row : Row α) : Prop where
  impl : row.impl = q.impl
  ovw : row.ovw = q.ovw
  capacity : row.capacity = q.recNb
  slots : q.queue.length = q.recNb
  first_lt : first < q.recNb
  cnt_le : q.cnt <= q.recNb
  held : row.held = window q.queue first q.cnt
  inIdx : q.inIdx = (first + q.cnt) % q.recNb
  outIdx : q.impl = .fifo -> q.outIdx = first
  unmoved : q.impl = .lifo -> q.ovw = false -> first = 0

def Represents (q : Queue α) (row : Row α) : Prop :=
  exists first, Holds q first row

section

variable {q : Queue α} {row : Row α} {first n : Nat} {record : α}

theorem incIdx_eq (h : n < q.recNb) : incIdx n q.recNb 0 = (n + 1) % q.recNb := by
  unfold incIdx
  by_cases hlast : n < q.recNb - 1
  · rw [if_pos hlast, Nat.mod_eq_of_lt (by omega)]
  · have hwrap : n + 1 = q.recNb := by omega
    rw [if_neg hlast, hwrap, Nat.mod_self]

/-- One slot back is where the newest record lies. -/
theorem decIdx_eq (hfirst : first < n) {count : Nat} (hpos : 0 < count)
    (hcount : count <= n) :
    decIdx ((first + count) % n) n 0 = (first + (count - 1)) % n := by
  unfold decIdx
  by_cases hwrap : first + count < n
  · rw [Nat.mod_eq_of_lt hwrap, Nat.mod_eq_of_lt (by omega), if_pos (by omega)]
    omega
  · have hmod : (first + count) % n = first + count - n := by
      rw [Nat.mod_eq_sub_mod (Nat.le_of_not_lt hwrap), Nat.mod_eq_of_lt (by omega)]
    rw [hmod]
    by_cases hzero : 0 < first + count - n
    · have hback : (first + (count - 1)) % n = first + (count - 1) - n := by
        rw [Nat.mod_eq_sub_mod (by omega), Nat.mod_eq_of_lt (by omega)]
      rw [if_pos hzero, hback]
      omega
    · rw [if_neg hzero, Nat.mod_eq_of_lt (by omega)]
      omega

namespace Holds

theorem length_held (h : Holds q first row) : row.held.length = q.cnt := by
  rw [h.held, length_window (by rw [h.slots]; exact h.cnt_le)]

theorem pos (h : Holds q first row) : 0 < q.recNb :=
  Nat.zero_lt_of_lt h.first_lt

theorem held_eq_nil_iff (h : Holds q first row) : row.held = [] <-> q.cnt = 0 := by
  rw [← List.length_eq_zero_iff, h.length_held]

end Holds

theorem represents_qInit {slots : List α} {nbRecs : Nat} (hpos : 0 < nbRecs)
    (hslots : slots.length = nbRecs) (type : QueueType) (overwrite : Bool) :
    Represents (qInit slots nbRecs type overwrite)
      { impl := type, ovw := overwrite, capacity := nbRecs, held := [] } :=
  ⟨0, rfl, rfl, rfl, hslots, hpos, Nat.zero_le _, rfl,
    (Nat.mod_eq_of_lt hpos).symm, fun _ => rfl, fun _ _ => rfl⟩

theorem represents_qFlush (h : Represents q row) :
    Represents (qFlush q) row.flush := by
  rcases h with ⟨first, h⟩
  exact ⟨0, h.impl, h.ovw, h.capacity, h.slots, h.pos, Nat.zero_le _, rfl,
    (Nat.mod_eq_of_lt h.pos).symm, fun _ => rfl, fun _ _ => rfl⟩

theorem qIsEmpty_iff (h : Represents q row) : qIsEmpty q = true <-> row.held = [] := by
  rcases h with ⟨first, h⟩
  rw [h.held_eq_nil_iff, qIsEmpty, beq_iff_eq]

theorem represents_qPush (h : Represents q row) (record : α) :
    exists q', qPush q record = some ((row.push record).1, q') ∧
      Represents q' (row.push record).2 := by
  rcases h with ⟨first, h⟩
  have hlength := h.length_held
  have hslot : q.inIdx < q.queue.length := by
    rw [h.inIdx, h.slots]
    exact Nat.mod_lt _ h.pos
  have hnext : incIdx q.inIdx q.recNb 0 = (first + q.cnt + 1) % q.recNb := by
    rw [incIdx_eq (by rwa [h.slots] at hslot), h.inIdx, Nat.mod_add_mod]
  unfold qPush Row.push
  rw [hlength, h.capacity, h.ovw]
  by_cases hroom : q.cnt < q.recNb
  · have hnot : (q.cnt == q.recNb) = false := beq_false_of_ne (Nat.ne_of_lt hroom)
    refine ⟨{ q with
      queue := q.queue.set q.inIdx record
      inIdx := incIdx q.inIdx q.recNb 0
      cnt := q.cnt + 1 }, ?_, first, ?_⟩
    · simp [qIsFull, hnot, hslot, hroom]
    · rw [if_pos hroom]
      exact
        { h with
          ovw := rfl
          capacity := rfl
          slots := by rw [List.length_set]; exact h.slots
          cnt_le := hroom
          held := by
            show row.held ++ [record] = _
            rw [h.held, h.inIdx, ← h.slots, window_set (by rw [h.slots]; exact hroom)]
          inIdx := by rw [hnext, Nat.add_assoc] }
  · have hfull : q.cnt = q.recNb := Nat.le_antisymm h.cnt_le (Nat.le_of_not_lt hroom)
    rw [if_neg hroom]
    cases hovw : q.ovw with
    | false =>
        refine ⟨q, ?_, first, ?_⟩
        · simp [qIsFull, hfull]
        · exact h
    | true =>
        rw [if_pos rfl]
        have hin : q.inIdx = first := by
          rw [h.inIdx, hfull, Nat.add_mod_right, Nat.mod_eq_of_lt h.first_lt]
        have hshift : (first + 1) % q.recNb < q.recNb := Nat.mod_lt _ h.pos
        have hheld : row.held.tail ++ [record] =
            window (q.queue.set first record) ((first + 1) % q.recNb) q.recNb := by
          rw [h.held, hfull, ← h.slots,
            ← window_set_full (by rw [h.slots]; exact h.first_lt), ← window_mod,
            List.length_set]
        have hwrap : incIdx q.inIdx q.recNb 0 =
            ((first + 1) % q.recNb + q.recNb) % q.recNb := by
          rw [incIdx_eq (by rw [hin]; exact h.first_lt), hin, Nat.add_mod_right,
            Nat.mod_mod]
        cases himpl : q.impl with
        | fifo =>
            refine ⟨{ q with
              queue := q.queue.set q.inIdx record
              inIdx := incIdx q.inIdx q.recNb 0
              outIdx := incIdx q.outIdx q.recNb 0 }, ?_, (first + 1) % q.recNb, ?_⟩
            · simp [qIsFull, hfull, hslot, hovw, himpl]
            · exact
                { impl := h.impl
                  ovw := hovw.symm
                  capacity := rfl
                  slots := by rw [List.length_set]; exact h.slots
                  first_lt := hshift
                  cnt_le := h.cnt_le
                  held := by rw [hin, hfull]; exact hheld
                  inIdx := by rw [hfull]; exact hwrap
                  outIdx := fun _ => by
                    rw [h.outIdx himpl, incIdx_eq h.first_lt]
                  unmoved := fun hlifo => by
                    rw [himpl] at hlifo
                    cases hlifo }
        | lifo =>
            refine ⟨{ q with
              queue := q.queue.set q.inIdx record
              inIdx := incIdx q.inIdx q.recNb 0 }, ?_, (first + 1) % q.recNb, ?_⟩
            · simp [qIsFull, hfull, hslot, hovw, himpl]
            · exact
                { impl := h.impl
                  ovw := hovw.symm
                  capacity := rfl
                  slots := by rw [List.length_set]; exact h.slots
                  first_lt := hshift
                  cnt_le := h.cnt_le
                  held := by rw [hin, hfull]; exact hheld
                  inIdx := by rw [hfull]; exact hwrap
                  outIdx := fun hfifo => by
                    rw [himpl] at hfifo
                    cases hfifo
                  unmoved := fun _ hkept => by
                    rw [hovw] at hkept
                    cases hkept }

/-!
## Taking records out
-/

namespace Holds

theorem getElem?_held (h : Holds q first row) {index : Nat} (hindex : index < q.cnt) :
    row.held[index]? = q.queue[(first + index) % q.recNb]? := by
  rw [h.held, getElem?_window hindex (by rw [h.slots]; exact h.cnt_le), h.slots]

theorem isSome_slot (h : Holds q first row) (index : Nat) :
    exists record, q.queue[index % q.recNb]? = some record :=
  ⟨_, List.getElem?_eq_getElem (by rw [h.slots]; exact Nat.mod_lt _ h.pos)⟩

theorem decIdx_inIdx (h : Holds q first row) (hpos : 0 < q.cnt) :
    decIdx q.inIdx q.recNb 0 = (first + (q.cnt - 1)) % q.recNb := by
  rw [h.inIdx, decIdx_eq h.first_lt hpos h.cnt_le]

/-- The slot that is read holds the record that is handed out next. -/
theorem slot_next (h : Holds q first row) (hpos : 0 < q.cnt) :
    exists record, row.next = some record ∧
      match q.impl with
      | .fifo => q.queue[q.outIdx]? = some record
      | .lifo => q.queue[decIdx q.inIdx q.recNb 0]? = some record := by
  unfold Row.next
  rw [h.impl]
  cases himpl : q.impl with
  | fifo =>
      rcases h.isSome_slot first with ⟨record, hrecord⟩
      have hout : q.outIdx = first % q.recNb := by
        rw [h.outIdx himpl, Nat.mod_eq_of_lt h.first_lt]
      refine ⟨record, ?_, by rw [hout, hrecord]⟩
      show row.held.head? = some record
      rw [List.head?_eq_getElem?, h.getElem?_held hpos, Nat.add_zero, hrecord]
  | lifo =>
      rcases h.isSome_slot (first + (q.cnt - 1)) with ⟨record, hrecord⟩
      refine ⟨record, ?_, by rw [h.decIdx_inIdx hpos, hrecord]⟩
      show row.held.getLast? = some record
      rw [List.getLast?_eq_getElem?, h.length_held,
        h.getElem?_held (Nat.sub_lt hpos Nat.one_pos), hrecord]

/-- The slots without the record that is handed out. -/
def taken (q : Queue α) : Queue α :=
  match q.impl with
  | .fifo => { q with outIdx := incIdx q.outIdx q.recNb 0, cnt := q.cnt - 1 }
  | .lifo => { q with inIdx := decIdx q.inIdx q.recNb 0, cnt := q.cnt - 1 }

theorem represents_taken (h : Holds q first row) (hpos : 0 < q.cnt) :
    Represents (taken q) { row with held := row.rest } := by
  have hcount : q.cnt <= q.queue.length := by
    rw [h.slots]
    exact h.cnt_le
  cases himpl : q.impl with
  | fifo =>
      have htaken : taken q =
          { q with outIdx := incIdx q.outIdx q.recNb 0, cnt := q.cnt - 1 } := by
        unfold taken
        rw [himpl]
      have hrest : row.rest = row.held.tail := by
        rw [Row.rest, h.impl, himpl]
      rw [htaken, hrest]
      refine ⟨(first + 1) % q.recNb, ?_⟩
      exact
        { h with
          first_lt := Nat.mod_lt _ h.pos
          cnt_le := Nat.le_trans (Nat.sub_le _ _) h.cnt_le
          held := by
            show row.held.tail = _
            rw [h.held, ← window_succ hpos hcount, ← window_mod, h.slots]
          inIdx := by
            show q.inIdx = _
            rw [h.inIdx, Nat.mod_add_mod]
            congr 1
            show first + q.cnt = first + 1 + (q.cnt - 1)
            omega
          outIdx := fun _ => by
            show incIdx q.outIdx q.recNb 0 = _
            rw [h.outIdx himpl, incIdx_eq h.first_lt]
          unmoved := fun hlifo => by
            rw [show q.impl = .lifo from hlifo] at himpl
            cases himpl }
  | lifo =>
      have htaken : taken q =
          { q with inIdx := decIdx q.inIdx q.recNb 0, cnt := q.cnt - 1 } := by
        unfold taken
        rw [himpl]
      have hrest : row.rest = row.held.dropLast := by
        rw [Row.rest, h.impl, himpl]
      rw [htaken, hrest]
      refine ⟨first, ?_⟩
      exact
        { h with
          cnt_le := Nat.le_trans (Nat.sub_le _ _) h.cnt_le
          held := by
            show row.held.dropLast = _
            rw [h.held, ← window_dropLast hcount]
          inIdx := h.decIdx_inIdx hpos
          outIdx := fun hfifo => by
            rw [show q.impl = .fifo from hfifo] at himpl
            cases himpl }

theorem next_of_empty (h : Holds q first row) (hempty : q.cnt = 0) :
    row.next = none ∧ row.rest = row.held := by
  have hheld := h.held_eq_nil_iff.mpr hempty
  unfold Row.next Row.rest
  rw [hheld]
  cases row.impl with
  | fifo => exact ⟨rfl, rfl⟩
  | lifo => exact ⟨rfl, rfl⟩

end Holds

theorem represents_qPop (h : Represents q row) :
    exists q', qPop q = some (row.pop.1, q') ∧ Represents q' row.pop.2 := by
  rcases h with ⟨first, h⟩
  unfold qPop Row.pop
  by_cases hempty : q.cnt = 0
  · rcases h.next_of_empty hempty with ⟨hnext, hrest⟩
    refine ⟨q, by simp [qIsEmpty, hempty, hnext], first, ?_⟩
    rw [hrest]
    exact h
  · have hpos : 0 < q.cnt := Nat.pos_of_ne_zero hempty
    rcases h.slot_next hpos with ⟨record, hnext, hslot⟩
    refine ⟨Holds.taken q, ?_, h.represents_taken hpos⟩
    rw [hnext]
    unfold Holds.taken
    cases himpl : q.impl with
    | fifo =>
        rw [himpl] at hslot
        simp [qIsEmpty, hempty, hslot]
    | lifo =>
        rw [himpl] at hslot
        simp [qIsEmpty, hempty, hslot]

theorem qPeek_eq (h : Represents q row) : qPeek q = some row.next := by
  rcases h with ⟨first, h⟩
  unfold qPeek
  by_cases hempty : q.cnt = 0
  · simp [qIsEmpty, hempty, (h.next_of_empty hempty).1]
  · rcases h.slot_next (Nat.pos_of_ne_zero hempty) with ⟨record, hnext, hslot⟩
    cases himpl : q.impl with
    | fifo =>
        rw [himpl] at hslot
        simp [qIsEmpty, hempty, hslot, hnext]
    | lifo =>
        rw [himpl] at hslot
        simp [qIsEmpty, hempty, hslot, hnext]

theorem represents_qDrop (h : Represents q row) :
    (qDrop q).1 = row.next.isSome ∧
      Represents (qDrop q).2 { row with held := row.rest } := by
  rcases h with ⟨first, h⟩
  by_cases hempty : q.cnt = 0
  · rcases h.next_of_empty hempty with ⟨hnext, hrest⟩
    have hdrop : qDrop q = (false, q) := by simp [qDrop, qIsEmpty, hempty]
    rw [hdrop, hnext, hrest]
    exact ⟨rfl, first, h⟩
  · have hpos : 0 < q.cnt := Nat.pos_of_ne_zero hempty
    rcases h.slot_next hpos with ⟨record, hnext, _⟩
    have hdrop : qDrop q = (true, Holds.taken q) := by
      unfold qDrop Holds.taken
      cases himpl : q.impl with
      | fifo => simp [qIsEmpty, hempty]
      | lifo => simp [qIsEmpty, hempty]
    rw [hdrop, hnext]
    exact ⟨rfl, h.represents_taken hpos⟩

/-- An index counts from the oldest record on. -/
theorem qPeekIdx_eq (h : Represents q row) (hcounted : row.Counted) (idx : Nat) :
    qPeekIdx q idx = some row.held[idx]? := by
  rcases h with ⟨first, h⟩
  unfold qPeekIdx qGetCount
  by_cases hrange : q.cnt < idx + 1
  · rw [if_pos hrange, List.getElem?_eq_none (by rw [h.length_held]; omega)]
  · have hindex : idx < q.cnt := by omega
    have hslot := h.getElem?_held hindex
    rcases h.isSome_slot (first + idx) with ⟨record, hrecord⟩
    rw [if_neg hrange, hslot, hrecord]
    cases himpl : q.impl with
    | fifo =>
        show q.queue[(q.outIdx + idx) % q.recNb]?.map some = _
        rw [h.outIdx himpl, hrecord]
        rfl
    | lifo =>
        have hzero : first = 0 := h.unmoved himpl (by
          rw [← h.ovw]
          exact hcounted (by rw [h.impl, himpl]))
        rw [hzero, Nat.zero_add,
          Nat.mod_eq_of_lt (Nat.lt_of_lt_of_le hindex h.cnt_le)] at hrecord
        show q.queue[idx]?.map some = _
        rw [hrecord]
        rfl

/-!
## Runs
-/

inductive Op (α : Type) where
  | push (record : α)
  | pop
  | peek
  | drop
  | peekIdx (idx : Nat)
  | flush

inductive Outcome (α : Type) where
  | done (flag : Bool)
  | found (record : Option α)

def Queue.perform (q : Queue α) : Op α -> Option (Outcome α × Queue α)
  | .push record => (qPush q record).map fun (flag, q) => (.done flag, q)
  | .pop => (qPop q).map fun (record, q) => (.found record, q)
  | .peek => (qPeek q).map fun record => (.found record, q)
  | .drop => some (.done (qDrop q).1, (qDrop q).2)
  | .peekIdx idx => (qPeekIdx q idx).map fun record => (.found record, q)
  | .flush => some (.done true, qFlush q)

def Queue.performAll : Queue α -> List (Op α) -> Option (List (Outcome α) × Queue α)
  | q, [] => some ([], q)
  | q, op :: ops => do
      let (outcome, q) <- q.perform op
      let (outcomes, q) <- q.performAll ops
      return (outcome :: outcomes, q)

def Row.perform (row : Row α) : Op α -> Outcome α × Row α
  | .push record => (.done (row.push record).1, (row.push record).2)
  | .pop => (.found row.pop.1, row.pop.2)
  | .peek => (.found row.next, row)
  | .drop => (.done row.next.isSome, { row with held := row.rest })
  | .peekIdx idx => (.found row.held[idx]?, row)
  | .flush => (.done true, row.flush)

def Row.performAll : Row α -> List (Op α) -> List (Outcome α) × Row α
  | row, [] => ([], row)
  | row, op :: ops =>
      let (outcome, row) := row.perform op
      let (outcomes, row) := row.performAll ops
      (outcome :: outcomes, row)

/-- Records at an index are only asked for where indices count records. -/
def Indexes (row : Row α) (ops : List (Op α)) : Prop :=
  forall idx, Op.peekIdx idx ∈ ops -> row.Counted

theorem counted_perform (op : Op α) :
    (row.perform op).2.Counted <-> row.Counted := by
  cases op with
  | push record =>
      show (row.push record).2.Counted <-> row.Counted
      unfold Row.push
      split
      · exact Iff.rfl
      · split
        · exact Iff.rfl
        · exact Iff.rfl
  | pop => exact Iff.rfl
  | peek => exact Iff.rfl
  | drop => exact Iff.rfl
  | peekIdx idx => exact Iff.rfl
  | flush => exact Iff.rfl

theorem represents_perform (h : Represents q row) (op : Op α)
    (hindexes : forall idx, op = .peekIdx idx -> row.Counted) :
    exists q', q.perform op = some ((row.perform op).1, q') ∧
      Represents q' (row.perform op).2 := by
  cases op with
  | push record =>
      rcases represents_qPush h record with ⟨q', hrun, hnext⟩
      exact ⟨q', by simp [Queue.perform, hrun, Row.perform], hnext⟩
  | pop =>
      rcases represents_qPop h with ⟨q', hrun, hnext⟩
      exact ⟨q', by simp [Queue.perform, hrun, Row.perform], hnext⟩
  | peek => exact ⟨q, by simp [Queue.perform, qPeek_eq h, Row.perform], h⟩
  | drop =>
      rcases represents_qDrop h with ⟨hflag, hnext⟩
      exact ⟨(qDrop q).2, by simp [Queue.perform, hflag, Row.perform], hnext⟩
  | peekIdx idx =>
      have hpeek := qPeekIdx_eq h (hindexes idx rfl) idx
      exact ⟨q, by simp [Queue.perform, hpeek, Row.perform], h⟩
  | flush => exact ⟨qFlush q, rfl, represents_qFlush h⟩

theorem represents_performAll (h : Represents q row) (ops : List (Op α))
    (hindexes : Indexes row ops) :
    exists q', q.performAll ops = some ((row.performAll ops).1, q') ∧
      Represents q' (row.performAll ops).2 := by
  induction ops generalizing q row with
  | nil => exact ⟨q, rfl, h⟩
  | cons op rest ih =>
      rcases represents_perform h op fun idx heq =>
        hindexes idx (heq ▸ List.mem_cons_self) with ⟨middle, hfirst, hmiddle⟩
      have hlater : Indexes (row.perform op).2 rest := fun idx hmem =>
        (counted_perform op).mpr (hindexes idx (List.mem_cons_of_mem _ hmem))
      rcases ih hmiddle hlater with ⟨q', hrest, hlast⟩
      exact ⟨q', by simp [Queue.performAll, hfirst, hrest, Row.performAll], hlast⟩

/-- Whatever is done with a queue, it answers as a row of bounded length does, and
no slot outside of it is read or written. -/
theorem performAll_qInit {slots : List α} {nbRecs : Nat} (hpos : 0 < nbRecs)
    (hslots : slots.length = nbRecs) (type : QueueType) (overwrite : Bool)
    (ops : List (Op α))
    (hindexes : forall idx, Op.peekIdx idx ∈ ops -> type = .lifo ->
      overwrite = false) :
    exists q, (qInit slots nbRecs type overwrite).performAll ops =
        some ((({ impl := type, ovw := overwrite, capacity := nbRecs
                  held := [] } : Row α).performAll ops).1, q) ∧
      Represents q (({ impl := type, ovw := overwrite, capacity := nbRecs
                       held := [] } : Row α).performAll ops).2 :=
  represents_performAll (represents_qInit hpos hslots type overwrite) ops hindexes

/-- Two slots, three records: the oldest one is driven out. -/
theorem performAll_qInit_two :
    exists q, (qInit [0, 0] 2 .fifo true).performAll
        [.push 1, .push 2, .push 3, .peekIdx 1, .pop, .pop, .pop] =
      some ([.done true, .done true, .done true, .found (some 3), .found (some 2),
        .found (some 3), .found none], q) := by
  rcases performAll_qInit (show 0 < 2 by decide) (show [0, 0].length = 2 by decide)
    .fifo true [.push 1, .push 2, .push 3, .peekIdx 1, .pop, .pop, .pop]
    (fun _ _ hlifo => by cases hlifo) with ⟨q, hrun, _⟩
  exact ⟨q, hrun⟩

end

end Utils
end Noc
