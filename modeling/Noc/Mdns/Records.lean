import Noc.Mdns.Strings

/-!
# The records of a received message

`mdns_records_parse` and `mdns_query_recv` of `lib/mdns/mdns.h`.  The callback
of the daemon never ends the reading, so a call returns the arguments it hands
to the callback, one after the other, and their number is the count it returns.
-/

namespace Noc
namespace Mdns

open Foundation.Wire

inductive MdnsEntryType where
  | question
  | answer
  | authority
  | additional
  deriving DecidableEq, Repr

/-- The arguments of the callback that tell of a record. -/
structure RecordCall where
  entry : MdnsEntryType
  queryId : Nat
  rtype : Nat
  rclass : Nat
  ttl : Nat
  nameOffset : Nat
  nameLength : Nat
  recordOffset : Nat
  recordLength : Nat
  deriving DecidableEq, Repr

/-- A record that does not fit is passed over; the reading ends where no header
of a record fits. -/
def mdnsRecordsParse (buffer : Bytes) (entry : MdnsEntryType) (queryId : Nat) :
    Nat -> Nat -> Option (List RecordCall × Nat)
  | 0, offset => some ([], offset)
  | records + 1, nameOffset => do
      let offset := (<- mdnsStringSkip buffer nameOffset).getD nameOffset
      if buffer.length < offset + 10 then return ([], offset)
      else
        let rtype <- u16At buffer offset
        let rclass <- u16At buffer (offset + 2)
        let ttl <- u32At buffer (offset + 4)
        let length <- u16At buffer (offset + 8)
        let (calls, finish) <-
          mdnsRecordsParse buffer entry queryId records (offset + 10 + length)
        if length <= buffer.length - (offset + 10) then
          let call : RecordCall :=
            { entry, queryId, rtype, rclass, ttl, nameOffset
              nameLength := offset - nameOffset
              recordOffset := offset + 10
              recordLength := length }
          return (call :: calls, finish)
        else return (calls, finish)

/-- The type and the class of a question are not looked at. -/
def skipQuestions (buffer : Bytes) : Nat -> Nat -> Option (Option Nat)
  | 0, offset => some (some offset)
  | questions + 1, offset => do
      match <- mdnsStringSkip buffer offset with
      | none => return none
      | some finish => skipQuestions buffer questions (finish + 4)

/-- The sections of a message; one that is cut short ends the reading. -/
def readSections (buffer : Bytes) (queryId : Nat) :
    List (MdnsEntryType × Nat) -> Nat -> Option (List RecordCall)
  | [], _ => some []
  | (entry, rrs) :: rest, offset => do
      let (calls, offset) <- mdnsRecordsParse buffer entry queryId rrs offset
      if calls.length ≠ rrs then return calls
      else return calls ++ (<- readSections buffer queryId rest offset)

/-- What is read of a message: so many bytes of a buffer that holds older ones
behind them.  The header is read before its size is looked at. -/
def mdnsQueryRecv (block : Bytes) (ret : Nat) (onlyQueryId : Int) :
    Option (List RecordCall) := do
  if ret = 0 then return []
  else
    let queryId <- u16At block 0
    let _ <- u16At block 2
    let questions <- u16At block 4
    let answerRrs <- u16At block 6
    let authorityRrs <- u16At block 8
    let additionalRrs <- u16At block 10
    if 0 < onlyQueryId ∧ (queryId : Int) ≠ onlyQueryId then return []
    else
      let buffer := block.take ret
      match <- skipQuestions buffer questions 12 with
      | none => return []
      | some offset =>
          readSections buffer queryId
            [(.answer, answerRrs), (.authority, authorityRrs),
              (.additional, additionalRrs)] offset

/-!
## What a record is
-/

/-- The name of a record: none that can be skipped, or up to its end. -/
def Named (buffer : Bytes) (call : RecordCall) : Prop :=
  match mdnsStringSkip buffer call.nameOffset with
  | some (some finish) => call.nameOffset + call.nameLength = finish
  | _ => call.nameLength = 0

/-- The bytes of the message behind a name say what the callback is told, and the
data of the record lie in the message. -/
structure RecordAt (buffer : Bytes) (call : RecordCall) : Prop where
  named : Named buffer call
  rtype : u16At buffer (call.nameOffset + call.nameLength) = some call.rtype
  rclass : u16At buffer (call.nameOffset + call.nameLength + 2) =
    some call.rclass
  ttl : u32At buffer (call.nameOffset + call.nameLength + 4) = some call.ttl
  length : u16At buffer (call.nameOffset + call.nameLength + 8) =
    some call.recordLength
  behind : call.recordOffset = call.nameOffset + call.nameLength + 10
  inside : call.recordOffset + call.recordLength <= buffer.length

def RecordCall.finish (call : RecordCall) : Nat :=
  call.recordOffset + call.recordLength

/-- Records stand one behind the other. -/
inductive RecordsFrom (buffer : Bytes) : Nat -> List RecordCall -> Nat -> Prop where
  | nil (offset : Nat) : RecordsFrom buffer offset [] offset
  | cons {finish : Nat} {call : RecordCall} {rest : List RecordCall}
      (hrecord : RecordAt buffer call)
      (hrest : RecordsFrom buffer call.finish rest finish) :
      RecordsFrom buffer call.nameOffset (call :: rest) finish

theorem RecordsFrom.append {buffer : Bytes} {start middle finish : Nat}
    {calls later : List RecordCall} (h : RecordsFrom buffer start calls middle)
    (h' : RecordsFrom buffer middle later finish) :
    RecordsFrom buffer start (calls ++ later) finish := by
  induction h with
  | nil offset => exact h'
  | cons hrecord _ ih => exact RecordsFrom.cons hrecord (ih h')

/-- A record takes at least the ten bytes of its header. -/
theorem RecordsFrom.length_le {buffer : Bytes} {start finish : Nat}
    {calls : List RecordCall} (h : RecordsFrom buffer start calls finish) :
    start + 10 * calls.length <= finish := by
  induction h with
  | nil offset => simp
  | cons hrecord _ ih =>
      have hbehind := hrecord.behind
      simp only [RecordCall.finish, List.length_cons] at ih ⊢
      omega

theorem RecordsFrom.finish_le {buffer : Bytes} {start finish : Nat}
    {calls : List RecordCall} (h : RecordsFrom buffer start calls finish)
    (hstart : start <= buffer.length) : finish <= buffer.length := by
  induction h with
  | nil offset => exact hstart
  | cons hrecord _ ih => exact ih hrecord.inside

theorem RecordsFrom.finish_le_of_ne_nil {buffer : Bytes} {start finish : Nat}
    {calls : List RecordCall} (h : RecordsFrom buffer start calls finish)
    (hne : calls ≠ []) : finish <= buffer.length := by
  cases h with
  | nil offset => exact absurd rfl hne
  | cons hrecord hrest => exact hrest.finish_le hrecord.inside

section

variable {buffer : Bytes} {entry : MdnsEntryType} {queryId : Nat}

/-- Behind the end of the message nothing is read. -/
theorem mdnsRecordsParse_of_le {offset : Nat} (h : buffer.length <= offset)
    (entry : MdnsEntryType) (queryId records : Nat) :
    exists finish, mdnsRecordsParse buffer entry queryId records offset =
      some ([], finish) := by
  cases records with
  | zero => exact ⟨offset, rfl⟩
  | succ records =>
      rcases exists_mdnsStringSkip buffer offset with ⟨skipped, hskip, hfinish⟩
      refine ⟨skipped.getD offset, ?_⟩
      have hend : buffer.length < skipped.getD offset + 10 := by
        cases skipped with
        | none =>
            simp only [Option.getD_none]
            omega
        | some finish =>
            have := (hfinish finish rfl).1.lt
            simp only [Option.getD_some]
            omega
      simp [mdnsRecordsParse, hskip, hend]

/-- No byte outside of the message is read.  The records handed on stand in it,
one behind the other; all of them were asked for, and the reading goes on where
they end when they are as many. -/
theorem exists_mdnsRecordsParse (buffer : Bytes) (entry : MdnsEntryType)
    (queryId records start : Nat) :
    exists calls finish,
      mdnsRecordsParse buffer entry queryId records start =
        some (calls, finish) ∧
      calls.length <= records ∧
      (forall call, call ∈ calls -> call.entry = entry ∧ call.queryId = queryId) ∧
      exists last, RecordsFrom buffer start calls last ∧
        (calls.length = records -> last = finish) := by
  induction records generalizing start with
  | zero =>
      exact ⟨[], start, rfl, Nat.le_refl 0, by simp, start, RecordsFrom.nil start,
        fun _ => rfl⟩
  | succ records ih =>
      rcases exists_mdnsStringSkip buffer start with ⟨skipped, hskip, hends⟩
      by_cases hheader : skipped.getD start + 10 <= buffer.length
      · have hafter : start <= skipped.getD start := by
          cases skipped with
          | none => exact Nat.le_refl _
          | some finish => exact Nat.le_of_lt (hends finish rfl).1.lt
        rcases exists_u16At buffer (skipped.getD start)
          (by omega) with ⟨rtype, hrtype⟩
        rcases exists_u16At buffer (skipped.getD start + 2)
          (by omega) with ⟨rclass, hrclass⟩
        rcases exists_u32At buffer (skipped.getD start + 4)
          (by omega) with ⟨ttl, httl⟩
        rcases exists_u16At buffer (skipped.getD start + 8)
          (by omega) with ⟨length, hlength⟩
        by_cases hfits : skipped.getD start + 10 + length <= buffer.length
        · rcases ih (skipped.getD start + 10 + length) with
            ⟨calls, finish, hrun, hcount, hsame, last, hfrom, hlast⟩
          let call : RecordCall :=
            { entry, queryId, rtype, rclass, ttl
              nameOffset := start
              nameLength := skipped.getD start - start
              recordOffset := skipped.getD start + 10
              recordLength := length }
          have hname : start + (skipped.getD start - start) = skipped.getD start := by
            omega
          have hnamed : Named buffer call := by
            show (match mdnsStringSkip buffer start with
              | some (some finish) => start + (skipped.getD start - start) = finish
              | _ => skipped.getD start - start = 0)
            rw [hskip]
            cases skipped with
            | none => exact Nat.sub_self _
            | some finish => exact hname
          have hrecord : RecordAt buffer call :=
            { named := hnamed
              rtype := by simpa [call, hname] using hrtype
              rclass := by simpa [call, hname] using hrclass
              ttl := by simpa [call, hname] using httl
              length := by simpa [call, hname] using hlength
              behind := by simp [call, hname]
              inside := hfits }
          have hroom : length <= buffer.length - (skipped.getD start + 10) := by
            omega
          refine ⟨call :: calls, finish, ?_, Nat.succ_le_succ hcount, ?_, last,
            RecordsFrom.cons hrecord hfrom, ?_⟩
          · simp [mdnsRecordsParse, hskip, Nat.not_lt.mpr hheader, hrtype, hrclass,
              httl, hlength, hrun, hroom, call]
          · intro other hmem
            rcases List.mem_cons.mp hmem with rfl | hmem
            · exact ⟨rfl, rfl⟩
            · exact hsame other hmem
          · intro hall
            exact hlast (Nat.succ_inj.mp hall)
        · have hroom : ¬ length <= buffer.length - (skipped.getD start + 10) := by
            omega
          rcases mdnsRecordsParse_of_le (Nat.le_of_not_le hfits) entry queryId
            records with ⟨finish, hrun⟩
          refine ⟨[], finish, ?_, Nat.zero_le _, by simp, start,
            RecordsFrom.nil start, by simp⟩
          simp [mdnsRecordsParse, hskip, Nat.not_lt.mpr hheader, hrtype, hrclass,
            httl, hlength, hrun, hroom]
      · refine ⟨[], skipped.getD start, ?_, Nat.zero_le _, by simp, start,
          RecordsFrom.nil start, by simp⟩
        simp [mdnsRecordsParse, hskip, Nat.lt_of_not_le hheader]

/-- Records that stand one behind the other are read, all of them. -/
theorem mdnsRecordsParse_of_from {start finish : Nat} {calls : List RecordCall}
    (h : RecordsFrom buffer start calls finish)
    (hsame : forall call, call ∈ calls ->
      call.entry = entry ∧ call.queryId = queryId) :
    mdnsRecordsParse buffer entry queryId calls.length start =
      some (calls, finish) := by
  induction h with
  | nil offset => rfl
  | @cons finish call rest hrecord hrest ih =>
      have hrun := ih fun other hmem => hsame other (List.mem_cons_of_mem _ hmem)
      have hskip : exists skipped,
          mdnsStringSkip buffer call.nameOffset = some skipped ∧
            skipped.getD call.nameOffset = call.nameOffset + call.nameLength := by
        rcases exists_mdnsStringSkip buffer call.nameOffset with ⟨skipped, hskip, _⟩
        have hnamed := hrecord.named
        unfold Named at hnamed
        rw [hskip] at hnamed
        refine ⟨skipped, hskip, ?_⟩
        cases skipped with
        | none => rw [hnamed]; rfl
        | some finish => exact hnamed.symm
      rcases hskip with ⟨skipped, hskip, hoffset⟩
      have hbehind := hrecord.behind
      have hinside := hrecord.inside
      have hheader : ¬ buffer.length < call.nameOffset + call.nameLength + 10 := by
        omega
      have hroom : call.recordLength <=
          buffer.length - (call.nameOffset + call.nameLength + 10) := by
        omega
      have hentry := (hsame call List.mem_cons_self).1
      have hid := (hsame call List.mem_cons_self).2
      rw [RecordCall.finish, hbehind] at hrun
      have hcall : ({ entry, queryId, rtype := call.rtype, rclass := call.rclass
                      ttl := call.ttl, nameOffset := call.nameOffset
                      nameLength := call.nameOffset + call.nameLength -
                        call.nameOffset
                      recordOffset := call.nameOffset + call.nameLength + 10
                      recordLength := call.recordLength } : RecordCall) = call := by
        cases call
        simp_all
      simp only [mdnsRecordsParse, List.length_cons, hskip, Option.bind_eq_bind,
        Option.bind_some, hoffset, if_neg hheader, hrecord.rtype, hrecord.rclass,
        hrecord.ttl, hrecord.length, hrun, if_pos hroom, hcall]
      rfl

end

end Mdns
end Noc
