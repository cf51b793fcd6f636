import Noc.Mdns.Records
import Noc.Mesh.Announced

/-!
# Receiving messages

Any datagram may arrive on the socket of a query, and it lies in front of what
the buffer held before.  Nothing outside of a datagram is read as a record, all
records of a well-formed message are, and the devices that announce themselves
are those of the TXT records among them.
-/

namespace Noc
namespace Mdns

open Foundation.Wire
open Mesh

/-!
## Messages
-/

section

variable {buffer block : Bytes} {onlyQueryId : Int}

/-- Questions stand one behind the other, with four bytes behind each name. -/
inductive QuestionsFrom (buffer : Bytes) : Nat -> Nat -> Nat -> Prop where
  | nil (offset : Nat) : QuestionsFrom buffer 0 offset offset
  | cons {questions offset ending finish : Nat}
      (hname : mdnsStringSkip buffer offset = some (some ending))
      (hrest : QuestionsFrom buffer questions (ending + 4) finish) :
      QuestionsFrom buffer (questions + 1) offset finish

theorem skipQuestions_of_from {questions start finish : Nat}
    (h : QuestionsFrom buffer questions start finish) :
    skipQuestions buffer questions start = some (some finish) := by
  induction h with
  | nil offset => rfl
  | cons hname _ ih => simp [skipQuestions, hname, ih]

theorem exists_skipQuestions (buffer : Bytes) (questions start : Nat) :
    exists skipped, skipQuestions buffer questions start = some skipped ∧
      forall finish, skipped = some finish -> start <= finish := by
  induction questions generalizing start with
  | zero =>
      refine ⟨some start, rfl, ?_⟩
      rintro finish ⟨⟩
      exact Nat.le_refl _
  | succ questions ih =>
      rcases exists_mdnsStringSkip buffer start with ⟨skipped, hskip, hends⟩
      cases skipped with
      | none => exact ⟨none, by simp [skipQuestions, hskip], by simp⟩
      | some ending =>
          rcases ih (ending + 4) with ⟨found, hrun, hlater⟩
          refine ⟨found, by simp [skipQuestions, hskip, hrun], ?_⟩
          intro finish hfound
          have hlt := (hends ending rfl).1.lt
          have := hlater finish hfound
          omega

/-- What holds of the records of a section: they say what the section is. -/
def Labelled (entry : MdnsEntryType) (queryId : Nat) (calls : List RecordCall) :
    Prop :=
  forall call, call ∈ calls -> call.entry = entry ∧ call.queryId = queryId

theorem exists_readSections (buffer : Bytes) (queryId : Nat) (sections : List (MdnsEntryType × Nat))
    (start : Nat) :
    exists calls, readSections buffer queryId sections start = some calls ∧
      exists finish, RecordsFrom buffer start calls finish := by
  induction sections generalizing start with
  | nil => exact ⟨[], rfl, start, RecordsFrom.nil start⟩
  | cons first rest ih =>
      rcases exists_mdnsRecordsParse buffer first.1 queryId first.2 start with
        ⟨calls, finish, hrun, _, _, last, hfrom, hlast⟩
      by_cases hall : calls.length = first.2
      · rcases ih finish with ⟨later, hlater, ending, hbehind⟩
        refine ⟨calls ++ later, by simp [readSections, hrun, hall, hlater], ending, ?_⟩
        rw [hlast hall] at hfrom
        exact hfrom.append hbehind
      · exact ⟨calls, by simp [readSections, hrun, hall], last, hfrom⟩

/-- The sections of a message, each with its records. -/
inductive SectionsFrom (buffer : Bytes) (queryId : Nat) :
    Nat -> List (MdnsEntryType × List RecordCall) -> Prop where
  | nil (offset : Nat) : SectionsFrom buffer queryId offset []
  | cons {start finish : Nat} {entry : MdnsEntryType} {calls : List RecordCall}
      {rest : List (MdnsEntryType × List RecordCall)}
      (hfrom : RecordsFrom buffer start calls finish)
      (hlabelled : Labelled entry queryId calls)
      (hrest : SectionsFrom buffer queryId finish rest) :
      SectionsFrom buffer queryId start ((entry, calls) :: rest)

theorem readSections_of_from {queryId start : Nat}
    {sections : List (MdnsEntryType × List RecordCall)}
    (h : SectionsFrom buffer queryId start sections) :
    readSections buffer queryId
        (sections.map fun part => (part.1, part.2.length)) start =
      some (sections.flatMap Prod.snd) := by
  induction h with
  | nil offset => rfl
  | cons hfrom hlabelled _ ih =>
      simp [readSections, mdnsRecordsParse_of_from hfrom hlabelled, ih]

/-- A message: its header says how many questions and records stand behind it. -/
structure MessageAt (message : Bytes) (queryId : Nat)
    (answers authority additional : List RecordCall) : Prop where
  id : u16At message 0 = some queryId
  answerRrs : u16At message 6 = some answers.length
  authorityRrs : u16At message 8 = some authority.length
  additionalRrs : u16At message 10 = some additional.length
  body : exists questions start, u16At message 4 = some questions ∧
    QuestionsFrom message questions 12 start ∧
    SectionsFrom message queryId start
      [(.answer, answers), (.authority, authority), (.additional, additional)]

theorem u16At_append_of_lt {front back : Bytes} {offset : Nat}
    (h : offset + 2 <= front.length) :
    u16At (front ++ back) offset = u16At front offset := by
  unfold u16At
  rw [List.getElem?_append_left (by omega), List.getElem?_append_left (by omega)]

/-- Of a well-formed message every record is handed on, in order, whatever the
buffer held before. -/
theorem mdnsQueryRecv_of_message {message stale : Bytes} {queryId : Nat}
    {answers authority additional : List RecordCall}
    (h : MessageAt message queryId answers authority additional)
    (hwanted : 0 < onlyQueryId -> (queryId : Int) = onlyQueryId) :
    mdnsQueryRecv (message ++ stale) message.length onlyQueryId =
      some (answers ++ authority ++ additional) := by
  have hlength : 12 <= message.length := length_of_u16At h.additionalRrs
  rcases h.body with ⟨questions, start, hquestions, hskipped, hsections⟩
  rcases exists_u16At message 2 (by omega) with
    ⟨flags, hflags⟩
  have hread := readSections_of_from hsections
  simp only [List.map_cons, List.map_nil, List.flatMap_cons, List.flatMap_nil,
    List.append_nil] at hread
  have hkept : ¬ (0 < onlyQueryId ∧ (queryId : Int) ≠ onlyQueryId) :=
    fun hother => hother.2 (hwanted hother.1)
  have hfield : forall offset, offset + 2 <= 12 ->
      u16At (message ++ stale) offset = u16At message offset :=
    fun offset hoffset => u16At_append_of_lt (Nat.le_trans hoffset hlength)
  unfold mdnsQueryRecv
  rw [if_neg (by omega), hfield 0 (by omega), hfield 2 (by omega),
    hfield 4 (by omega), hfield 6 (by omega), hfield 8 (by omega),
    hfield 10 (by omega), h.id, hflags, hquestions, h.answerRrs, h.authorityRrs,
    h.additionalRrs]
  simp only [Option.bind_eq_bind, Option.bind_some, if_neg hkept,
    List.take_left', skipQuestions_of_from hskipped, hread, List.append_assoc]

/-- A TXT record of the root whose only string is `role=standalone`. -/
def standaloneDatagram : Bytes :=
  [0, 0, 0x84, 0, 0, 0, 0, 1, 0, 0, 0, 0] ++ [0, 0, 16, 0, 1, 0, 0, 0, 10, 0, 16] ++
    [15, 0x72, 0x6f, 0x6c, 0x65, 0x3d] ++
    [0x73, 0x74, 0x61, 0x6e, 0x64, 0x61, 0x6c, 0x6f, 0x6e, 0x65]

def standaloneCall : RecordCall where
  entry := .answer
  queryId := 0
  rtype := 16
  rclass := 1
  ttl := 10
  nameOffset := 12
  nameLength := 1
  recordOffset := 23
  recordLength := 16

theorem messageAt_standalone :
    MessageAt standaloneDatagram 0 [standaloneCall] [] [] where
  id := by decide
  answerRrs := by decide
  authorityRrs := by decide
  additionalRrs := by decide
  body := by
    have hrecord : RecordAt standaloneDatagram standaloneCall :=
      { named := by
          have hskip : mdnsStringSkip standaloneDatagram 12 = some (some 13) := by
            decide
          unfold Named
          rw [show standaloneCall.nameOffset = 12 from rfl, hskip]
          rfl
        rtype := by decide
        rclass := by decide
        ttl := by decide
        length := by decide
        behind := by decide
        inside := by decide }
    refine ⟨0, 12, by decide, QuestionsFrom.nil 12, ?_⟩
    refine SectionsFrom.cons (RecordsFrom.cons hrecord (RecordsFrom.nil 39)) ?_ ?_
    · intro call hmem
      cases List.mem_singleton.mp hmem
      exact ⟨rfl, rfl⟩
    · exact SectionsFrom.cons (RecordsFrom.nil 39) (fun _ hmem => by cases hmem)
        (SectionsFrom.cons (RecordsFrom.nil 39) (fun _ hmem => by cases hmem)
          (SectionsFrom.nil 39))

theorem mdnsQueryRecv_of_message_standalone :
    mdnsQueryRecv (standaloneDatagram ++ [0xc0]) standaloneDatagram.length 0 =
      some [standaloneCall] :=
  mdnsQueryRecv_of_message messageAt_standalone fun hpos => absurd hpos (by decide)

theorem exists_mdnsQueryRecv (hheader : 12 <= block.length) (ret : Nat)
    (onlyQueryId : Int) :
    exists calls, mdnsQueryRecv block ret onlyQueryId = some calls ∧
      exists start finish, 12 <= start ∧
        RecordsFrom (block.take ret) start calls finish := by
  rcases exists_u16At block 0 (by omega) with ⟨id, hid⟩
  rcases exists_u16At block 2 (by omega) with
    ⟨flags, hflags⟩
  rcases exists_u16At block 4 (by omega) with
    ⟨questions, hquestions⟩
  rcases exists_u16At block 6 (by omega) with
    ⟨answers, hanswers⟩
  rcases exists_u16At block 8 (by omega) with
    ⟨authority, hauthority⟩
  rcases exists_u16At block 10 (by omega) with
    ⟨additional, hadditional⟩
  have hnothing : exists start finish, 12 <= start ∧
      RecordsFrom (block.take ret) start [] finish :=
    ⟨12, 12, Nat.le_refl _, RecordsFrom.nil 12⟩
  unfold mdnsQueryRecv
  simp only [hid, hflags, hquestions, hanswers, hauthority, hadditional,
    Option.bind_eq_bind, Option.bind_some]
  by_cases hempty : ret = 0
  · exact ⟨[], by rw [if_pos hempty]; rfl, hnothing⟩
  · rw [if_neg hempty]
    by_cases hother : 0 < onlyQueryId ∧ (id : Int) ≠ onlyQueryId
    · exact ⟨[], by rw [if_pos hother]; rfl, hnothing⟩
    · rw [if_neg hother]
      rcases exists_skipQuestions (block.take ret) questions 12 with
        ⟨skipped, hskip, hstart⟩
      rw [hskip, Option.bind_some]
      cases skipped with
      | none => exact ⟨[], rfl, hnothing⟩
      | some start =>
          rcases exists_readSections (block.take ret) id
            [(.answer, answers), (.authority, authority), (.additional, additional)]
            start with ⟨calls, hrun, finish, hfrom⟩
          exact ⟨calls, hrun, start, finish, hstart start rfl, hfrom⟩

/-- Whatever a datagram holds, no byte outside of it is read, but for its header
in the buffer.  What is handed on are records that stand in it one behind the
other, and there is room for their headers in it. -/
theorem mdnsQueryRecv_inside (hheader : 12 <= block.length) (ret : Nat)
    (onlyQueryId : Int) :
    exists calls, mdnsQueryRecv block ret onlyQueryId = some calls ∧
      (exists start finish, 12 <= start ∧
        RecordsFrom (block.take ret) start calls finish) ∧
      (calls ≠ [] -> 12 + 10 * calls.length <= ret) := by
  rcases exists_mdnsQueryRecv hheader ret onlyQueryId with
    ⟨calls, hrun, start, finish, hstart, hfrom⟩
  refine ⟨calls, hrun, ⟨start, finish, hstart, hfrom⟩, ?_⟩
  intro hne
  have hroom := hfrom.length_le
  have hfinish := hfrom.finish_le_of_ne_nil hne
  rw [List.length_take] at hfinish
  omega

theorem mdnsQueryRecv_inside_header :
    exists calls, mdnsQueryRecv (List.replicate 12 0xc0) 1 0 = some calls ∧
      (calls ≠ [] -> 12 + 10 * calls.length <= 1) := by
  have hheader : 12 <= (List.replicate 12 (0xc0 : UInt8)).length := by decide
  rcases mdnsQueryRecv_inside hheader 1 0 with ⟨calls, hrun, _, hroom⟩
  exact ⟨calls, hrun, hroom⟩

/-- What is handed on depends on the datagram alone. -/
theorem mdnsQueryRecv_of_stale {message stale stale' : Bytes}
    (onlyQueryId : Int) (hheader : 12 <= (message ++ stale).length)
    (hheader' : 12 <= (message ++ stale').length) :
    mdnsQueryRecv (message ++ stale) message.length onlyQueryId =
      mdnsQueryRecv (message ++ stale') message.length onlyQueryId := by
  by_cases hlong : 12 <= message.length
  · have hfield : forall offset stale, offset + 2 <= 12 ->
        u16At (message ++ stale) offset = u16At message offset :=
      fun offset stale hoffset =>
        u16At_append_of_lt (Nat.le_trans hoffset hlong)
    unfold mdnsQueryRecv
    rw [hfield 0 stale (by omega), hfield 0 stale' (by omega),
      hfield 2 stale (by omega), hfield 2 stale' (by omega),
      hfield 4 stale (by omega), hfield 4 stale' (by omega),
      hfield 6 stale (by omega), hfield 6 stale' (by omega),
      hfield 8 stale (by omega), hfield 8 stale' (by omega),
      hfield 10 stale (by omega), hfield 10 stale' (by omega)]
    simp only [List.take_left']
  · have hnone : forall stale, 12 <= (message ++ stale).length ->
        mdnsQueryRecv (message ++ stale) message.length onlyQueryId = some [] := by
      intro stale hstale
      rcases mdnsQueryRecv_inside hstale message.length onlyQueryId with
        ⟨calls, hrun, _, hroom⟩
      cases calls with
      | nil => exact hrun
      | cons call rest =>
          have := hroom (List.cons_ne_nil _ _)
          omega
    rw [hnone stale hheader, hnone stale' hheader']

end
/-!
## TXT records
-/

def mdnsRecordtypeTxt : Nat := 16

/-- A byte is one character. -/
def toChars (bytes : Bytes) : List Char :=
  bytes.map fun byte => Char.ofNat byte.toNat

/-- What `query_callback` looks at: of a TXT record, its length and the buffer
from its data on. -/
def answerOf (block : Bytes) (call : RecordCall) : MdnsAnswer :=
  if call.rtype = mdnsRecordtypeTxt then
    .txt call.recordLength (toChars (block.drop call.recordOffset))
  else .other

/-- `recvfrom`: a datagram lies in front of what the buffer held before. -/
def recvfrom (block datagram : Bytes) : Bytes :=
  datagram.take block.length ++ block.drop datagram.length

/-- What `mdns_multiquery_send` returns for the query that is sent with the
identifier 0. -/
def sentQueryId (sent : Bool) : Int :=
  if sent then 0 else -1

/-- The records of the datagrams that arrive, each with whether its socket could
send the query. -/
def mdnsReceive : Bytes -> List (Bool × Bytes) -> Option (List MdnsAnswer)
  | _, [] => some []
  | block, (sent, datagram) :: rest => do
      let received := recvfrom block datagram
      let calls <- mdnsQueryRecv received (min datagram.length block.length)
        (sentQueryId sent)
      return calls.map (answerOf received) ++ (<- mdnsReceive received rest)

/-- The strings of a TXT record, each behind a byte with its length. -/
def strings (texts : List Bytes) : Bytes :=
  texts.flatMap fun text => UInt8.ofNat text.length :: text

/-- What a string tells by itself. -/
def txtOf (text : Bytes) : Option TxtRecord :=
  txtRecord (toChars text) []

/-- The value is no beginning of `standalone` that what stands behind it in the
buffer might complete. -/
def Settled (value : String) : Prop :=
  value.toList <+: "standalone".toList -> value = "standalone"

/-- The data of a record are strings, and their roles are settled. -/
structure TxtAt (message : Bytes) (call : RecordCall) (texts : List Bytes) :
    Prop where
  short : forall text, text ∈ texts -> text.length <= 255
  data : pieceAt message call.recordOffset call.recordLength = strings texts
  settled : forall text record, text ∈ texts -> txtOf text = some record ->
    keyStarts "role" record = true -> Settled record.value

/-- What is handed on of a datagram, which does not depend on the buffer. -/
def recordsOf (datagram : Bytes) : List RecordCall :=
  (mdnsQueryRecv (datagram ++ List.replicate 12 0) datagram.length 0).getD []

/-- The TXT records of a datagram have these strings. -/
def AnnouncesAt (datagram : Bytes) (txts : List (List Bytes)) : Prop :=
  List.Forall₂ (TxtAt datagram)
    ((recordsOf datagram).filter fun call => call.rtype = mdnsRecordtypeTxt) txts

/-- The device a TXT record announces, told by its strings alone. -/
def announced (texts : List Bytes) : Option DeviceInfo :=
  readTxt {} ((texts.filterMap txtOf).take nbTxtbuffer)

section

variable {text : Bytes} {texts : List Bytes} {behind : List Char}

theorem toNat_char (byte : UInt8) :
    (Char.ofNat byte.toNat).toNat = byte.toNat := by
  have hlt := byte.toNat_lt
  have hvalid : byte.toNat.isValidChar := Or.inl (by omega)
  rw [Char.ofNat, dif_pos hvalid]
  rfl

theorem toChars_append (front back : Bytes) :
    toChars (front ++ back) = toChars front ++ toChars back :=
  List.map_append

@[simp] theorem length_toChars (bytes : Bytes) :
    (toChars bytes).length = bytes.length :=
  List.length_map _

theorem strings_cons (text : Bytes) (texts : List Bytes) :
    strings (text :: texts) =
      UInt8.ofNat text.length :: (text ++ strings texts) := rfl

/-- A string and what stands behind it make a record of it when it does by
itself; only the bytes behind the value differ. -/
theorem txtRecord_behind (text : List Char) (behind : List Char) :
    txtRecord text behind = (txtRecord text []).map fun record =>
      { record with behind := String.ofList behind } := by
  unfold txtRecord
  split <;> rfl

/-- The same record, whatever stands behind its value. -/
def SameTxt (record alone : TxtRecord) : Prop :=
  record = { alone with behind := record.behind }

/-- The parser takes the strings one by one. -/
theorem mdnsRecordParseTxt_strings
    (hshort : forall text, text ∈ texts -> text.length <= 255) (capacity : Nat)
    (behind : List Char) :
    List.Forall₂ SameTxt
      (mdnsRecordParseTxt capacity (strings texts).length
        (toChars (strings texts) ++ behind))
      ((texts.filterMap txtOf).take capacity) := by
  induction texts generalizing capacity with
  | nil =>
      have hnone : mdnsRecordParseTxt capacity 0 behind = [] := by
        cases capacity <;> simp [mdnsRecordParseTxt]
      simp [strings, toChars, hnone]
  | cons text rest ih =>
      have hlength : (UInt8.ofNat text.length).toNat = text.length := by
        have := hshort text List.mem_cons_self
        rw [UInt8.toNat_ofNat', Nat.mod_eq_of_lt (by omega)]
      have hlater := ih fun other hmem => hshort other (List.mem_cons_of_mem _ hmem)
      let first := Char.ofNat (UInt8.ofNat text.length).toNat
      have hfirst : first.toNat = text.length := by
        rw [toNat_char, hlength]
      have hdata : toChars (strings (text :: rest)) ++ behind =
          first :: (toChars text ++ (toChars (strings rest) ++ behind)) := by
        rw [strings_cons, ← List.append_assoc, ← toChars_append]
        rfl
      have hcount : (strings (text :: rest)).length =
          (text.length + (strings rest).length) + 1 := by
        rw [strings_cons, List.length_cons, List.length_append]
      have hshorter : text.length + (strings rest).length - text.length =
          (strings rest).length := Nat.add_sub_cancel_left _ _
      rw [hdata, hcount]
      cases capacity with
      | zero => simp [mdnsRecordParseTxt]
      | succ capacity =>
          have hbehind := txtRecord_behind (toChars text)
            (toChars (strings rest) ++ behind)
          rw [mdnsRecordParseTxt]
          simp only [hfirst, hshorter, List.take_left' (length_toChars text),
            List.drop_left' (length_toChars text)]
          cases halone : txtOf text with
          | none =>
              rw [show txtRecord (toChars text) [] = none from halone] at hbehind
              rw [hbehind, List.filterMap_cons_none halone]
              exact hlater (capacity + 1)
          | some alone =>
              rw [show txtRecord (toChars text) [] = some alone from halone] at hbehind
              rw [hbehind, List.filterMap_cons_some halone, List.take_succ_cons]
              exact List.Forall₂.cons rfl (hlater capacity)

/-!
## One datagram
-/

theorem strncmpEqual_settled {value : String} (hsettled : Settled value)
    (behind : String) :
    strncmpEqual (value ++ behind) "standalone" =
      strncmpEqual value "standalone" := by
  unfold strncmpEqual
  rw [Bool.eq_iff_iff, List.isPrefixOf_iff_prefix, List.isPrefixOf_iff_prefix,
    String.toList_append]
  constructor
  · intro h
    rcases List.prefix_or_prefix_of_prefix h (List.prefix_append _ _) with
      hwhole | hpart
    · exact hwhole
    · have hsame := congrArg String.toList (hsettled hpart)
      exact ⟨[], (List.append_nil _).trans hsame.symm⟩
  · intro h
    exact h.trans (List.prefix_append _ _)

theorem keyStarts_of_same {record alone : TxtRecord} (h : SameTxt record alone)
    (start : String) : keyStarts start record = keyStarts start alone := by
  rw [h]
  rfl

theorem refuses_of_same {record alone : TxtRecord} (h : SameTxt record alone)
    (hbehind : alone.behind = "")
    (hsettled : keyStarts "role" alone = true -> Settled alone.value) :
    refuses record = refuses alone := by
  unfold refuses
  rw [keyStarts_of_same h]
  cases hrole : keyStarts "role" alone with
  | false => rfl
  | true =>
      have halone : alone.valueStr = alone.value := by
        rw [TxtRecord.valueStr, hbehind, String.append_empty]
      have hvalue : record.valueStr = alone.value ++ record.behind := by
        rw [h]
        rfl
      rw [halone, hvalue, strncmpEqual_settled (hsettled hrole)]

theorem readTxtField_of_same {record alone : TxtRecord} (h : SameTxt record alone)
    (device : DeviceInfo) :
    readTxtField (withRole device record) record =
      readTxtField (withRole device alone) alone := by
  have hvalue : record.value = alone.value := by
    rw [h]
  have hcompared : forall field : TxtField,
      strncmpEqual record.keyStr field.key = strncmpEqual alone.keyStr field.key := by
    intro field
    rw [strncmpEqual_keyStr (key_unbroken field),
      strncmpEqual_keyStr (key_unbroken field), keyStarts_of_same h]
  have hrole : withRole device record = withRole device alone := by
    unfold withRole
    rw [keyStarts_of_same h, hvalue]
  rw [readTxtField_eq, readTxtField_eq, hrole, hvalue]
  simp only [hcompared]

theorem behind_txtOf {record : TxtRecord} (h : txtOf text = some record) :
    record.behind = "" := by
  unfold txtOf txtRecord at h
  split at h
  · cases h
    rfl
  · cases h

/-- Records are read as their strings are when their roles are settled. -/
theorem readTxt_of_same {records alones : List TxtRecord}
    (h : List.Forall₂ SameTxt records alones)
    (hsettled : forall alone, alone ∈ alones -> alone.behind = "" ∧
      (keyStarts "role" alone = true -> Settled alone.value))
    (device : DeviceInfo) : readTxt device records = readTxt device alones := by
  induction h generalizing device with
  | nil => rfl
  | cons hsame _ ih =>
      have hfirst := hsettled _ List.mem_cons_self
      rw [readTxt_cons, readTxt_cons, refuses_of_same hsame hfirst.1 hfirst.2,
        readTxtField_of_same hsame]
      rw [ih fun other hmem => hsettled other (List.mem_cons_of_mem _ hmem)]

variable {message stale : Bytes} {call : RecordCall}

/-- A TXT record adds the device its strings announce. -/
theorem queryCallback_txt (h : TxtAt message call texts)
    (hrtype : call.rtype = mdnsRecordtypeTxt)
    (hinside : call.recordOffset + call.recordLength <= message.length)
    (devices : List DeviceInfo) :
    queryCallback devices (answerOf (message ++ stale) call) =
      devices ++ (announced texts).toList := by
  have hdrop : (message ++ stale).drop call.recordOffset =
      strings texts ++ ((message ++ stale).drop
        (call.recordOffset + call.recordLength)) := by
    rw [← h.data, pieceAt, ← List.drop_drop,
      List.drop_append_of_le_length (by omega)]
    conv_lhs => rw [← List.take_append_drop call.recordLength (message.drop call.recordOffset ++ stale)]
    rw [List.take_append_of_le_length (by rw [List.length_drop]; omega)]
  have hlength : (strings texts).length = call.recordLength := by
    rw [← h.data, length_pieceAt hinside]
  have hsame := mdnsRecordParseTxt_strings h.short nbTxtbuffer
    (toChars ((message ++ stale).drop (call.recordOffset + call.recordLength)))
  rw [hlength, ← toChars_append, ← hdrop] at hsame
  have hread := readTxt_of_same hsame (fun alone hmem => by
    rcases List.mem_filterMap.mp (List.mem_of_mem_take hmem) with
      ⟨text, htext, halone⟩
    exact ⟨behind_txtOf halone, h.settled text alone htext halone⟩) {}
  unfold answerOf
  rw [if_pos hrtype]
  show addAnswer devices _ = _
  unfold addAnswer announced
  rw [hread]
  cases readTxt {} ((texts.filterMap txtOf).take nbTxtbuffer) with
  | none => exact (List.append_nil _).symm
  | some device => rfl

/-!
## Runs of datagrams
-/

theorem RecordsFrom.recordAt {start finish : Nat} {calls : List RecordCall}
    (h : RecordsFrom message start calls finish) :
    forall call, call ∈ calls -> RecordAt message call := by
  induction h with
  | nil offset =>
      intro call hmem
      cases hmem
  | cons hrecord _ ih =>
      intro call hmem
      rcases List.mem_cons.mp hmem with rfl | hmem
      · exact hrecord
      · exact ih call hmem

/-- The records of a message add the devices of its TXT records, in order. -/
theorem foldl_queryCallback_of_txts {calls : List RecordCall}
    {txts : List (List Bytes)}
    (hinside : forall call, call ∈ calls -> RecordAt message call)
    (h : List.Forall₂ (TxtAt message)
      (calls.filter fun call => call.rtype = mdnsRecordtypeTxt) txts)
    (devices : List DeviceInfo) :
    (calls.map (answerOf (message ++ stale))).foldl queryCallback devices =
      devices ++ txts.filterMap announced := by
  induction calls generalizing txts devices with
  | nil =>
      cases h
      exact (List.append_nil _).symm
  | cons call rest ih =>
      have hlater : forall call, call ∈ rest -> RecordAt message call :=
        fun other hmem => hinside other (List.mem_cons_of_mem _ hmem)
      rw [List.map_cons, List.foldl_cons]
      by_cases hrtype : call.rtype = mdnsRecordtypeTxt
      · rw [List.filter_cons_of_pos (by simpa using hrtype)] at h
        cases h with
        | cons htxt hrest =>
            rw [queryCallback_txt htxt hrtype
              (hinside call List.mem_cons_self).inside, ih hlater hrest,
              List.append_assoc]
            congr 1
            cases hdevice : announced _ with
            | none => rw [List.filterMap_cons_none hdevice]; rfl
            | some device => rw [List.filterMap_cons_some hdevice]; rfl
      · rw [List.filter_cons_of_neg (by simpa using hrtype)] at h
        have hother : answerOf (message ++ stale) call = .other := by
          unfold answerOf
          rw [if_neg hrtype]
        rw [hother]
        exact ih hlater h devices

theorem length_recvfrom (block datagram : Bytes) :
    (recvfrom block datagram).length = block.length := by
  simp only [recvfrom, List.length_append, List.length_take, List.length_drop]
  omega

theorem mdnsQueryRecv_of_nonpos {block : Bytes} {ret : Nat} {onlyQueryId : Int}
    (h : onlyQueryId <= 0) :
    mdnsQueryRecv block ret onlyQueryId = mdnsQueryRecv block ret 0 := by
  have hnot : forall id : Nat, ¬ (0 < onlyQueryId ∧ (id : Int) ≠ onlyQueryId) :=
    fun id hother => absurd hother.1 (Int.not_lt.mpr h)
  unfold mdnsQueryRecv
  simp only [hnot, Int.lt_irrefl, false_and, if_false]

/-- Of an arriving datagram that fits the buffer the same records are handed on,
whatever arrived before. -/
theorem mdnsQueryRecv_recvfrom {block datagram : Bytes} (hblock : 12 <= block.length)
    (hfits : datagram.length <= block.length) (sent : Bool) :
    mdnsQueryRecv (recvfrom block datagram)
        (min datagram.length block.length) (sentQueryId sent) =
      some (recordsOf datagram) := by
  have hid : sentQueryId sent <= 0 := by
    cases sent <;> decide
  have hzeros : 12 <= (datagram ++ List.replicate 12 0).length := by
    rw [List.length_append, List.length_replicate]
    omega
  have hreceived := length_recvfrom block datagram
  rw [recvfrom, List.take_of_length_le hfits] at hreceived ⊢
  have hsame := mdnsQueryRecv_of_stale 0 (hblock.trans_eq hreceived.symm) hzeros
  rw [Nat.min_eq_left hfits, mdnsQueryRecv_of_nonpos hid, hsame, recordsOf]
  rcases mdnsQueryRecv_inside hzeros datagram.length 0 with ⟨calls, hrun, _⟩
  rw [hrun, Option.getD_some]

theorem recordAt_recordsOf (datagram : Bytes) :
    forall call, call ∈ recordsOf datagram -> RecordAt datagram call := by
  have hzeros : 12 <= (datagram ++ List.replicate 12 0).length := by
    rw [List.length_append, List.length_replicate]
    omega
  rcases mdnsQueryRecv_inside hzeros datagram.length 0 with
    ⟨calls, hrun, ⟨_, _, _, hfrom⟩, _⟩
  rw [List.take_left' rfl] at hfrom
  rw [recordsOf, hrun, Option.getD_some]
  exact hfrom.recordAt

/-- However the datagrams arrive and whatever the buffer holds, the devices added
are those that the TXT records announce, in the order of arrival. -/
theorem mdnsReceive_of_announces {block : Bytes} {arrivals : List (Bool × Bytes)}
    {txtss : List (List (List Bytes))} (hblock : 12 <= block.length)
    (h : List.Forall₂ (fun arrival txts =>
      arrival.2.length <= block.length ∧ AnnouncesAt arrival.2 txts) arrivals txtss) :
    exists answers, mdnsReceive block arrivals = some answers ∧
      forall devices, answers.foldl queryCallback devices =
        devices ++ txtss.flatten.filterMap announced := by
  induction arrivals generalizing block txtss with
  | nil =>
      cases h
      exact ⟨[], rfl, fun devices => (List.append_nil _).symm⟩
  | cons arrival rest ih =>
      rcases arrival with ⟨sent, datagram⟩
      cases h with
      | @cons _ txts _ txtss hfirst hrest =>
          rcases hfirst with ⟨hfits, htxts⟩
          have hsame := length_recvfrom block datagram
          have hlater := ih (hblock.trans_eq hsame.symm) (by rw [hsame]; exact hrest)
          rcases hlater with ⟨later, hrun, hdevices⟩
          refine ⟨(recordsOf datagram).map (answerOf (recvfrom block datagram)) ++ later,
            ?_, ?_⟩
          · simp [mdnsReceive, mdnsQueryRecv_recvfrom hblock hfits, hrun]
          · intro devices
            have hreceived : recvfrom block datagram =
                datagram ++ block.drop datagram.length := by
              rw [recvfrom, List.take_of_length_le hfits]
            rw [List.foldl_append, hreceived,
              foldl_queryCallback_of_txts (recordAt_recordsOf datagram) htxts,
              hdevices, List.flatten_cons, List.filterMap_append, List.append_assoc]

theorem announcesAt_standalone :
    AnnouncesAt standaloneDatagram
      [[[0x72, 0x6f, 0x6c, 0x65, 0x3d, 0x73, 0x74, 0x61, 0x6e, 0x64, 0x61, 0x6c,
        0x6f, 0x6e, 0x65]]] := by
  have hcalls : (recordsOf standaloneDatagram).filter
      (fun call => call.rtype = mdnsRecordtypeTxt) = [standaloneCall] := by decide
  unfold AnnouncesAt
  rw [hcalls]
  refine List.Forall₂.cons ?_ List.Forall₂.nil
  refine ⟨?_, by decide, ?_⟩
  · intro text hmem
    cases List.mem_singleton.mp hmem
    decide
  · intro text record hmem hrecord _
    cases List.mem_singleton.mp hmem
    have hvalue : record = ⟨"role", "standalone", ""⟩ := by
      have halone : txtOf [0x72, 0x6f, 0x6c, 0x65, 0x3d, 0x73, 0x74, 0x61, 0x6e, 0x64,
        0x61, 0x6c, 0x6f, 0x6e, 0x65] = some ⟨"role", "standalone", ""⟩ := by decide
      rw [halone] at hrecord
      exact (Option.some_inj.mp hrecord).symm
    intro _
    rw [hvalue]
/-- The records of a well-formed message. -/
theorem recordsOf_message {queryId : Nat}
    {answers authority additional : List RecordCall}
    (h : MessageAt message queryId answers authority additional) :
    recordsOf message = answers ++ authority ++ additional := by
  rw [recordsOf, mdnsQueryRecv_of_message h (fun hpos => absurd hpos (by decide)),
    Option.getD_some]

end
end Mdns
end Noc
