import Noc.Mdns.Query
import Noc.Mdns.Records

/-!
# Sent questions

What `mdns_multiquery_send` makes of questions: a datagram in which each of them
is read again, nothing when one of the names does not fit, and a buffer overrun
when a name fits but the type and the class behind it do not.
-/

namespace Noc
namespace Mdns

open Foundation.Wire

/-!
## Texts of labels
-/

/-- A label that a length byte can stand before, and that no dot cuts. -/
structure Proper (label : Bytes) : Prop where
  nonempty : label ≠ []
  short : label.length < 192
  whole : dot ∉ label

def joined (labels : List Bytes) : Bytes :=
  [dot].intercalate labels

@[simp] theorem joined_nil : joined [] = [] := rfl

@[simp] theorem joined_singleton (label : Bytes) : joined [label] = label := by
  simp [joined]

theorem joined_cons_cons (label next : Bytes) (rest : List Bytes) :
    joined (label :: next :: rest) = label ++ dot :: joined (next :: rest) := by
  simp [joined, List.intercalate_cons_cons]

section

variable {label text : Bytes} {labels : List Bytes}

theorem firstLabel_append (h : dot ∉ label) (text : Bytes) :
    firstLabel (label ++ dot :: text) = label := by
  unfold firstLabel
  rw [List.takeWhile_append_of_pos fun byte hmem => by
    simpa using fun heq : byte = dot => h (heq ▸ hmem)]
  simp

theorem firstLabel_of_whole (h : dot ∉ label) : firstLabel label = label := by
  unfold firstLabel
  rw [List.takeWhile_eq_self_iff]
  intro byte hmem
  simpa using fun heq : byte = dot => h (heq ▸ hmem)

theorem behindLabel_append (h : dot ∉ label) (text : Bytes) :
    behindLabel (label ++ dot :: text) = text := by
  unfold behindLabel
  rw [List.dropWhile_append_of_pos fun byte hmem => by
    simpa using fun heq : byte = dot => h (heq ▸ hmem)]
  simp

theorem behindLabel_of_whole (h : dot ∉ label) : behindLabel label = [] := by
  unfold behindLabel
  rw [List.dropWhile_eq_nil_iff.mpr fun byte hmem => by
    simpa using fun heq : byte = dot => h (heq ▸ hmem)]
  rfl

theorem firstLabel_joined (h : dot ∉ label) :
    firstLabel (joined (label :: labels)) = label := by
  cases labels with
  | nil => rw [joined_singleton, firstLabel_of_whole h]
  | cons next rest => rw [joined_cons_cons, firstLabel_append h]

theorem behindLabel_joined (h : dot ∉ label) :
    behindLabel (joined (label :: labels)) = joined labels := by
  cases labels with
  | nil => rw [joined_singleton, behindLabel_of_whole h, joined_nil]
  | cons next rest => rw [joined_cons_cons, behindLabel_append h]

theorem joined_cons_ne_nil (h : label ≠ []) : joined (label :: labels) ≠ [] := by
  cases labels with
  | nil => rwa [joined_singleton]
  | cons next rest => simp [joined_cons_cons]

theorem length_joined (h : forall label, label ∈ labels -> label ≠ []) :
    labels.length <= (joined labels).length := by
  induction labels with
  | nil => exact Nat.le_refl 0
  | cons label rest ih =>
      have hfirst := List.length_pos_of_ne_nil (h label List.mem_cons_self)
      have hrest := ih fun other hmem => h other (List.mem_cons_of_mem _ hmem)
      cases rest with
      | nil =>
          rw [joined_singleton]
          exact hfirst
      | cons next rest =>
          rw [joined_cons_cons]
          simp only [List.length_append, List.length_cons] at hrest ⊢
          omega

end

/-!
## Writing
-/

section

variable {buffer bytes later : Bytes} {offset : Nat}

theorem writeAt_of_le (h : offset + bytes.length <= buffer.length) :
    writeAt buffer offset bytes =
      some (buffer.take offset ++ bytes ++
        buffer.drop (offset + bytes.length)) := by
  rw [writeAt, if_pos h]

theorem writeAt_of_lt (h : buffer.length < offset + bytes.length) :
    writeAt buffer offset bytes = none := by
  rw [writeAt, if_neg (Nat.not_le.mpr h)]

/-- The bytes in front of the place are kept, and the buffer its size. -/
def placed (buffer : Bytes) (offset : Nat) (bytes : Bytes) : Bytes :=
  buffer.take offset ++ bytes ++ buffer.drop (offset + bytes.length)

theorem length_placed (h : offset + bytes.length <= buffer.length) :
    (placed buffer offset bytes).length = buffer.length := by
  simp only [placed, List.length_append, List.length_take, List.length_drop]
  omega

theorem placed_placed (h : offset + bytes.length <= buffer.length) (later : Bytes) :
    placed (placed buffer offset bytes) (offset + bytes.length) later =
      placed buffer offset (bytes ++ later) := by
  have hfront : (buffer.take offset ++ bytes).length = offset + bytes.length := by
    rw [List.length_append, List.length_take]
    omega
  unfold placed
  rw [List.take_left' hfront, List.drop_append, hfront]
  simp only [List.drop_drop, List.append_assoc, List.length_append]
  rw [List.drop_of_length_le (by rw [List.length_append, List.length_take]; omega)]
  congr 3
  rw [List.nil_append]
  congr 1
  omega

end

/-!
## A name without a table
-/

section

variable {buffer : Bytes} {labels : List Bytes}

theorem makeFrom_of_ne_nil {text : Bytes} (h : text ≠ []) (fuel : Nat)
    (written : Written) :
    makeFrom (fuel + 1) written text =
      (mdnsStringTableFind written.table written.buffer text).bind fun found =>
        match found with
        | some refOffset => mdnsStringMakeRef written refOffset
        | none =>
            if written.buffer.length - written.data <=
                (firstLabel text).length + 1 then some none
            else
              (writeAt written.buffer written.data
                (UInt8.ofNat (firstLabel text).length :: firstLabel text)).bind
                fun buffer => makeFrom fuel
                  { buffer := buffer
                    data := written.data + ((firstLabel text).length + 1)
                    table := written.table.map
                      (mdnsStringTableAdd · written.data) }
                  (behindLabel text) := by
  cases text with
  | nil => exact absurd rfl h
  | cons byte rest => rfl

/-- The labels are written when there is room for all of them and the byte that
ends the name. -/
theorem makeFrom_joined (hproper : forall label, label ∈ labels -> Proper label)
    (fuel : Nat) (hfuel : labels.length <= fuel) (buffer : Bytes) (data : Nat) :
    makeFrom fuel { buffer, data, table := none } (joined labels) =
      if data + (encodeName labels).length <= buffer.length then
        some (some
          { buffer := placed buffer data (encodeName labels)
            data := data + (encodeName labels).length
            table := none })
      else some none := by
  induction labels generalizing fuel buffer data with
  | nil =>
      have hlength : (encodeName ([] : List Bytes)).length = 1 := rfl
      rw [joined_nil, hlength]
      have hsplit : makeFrom fuel { buffer, data, table := none } [] =
          if buffer.length - data = 0 then some none
          else (writeAt buffer data [0]).bind fun buffer =>
            some (some { buffer, data := data + 1, table := none }) := by
        cases fuel <;> rfl
      rw [hsplit]
      by_cases hroom : data + 1 <= buffer.length
      · rw [if_neg (by omega), if_pos hroom, writeAt_of_le hroom]
        rfl
      · rw [if_pos (by omega), if_neg hroom]
  | cons label rest ih =>
      have hlabel := hproper label List.mem_cons_self
      have hrest := ih fun other hmem => hproper other (List.mem_cons_of_mem _ hmem)
      have hcount : (encodeName (label :: rest)).length =
          label.length + 1 + (encodeName rest).length := by
        rw [encodeName_cons, List.length_append, List.length_cons]
      have hlast : 1 <= (encodeName rest).length := by
        rw [encodeName, List.length_append, List.length_singleton]
        omega
      cases fuel with
      | zero => exact absurd hfuel (by simp)
      | succ fuel =>
          have hsize : (UInt8.ofNat label.length :: label).length =
              label.length + 1 := rfl
          rw [makeFrom_of_ne_nil (joined_cons_ne_nil hlabel.nonempty),
            firstLabel_joined hlabel.whole, behindLabel_joined hlabel.whole, hcount]
          show (if buffer.length - data <= label.length + 1 then some none else
            (writeAt buffer data (UInt8.ofNat label.length :: label)).bind
              fun buffer => makeFrom fuel
                { buffer, data := data + (label.length + 1), table := none }
                (joined rest)) = _
          by_cases hroom : data + (label.length + 1) < buffer.length
          · rw [if_neg (by omega), writeAt_of_le (by rw [hsize]; omega),
              Option.bind_some, hrest fuel (Nat.le_of_succ_le_succ hfuel),
              ← placed, length_placed (by rw [hsize]; omega), ← hsize,
              placed_placed (by rw [hsize]; omega), ← encodeName_cons]
            simp only [hsize, Nat.add_assoc]
          · rw [if_pos (by omega), if_neg (by omega)]

/-- The last byte of a text of labels is none of its dots. -/
theorem exists_getLast_joined (hne : labels ≠ [])
    (hproper : forall label, label ∈ labels -> Proper label) :
    exists last, (joined labels).getLast? = some last ∧ last ≠ dot := by
  induction labels with
  | nil => exact absurd rfl hne
  | cons label rest ih =>
      have hlabel := hproper label List.mem_cons_self
      cases rest with
      | nil =>
          rw [joined_singleton, List.getLast?_eq_some_getLast hlabel.nonempty]
          refine ⟨_, rfl, ?_⟩
          intro heq
          exact hlabel.whole (heq ▸ List.getLast_mem hlabel.nonempty)
      | cons next rest =>
          rcases ih (List.cons_ne_nil _ _) fun other hmem =>
            hproper other (List.mem_cons_of_mem _ hmem) with ⟨last, hlast, hother⟩
          refine ⟨last, ?_, hother⟩
          rw [joined_cons_cons, List.getLast?_append, List.getLast?_cons, hlast]
          rfl

/-- The text of a name, with or without a dot at its end. -/
def nameText (labels : List Bytes) (trailing : Bool) : Bytes :=
  joined labels ++ if trailing then [dot] else []

theorem mdnsStringMake_nameText (hne : labels ≠ [])
    (hproper : forall label, label ∈ labels -> Proper label) (trailing : Bool)
    (written : Written) :
    mdnsStringMake written (nameText labels trailing) =
      makeFrom (joined labels).length written (joined labels) := by
  unfold mdnsStringMake nameText
  cases trailing with
  | true => simp
  | false =>
      rcases exists_getLast_joined hne hproper with ⟨last, hlast, hother⟩
      simp [hlast, hother]

/-!
## Questions
-/

/-- A question: the labels of its name, whether a dot ends the text of it, and
the type. -/
structure Asked where
  labels : List Bytes
  trailing : Bool
  type : Nat

namespace Asked

def query (asked : Asked) : MdnsQuery where
  type := asked.type
  name := nameText asked.labels asked.trailing

structure Valid (asked : Asked) : Prop where
  nonempty : asked.labels ≠ []
  proper : forall label, label ∈ asked.labels -> Proper label
  type : asked.type < 65536

def encode (rclass : Nat) (asked : Asked) : Bytes :=
  encodeName asked.labels ++ (u16 asked.type ++ u16 rclass)

end Asked

inductive Room where
  | enough
  | refused
  | overrun
  deriving DecidableEq

/-- A name that does not fit is refused; for the four bytes behind a name that
does there is room or the buffer is overrun. -/
def roomFor (capacity : Nat) : Nat -> List Asked -> Room
  | _, [] => .enough
  | data, asked :: rest =>
      if capacity < data + (encodeName asked.labels).length then .refused
      else if capacity < data + (encodeName asked.labels).length + 4 then .overrun
      else roomFor capacity (data + (encodeName asked.labels).length + 4) rest

def encodeAll (rclass : Nat) (asked : List Asked) : Bytes :=
  asked.flatMap (Asked.encode rclass)

theorem fillQuestions_asked {asked : List Asked}
    (hvalid : forall one, one ∈ asked -> one.Valid) (rclass : Nat)
    (buffer : Bytes) (data : Nat) (hdata : data <= buffer.length) :
    fillQuestions rclass { buffer, data, table := none }
        (asked.map Asked.query) =
      match roomFor buffer.length data asked with
      | .enough => some (some
          { buffer := placed buffer data (encodeAll rclass asked)
            data := data + (encodeAll rclass asked).length
            table := none })
      | .refused => some none
      | .overrun => none := by
  induction asked generalizing buffer data with
  | nil => simp [fillQuestions, roomFor, encodeAll, placed]
  | cons one rest ih =>
      have hone := hvalid one List.mem_cons_self
      have hrest := ih fun other hmem => hvalid other (List.mem_cons_of_mem _ hmem)
      have hmake := mdnsStringMake_nameText hone.nonempty hone.proper one.trailing
        { buffer, data, table := none }
      rw [makeFrom_joined hone.proper _ (length_joined fun label hmem =>
        (hone.proper label hmem).nonempty)] at hmake
      rw [List.map_cons, fillQuestions, roomFor]
      show (mdnsStringMake _ (nameText one.labels one.trailing)).bind _ = _
      rw [hmake]
      by_cases hname : data + (encodeName one.labels).length <= buffer.length
      · let name := encodeName one.labels
        let fields := u16 one.type ++ u16 rclass
        have hfields : fields.length = 4 := rfl
        have hwritten : (placed buffer data name).length = buffer.length :=
          length_placed hname
        rw [if_pos hname, if_neg (Nat.not_lt.mpr hname), Option.bind_some]
        show (writeAt (placed buffer data name) (data + name.length) fields).bind _ = _
        by_cases hroom : data + name.length + 4 <= buffer.length
        · have hboth : data + (name ++ fields).length <= buffer.length := by
            rw [List.length_append]
            omega
          have hlater := hrest (placed buffer data (name ++ fields))
            (data + name.length + 4) (by rw [length_placed hboth]; omega)
          rw [length_placed hboth] at hlater
          rw [if_neg (Nat.not_lt.mpr hroom), writeAt_of_le (by omega), ← placed,
            Option.bind_some, placed_placed hname]
          show fillQuestions rclass _ (rest.map Asked.query) = _
          rw [hlater]
          cases roomFor buffer.length (data + name.length + 4) rest with
          | refused => rfl
          | overrun => rfl
          | enough =>
              have hnext : data + name.length + 4 = data + (name ++ fields).length := by
                rw [List.length_append, hfields, Nat.add_assoc]
              have hall : encodeAll rclass (one :: rest) =
                  (name ++ fields) ++ encodeAll rclass rest := rfl
              simp only [hnext, placed_placed hboth, hall]
              have hlength : ((name ++ fields) ++ encodeAll rclass rest).length =
                  (name ++ fields).length + (encodeAll rclass rest).length :=
                List.length_append
              rw [hlength, ← Nat.add_assoc]
        · rw [if_pos (Nat.lt_of_not_le hroom), writeAt_of_lt (by omega)]
          rfl
      · rw [if_neg hname, if_pos (Nat.lt_of_not_le hname)]
        rfl

end

/-!
## The datagram
-/

section

variable {buffer : Bytes}

def header (queryId questions : Nat) : Bytes :=
  u16 queryId ++ u16 0 ++ u16 questions ++ u16 0 ++ u16 0 ++ u16 0

theorem roomFor_le {capacity : Nat} (asked : List Asked) (rclass : Nat) {data : Nat}
    (hdata : data <= capacity) (h : roomFor capacity data asked = .enough) :
    data + (encodeAll rclass asked).length <= capacity := by
  induction asked generalizing data with
  | nil => exact hdata
  | cons one rest ih =>
      unfold roomFor at h
      split at h
      · cases h
      · split at h
        · cases h
        · have hlater := ih (by omega) h
          have hfields : (u16 one.type ++ u16 rclass).length = 4 := rfl
          show data + ((encodeName one.labels ++ (u16 one.type ++ u16 rclass)) ++
            encodeAll rclass rest).length <= capacity
          rw [List.length_append, List.length_append, hfields]
          omega

/-- The questions are sent when there is room for all of them. -/
theorem mdnsMultiquerySend_asked {asked : List Asked} (hne : asked ≠ [])
    (hvalid : forall one, one ∈ asked -> one.Valid)
    (hheader : sizeofHeader + 6 * asked.length <= buffer.length) (queryId : Nat)
    (onMdnsPort : Bool) :
    mdnsMultiquerySend buffer (asked.map Asked.query) queryId onMdnsPort =
      match roomFor buffer.length sizeofHeader asked with
      | .enough => some (some (header queryId asked.length ++
          encodeAll (if onMdnsPort then 1 else 0x8001) asked))
      | .refused => some none
      | .overrun => none := by
  have hcount : (asked.map Asked.query).length = asked.length := List.length_map _
  have hpos := List.length_pos_of_ne_nil hne
  have htwelve : (header queryId asked.length).length = 12 := rfl
  have hfits : 0 + (header queryId asked.length).length <= buffer.length := by
    unfold sizeofHeader at hheader
    omega
  have hclass : (if onMdnsPort then mdnsClassIn
      else mdnsClassIn ||| mdnsUnicastResponse) =
        if onMdnsPort then 1 else 0x8001 := by
    cases onMdnsPort <;> rfl
  unfold mdnsMultiquerySend
  rw [hcount, if_neg (by omega)]
  simp only [hclass]
  show (writeAt buffer 0 (header queryId asked.length)).bind _ = _
  have hplaced : (placed buffer 0 (header queryId asked.length)).length =
      buffer.length := length_placed hfits
  have hfill := fillQuestions_asked hvalid (if onMdnsPort then 1 else 0x8001)
    (placed buffer 0 (header queryId asked.length)) sizeofHeader (by
      rw [hplaced]
      unfold sizeofHeader
      omega)
  rw [hplaced] at hfill
  rw [writeAt_of_le hfits, ← placed, Option.bind_some]
  show (fillQuestions _ _ _).bind _ = _
  rw [hfill]
  cases hroom : roomFor buffer.length sizeofHeader asked with
  | refused => rfl
  | overrun => rfl
  | enough =>
      have hall := roomFor_le asked (if onMdnsPort then 1 else 0x8001) (by
        unfold sizeofHeader
        omega) hroom
      have hjoin : placed (placed buffer 0 (header queryId asked.length))
          sizeofHeader (encodeAll (if onMdnsPort then 1 else 0x8001) asked) =
            placed buffer 0 (header queryId asked.length ++
              encodeAll (if onMdnsPort then 1 else 0x8001) asked) :=
        placed_placed hfits _
      show some (some ((placed _ _ _).take _)) = _
      rw [hjoin, placed, List.take_zero, List.nil_append, List.take_left']
      rw [List.length_append]
      rfl

/-!
## Questions read again
-/

/-- Questions of a message for a class, one behind the other. -/
inductive AskedFrom (message : Bytes) (rclass : Nat) :
    Nat -> List Asked -> Nat -> Prop where
  | nil (offset : Nat) : AskedFrom message rclass offset [] offset
  | cons {offset ending finish : Nat} {asked : Asked} {rest : List Asked}
      (hname : NameAt message 0 offset asked.labels)
      (hends : EndsAt message offset ending)
      (htype : u16At message ending = some asked.type)
      (hclass : u16At message (ending + 2) = some rclass)
      (hrest : AskedFrom message rclass (ending + 4) rest finish) :
      AskedFrom message rclass offset (asked :: rest) finish

theorem Proper.isLabel {label : Bytes} (h : Proper label) : IsLabel label :=
  ⟨h.nonempty, h.short⟩

theorem askedFrom_encodeAll {asked : List Asked}
    (hvalid : forall one, one ∈ asked -> one.Valid) {rclass : Nat}
    (hrclass : rclass < 65536) (front : Bytes) :
    AskedFrom (front ++ encodeAll rclass asked) rclass front.length asked
      (front ++ encodeAll rclass asked).length := by
  induction asked generalizing front with
  | nil =>
      rw [encodeAll, List.flatMap_nil, List.append_nil]
      exact AskedFrom.nil _
  | cons one rest ih =>
      have hone := hvalid one List.mem_cons_self
      have hmessage : front ++ encodeAll rclass (one :: rest) =
          front ++ (encodeName one.labels ++
            (u16 one.type ++ (u16 rclass ++ encodeAll rclass rest))) := by
        simp [encodeAll, Asked.encode]
      rcases nameAt_encodeName (fun label hmem => (hone.proper label hmem).isLabel)
        front (u16 one.type ++ (u16 rclass ++ encodeAll rclass rest)) 0 with
          ⟨hname, hends⟩
      have htype := u16At_u16 (front ++ encodeName one.labels) hone.type
        (u16 rclass ++ encodeAll rclass rest)
      have hclass := u16At_u16 (front ++ encodeName one.labels ++ u16 one.type)
        hrclass (encodeAll rclass rest)
      have hlater := ih (fun other hmem => hvalid other (List.mem_cons_of_mem _ hmem))
        (front ++ encodeName one.labels ++ u16 one.type ++ u16 rclass)
      simp only [List.append_assoc, List.length_append, length_u16, ← Nat.add_assoc]
        at htype hclass hlater
      rw [hmessage]
      refine AskedFrom.cons hname hends htype hclass ?_
      simpa only [List.length_append, length_u16, ← Nat.add_assoc] using hlater

/-- The datagram asks the questions, all of them and nothing else. -/
structure QueryAt (message : Bytes) (queryId rclass : Nat) (asked : List Asked) :
    Prop where
  id : u16At message 0 = some queryId
  flags : u16At message 2 = some 0
  questions : u16At message 4 = some asked.length
  answerRrs : u16At message 6 = some 0
  authorityRrs : u16At message 8 = some 0
  additionalRrs : u16At message 10 = some 0
  body : AskedFrom message rclass sizeofHeader asked message.length

theorem queryAt_header {asked : List Asked}
    (hvalid : forall one, one ∈ asked -> one.Valid) {queryId rclass : Nat}
    (hqueryId : queryId < 65536) (hrclass : rclass < 65536)
    (hcount : asked.length < 65536) :
    QueryAt (header queryId asked.length ++ encodeAll rclass asked) queryId rclass
      asked where
  id := u16At_u16 [] hqueryId _
  flags := u16At_u16 (u16 queryId) (by decide) _
  questions := u16At_u16 (u16 queryId ++ u16 0) hcount _
  answerRrs := u16At_u16 (u16 queryId ++ u16 0 ++ u16 asked.length) (by decide) _
  authorityRrs := u16At_u16 (u16 queryId ++ u16 0 ++ u16 asked.length ++ u16 0)
    (by decide) _
  additionalRrs := u16At_u16
    (u16 queryId ++ u16 0 ++ u16 asked.length ++ u16 0 ++ u16 0) (by decide) _
  body := askedFrom_encodeAll hvalid hrclass (header queryId asked.length)

/-!
## What becomes of questions
-/

/-- The bytes of questions. -/
def packed : List Asked -> Nat
  | [] => 0
  | one :: rest => (encodeName one.labels).length + 4 + packed rest

@[simp] theorem packed_nil : packed [] = 0 := rfl

theorem packed_cons (one : Asked) (rest : List Asked) :
    packed (one :: rest) = (encodeName one.labels).length + 4 + packed rest := rfl

/-- For the name of a question there is room, but not for the type and the class
behind it. -/
def Cut (capacity data : Nat) (asked : List Asked) : Prop :=
  exists before one after, asked = before ++ one :: after ∧
    data + packed before + (encodeName one.labels).length <= capacity ∧
    capacity < data + packed before + (encodeName one.labels).length + 4

theorem cut_cons {capacity data : Nat} {one : Asked} {rest : List Asked} :
    Cut capacity data (one :: rest) <->
      (data + (encodeName one.labels).length <= capacity ∧
        capacity < data + (encodeName one.labels).length + 4) ∨
      Cut capacity (data + (encodeName one.labels).length + 4) rest := by
  constructor
  · rintro ⟨before, cut, after, hsplit, hname, hfields⟩
    cases before with
    | nil =>
        cases hsplit
        exact Or.inl ⟨hname, hfields⟩
    | cons first before =>
        cases hsplit
        rw [packed_cons] at hname hfields
        exact Or.inr ⟨before, cut, after, rfl, by omega, by omega⟩
  · rintro (⟨hname, hfields⟩ | ⟨before, cut, after, rfl, hname, hfields⟩)
    · exact ⟨[], one, rest, rfl, hname, hfields⟩
    · refine ⟨one :: before, cut, after, rfl, ?_, ?_⟩
      · rw [packed_cons]
        omega
      · rw [packed_cons]
        omega

theorem roomFor_iff {capacity data : Nat} (asked : List Asked)
    (hdata : data <= capacity) :
    (roomFor capacity data asked = .enough <-> data + packed asked <= capacity) ∧
      (roomFor capacity data asked = .overrun <-> Cut capacity data asked) := by
  induction asked generalizing data with
  | nil =>
      refine ⟨iff_of_true rfl hdata, iff_of_false Room.noConfusion ?_⟩
      rintro ⟨before, one, after, hsplit, _⟩
      simp at hsplit
  | cons one rest ih =>
      rw [packed_cons, cut_cons, roomFor]
      by_cases hname : capacity < data + (encodeName one.labels).length
      · rw [if_pos hname]
        refine ⟨iff_of_false (by decide) (by omega), iff_of_false (by decide) ?_⟩
        rintro (⟨hfits, _⟩ | ⟨before, cut, after, _, hfits, _⟩)
        · omega
        · omega
      · rw [if_neg hname]
        by_cases hfields : capacity < data + (encodeName one.labels).length + 4
        · rw [if_pos hfields]
          exact ⟨iff_of_false (by decide) (by omega),
            iff_of_true rfl (Or.inl ⟨Nat.le_of_not_lt hname, hfields⟩)⟩
        · rw [if_neg hfields, (ih (Nat.le_of_not_lt hfields)).1,
            (ih (Nat.le_of_not_lt hfields)).2]
          constructor
          · rw [← Nat.add_assoc, ← Nat.add_assoc]
          · exact ⟨Or.inr, fun h => h.resolve_left fun hcut => hfields hcut.2⟩

/-- The buffer is overrun when, and only when, it cuts a question behind its
name.  A datagram is sent exactly when there is room for all questions, and it
asks them. -/
theorem mdnsMultiquerySend_queryAt {asked : List Asked} (hne : asked ≠ [])
    (hvalid : forall one, one ∈ asked -> one.Valid)
    (hheader : sizeofHeader + 6 * asked.length <= buffer.length)
    (hcount : asked.length < 65536) {queryId : Nat} (hqueryId : queryId < 65536)
    (onMdnsPort : Bool) :
    (mdnsMultiquerySend buffer (asked.map Asked.query) queryId onMdnsPort = none <->
      Cut buffer.length sizeofHeader asked) ∧
    ((exists datagram, mdnsMultiquerySend buffer (asked.map Asked.query) queryId
        onMdnsPort = some (some datagram)) <->
      sizeofHeader + packed asked <= buffer.length) ∧
    forall datagram, mdnsMultiquerySend buffer (asked.map Asked.query) queryId
        onMdnsPort = some (some datagram) ->
      QueryAt datagram queryId (if onMdnsPort then 1 else 0x8001) asked := by
  have hroom := roomFor_iff asked (show sizeofHeader <= buffer.length by omega)
  have hsent := mdnsMultiquerySend_asked hne hvalid hheader queryId onMdnsPort
  have hread : QueryAt _ queryId (if onMdnsPort then 1 else 0x8001) asked :=
    queryAt_header hvalid hqueryId (by cases onMdnsPort <;> decide) hcount
  rw [← hroom.1, ← hroom.2, hsent]
  cases roomFor buffer.length sizeofHeader asked with
  | enough =>
      refine ⟨by simp, by simp, ?_⟩
      rintro datagram ⟨⟩
      exact hread
  | refused => exact ⟨by simp, by simp, by simp⟩
  | overrun => exact ⟨by simp, by simp, by simp⟩

/-- The question for the devices of `_noc._tcp.local.`, in the buffer it is
written to. -/
theorem mdnsMultiquerySend_queryAt_noc :
    let asked : Asked :=
      { labels := [[0x5f, 0x6e, 0x6f, 0x63], [0x5f, 0x74, 0x63, 0x70],
          [0x6c, 0x6f, 0x63, 0x61, 0x6c]]
        trailing := true
        type := 12 }
    exists datagram, mdnsMultiquerySend (List.replicate 2048 0) [asked.query] 0 false =
      some (some datagram) := by
  intro asked
  have hproper : forall one, one ∈ [asked] -> one.Valid := by
    intro one hmem
    cases List.mem_singleton.mp hmem
    refine ⟨by decide, ?_, by decide⟩
    intro label hlabel
    simp only [asked, List.mem_cons, List.not_mem_nil, or_false] at hlabel
    rcases hlabel with rfl | rfl | rfl
    · exact ⟨by decide, by decide, by decide⟩
    · exact ⟨by decide, by decide, by decide⟩
    · exact ⟨by decide, by decide, by decide⟩
  have hlength : (List.replicate 2048 (0 : UInt8)).length = 2048 :=
    List.length_replicate
  have hall := mdnsMultiquerySend_queryAt (List.cons_ne_nil asked []) hproper
    (by rw [hlength]; decide) (by decide) (show 0 < 65536 by decide) false
  exact hall.2.1.mpr (by rw [hlength]; decide)

end

end Mdns
end Noc
