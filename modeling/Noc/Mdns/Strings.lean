import Noc.Foundation.Wire

/-!
# Names in a received message

`mdns_get_next_substring`, `mdns_string_skip` and `mdns_string_extract` of
`lib/mdns/mdns.h`.  A buffer and its size are a list of bytes; there is no
result when a byte outside of it is read.
-/

namespace Noc
namespace Mdns

open Foundation.Wire

/-- `mdns_string_pair_t`; no offset is `MDNS_INVALID_POS`. -/
structure MdnsStringPair where
  offset : Option Nat := none
  length : Nat := 0
  ref : Bool := false
  deriving DecidableEq

def mdnsMaxSubstrings : Nat := 64

/-- References that may follow one another. -/
def maxRecursion : Nat := 16

def mdnsIsStringRef (val : UInt8) : Bool :=
  val &&& 0xC0 == 0xC0

inductive Reference where
  /-- The byte is none. -/
  | plain
  | refused
  | target (offset : Nat)

def mdnsStringRef (buffer : Bytes) (offset : Nat) : Option Reference := do
  let val <- buffer[offset]?
  if mdnsIsStringRef val = false then return .plain
  else if buffer.length < offset + 2 then return .refused
  else
    let target := (<- u16At buffer offset) &&& 0x3fff
    if buffer.length <= target then return .refused else return .target target

/-- The loop over references: the offset it ends at, none when it leaves the
buffer or takes too long, and whether there was a reference. -/
def followRefs (buffer : Bytes) : Nat -> Nat -> Bool -> Option (Option Nat × Bool)
  | 0, offset, ref => do
      match <- mdnsStringRef buffer offset with
      | .plain => return (some offset, ref)
      | .refused => return (none, ref)
      | .target _ => return (none, true)
  | recursion + 1, offset, ref => do
      match <- mdnsStringRef buffer offset with
      | .plain => return (some offset, ref)
      | .refused => return (none, ref)
      | .target target => followRefs buffer recursion target true

def mdnsGetNextSubstring (buffer : Bytes) (offset : Nat) :
    Option MdnsStringPair := do
  if buffer.length <= offset then return {}
  else
    let first <- buffer[offset]?
    if first = 0 then return { offset := some offset }
    else
      match <- followRefs buffer maxRecursion offset false with
      | (none, ref) => return { ref := ref }
      | (some offset, ref) =>
          let length <- buffer[offset]?
          if buffer.length < offset + 1 + length.toNat then return { ref := ref }
          else
            return { offset := some (offset + 1), length := length.toNat,
                     ref := ref }

def skipFrom (buffer : Bytes) : Nat -> Nat -> Option (Option Nat)
  | 0, cur => do
      let _ <- mdnsGetNextSubstring buffer cur
      return none
  | counter + 1, cur => do
      let substr <- mdnsGetNextSubstring buffer cur
      match substr.offset with
      | none => return none
      | some offset =>
          if substr.ref then return some (cur + 2)
          else if substr.length = 0 then return some (offset + substr.length + 1)
          else skipFrom buffer counter (offset + substr.length)

/-- The offset behind the string, none when the string is refused. -/
def mdnsStringSkip (buffer : Bytes) (offset : Nat) : Option (Option Nat) :=
  skipFrom buffer (mdnsMaxSubstrings + 1) offset

/-- What is copied of a substring, with a dot behind it, when so many bytes
remain. -/
def copySubstring (buffer : Bytes) (offset length remain : Nat) : Bytes :=
  if length < remain then pieceAt buffer offset length ++ [0x2e]
  else pieceAt buffer offset remain

def extractFrom (buffer : Bytes) :
    Nat -> Nat -> Option Nat -> Bytes -> Nat -> Option (Option (Nat × Bytes))
  | 0, cur, _, _, _ => do
      let _ <- mdnsGetNextSubstring buffer cur
      return none
  | counter + 1, cur, finish, dst, remain => do
      let substr <- mdnsGetNextSubstring buffer cur
      match substr.offset with
      | none => return none
      | some offset =>
          let finish := if substr.ref then some (finish.getD (cur + 2)) else finish
          if substr.length = 0 then
            return some (finish.getD (offset + substr.length + 1), dst)
          else
            let copied := copySubstring buffer offset substr.length remain
            extractFrom buffer counter (offset + substr.length) finish
              (dst ++ copied) (remain - copied.length)

/-- The offset behind the string and what is written to the destination, none
when the string is refused. -/
def mdnsStringExtract (buffer : Bytes) (offset capacity : Nat) :
    Option (Option (Nat × Bytes)) :=
  extractFrom buffer (mdnsMaxSubstrings + 1) offset none [] capacity

/-!
## References
-/

theorem mdnsIsStringRef_iff {val : UInt8} :
    mdnsIsStringRef val = true <-> IsRef val := by
  have hall : forall byte : BitVec 8,
      byte &&& 0xC0#8 = 0xC0#8 <-> 192 <= byte.toNat := by decide
  unfold mdnsIsStringRef IsRef
  rw [beq_iff_eq, ← UInt8.toBitVec_inj]
  exact hall val.toBitVec

theorem target_eq_mod (value : Nat) : value &&& 0x3fff = value % 0x4000 :=
  Nat.and_two_pow_sub_one_eq_mod value 14

section

variable {buffer : Bytes} {count recursion offset place : Nat} {ref : Bool}

/-- A byte of the buffer is plain, refused or leads on to another one. -/
theorem mdnsStringRef_cases (hoffset : offset < buffer.length) :
    (mdnsStringRef buffer offset = some .plain ∧ Leads buffer 0 offset offset) ∨
    (mdnsStringRef buffer offset = some .refused ∧
      forall count place, ¬ Leads buffer count offset place) ∨
    (exists target, mdnsStringRef buffer offset = some (.target target) ∧
      target < buffer.length ∧
      forall count place, Leads buffer count offset place <->
        exists fewer, count = fewer + 1 ∧ Leads buffer fewer target place) := by
  obtain ⟨byte, hbyte⟩ : exists byte, buffer[offset]? = some byte :=
    ⟨_, List.getElem?_eq_getElem hoffset⟩
  by_cases href : IsRef byte
  · right
    have hyes : mdnsIsStringRef byte = true := mdnsIsStringRef_iff.mpr href
    have hjump : forall {count place}, Leads buffer count offset place ->
        exists fewer target, count = fewer + 1 ∧
          u16At buffer offset = some target ∧
          Leads buffer fewer (target % 0x4000) place := by
      intro count place h
      cases h with
      | here hbyte' hplain =>
          rw [hbyte] at hbyte'
          cases hbyte'
          exact absurd href hplain
      | jump _ _ htarget hrest => exact ⟨_, _, rfl, htarget, hrest⟩
    by_cases hin : offset + 2 <= buffer.length
    · rcases exists_u16At buffer offset hin with ⟨target, htarget⟩
      by_cases hrange : target % 0x4000 < buffer.length
      · right
        refine ⟨target % 0x4000, ?_, hrange, ?_⟩
        · simp [mdnsStringRef, hbyte, hyes, htarget, target_eq_mod,
            Nat.not_lt.mpr hin, Nat.not_le.mpr hrange]
        · intro count place
          constructor
          · intro h
            rcases hjump h with ⟨fewer, other, hcount, hother, hrest⟩
            rw [htarget] at hother
            cases hother
            exact ⟨fewer, hcount, hrest⟩
          · rintro ⟨fewer, rfl, hrest⟩
            exact Leads.jump hbyte href htarget hrest
      · left
        constructor
        · simp [mdnsStringRef, hbyte, hyes, htarget, target_eq_mod,
            Nat.not_lt.mpr hin, Nat.not_lt.mp hrange]
        · intro count place h
          rcases hjump h with ⟨fewer, other, _, hother, hrest⟩
          rw [htarget] at hother
          cases hother
          exact hrange hrest.offset_lt
    · left
      constructor
      · simp [mdnsStringRef, hbyte, hyes, Nat.lt_of_not_le hin]
      · intro count place h
        rcases hjump h with ⟨fewer, other, _, hother, _⟩
        exact hin (length_of_u16At hother)
  · left
    have hnot : mdnsIsStringRef byte = false := by
      rw [← Bool.not_eq_true, mdnsIsStringRef_iff]
      exact href
    exact ⟨by simp [mdnsStringRef, hbyte, hnot], Leads.here hbyte href⟩

theorem followRefs_of_leads {recursion : Nat} (h : Leads buffer count offset place)
    (hcount : count <= recursion) (ref : Bool) :
    followRefs buffer recursion offset ref =
      some (some place, ref || decide (0 < count)) := by
  induction recursion generalizing count offset ref with
  | zero =>
      have hzero : count = 0 := Nat.le_zero.mp hcount
      rcases mdnsStringRef_cases h.offset_lt with
        ⟨hstep, hleads⟩ | ⟨_, hnone⟩ | ⟨target, _, _, hnext⟩
      · rcases hleads.unique h with ⟨_, rfl⟩
        simp [followRefs, hstep, hzero]
      · exact absurd h (hnone _ _)
      · rcases (hnext _ _).mp h with ⟨fewer, hsucc, _⟩
        omega
  | succ recursion ih =>
      rcases mdnsStringRef_cases h.offset_lt with
        ⟨hstep, hleads⟩ | ⟨_, hnone⟩ | ⟨target, hstep, _, hnext⟩
      · rcases hleads.unique h with ⟨rfl, rfl⟩
        simp [followRefs, hstep]
      · exact absurd h (hnone _ _)
      · rcases (hnext _ _).mp h with ⟨fewer, rfl, hrest⟩
        have hfollow := ih hrest (Nat.le_of_succ_le_succ hcount) true
        simp [followRefs, hstep, hfollow]

theorem exists_followRefs (recursion : Nat) (ref : Bool)
    (hoffset : offset < buffer.length) :
    exists found, followRefs buffer recursion offset ref = some found ∧
      forall place, found.1 = some place ->
        exists count, count <= recursion ∧ Leads buffer count offset place := by
  induction recursion generalizing offset ref with
  | zero =>
      rcases mdnsStringRef_cases hoffset with
        ⟨hstep, hleads⟩ | ⟨hstep, _⟩ | ⟨target, hstep, _, _⟩
      · refine ⟨(some offset, ref), by simp [followRefs, hstep], ?_⟩
        rintro place ⟨⟩
        exact ⟨0, Nat.le_refl 0, hleads⟩
      · exact ⟨(none, ref), by simp [followRefs, hstep], by simp⟩
      · exact ⟨(none, true), by simp [followRefs, hstep], by simp⟩
  | succ recursion ih =>
      rcases mdnsStringRef_cases hoffset with
        ⟨hstep, hleads⟩ | ⟨hstep, _⟩ | ⟨target, hstep, htarget, hnext⟩
      · refine ⟨(some offset, ref), by simp [followRefs, hstep], ?_⟩
        rintro place ⟨⟩
        exact ⟨0, Nat.zero_le _, hleads⟩
      · exact ⟨(none, ref), by simp [followRefs, hstep], by simp⟩
      · rcases ih true htarget with ⟨found, hfollow, hplace⟩
        refine ⟨found, by simp [followRefs, hstep, hfollow], ?_⟩
        intro place hfound
        rcases hplace place hfound with ⟨count, hcount, hleads⟩
        exact ⟨count + 1, Nat.succ_le_succ hcount,
          (hnext _ _).mpr ⟨count, rfl, hleads⟩⟩

/-!
## A substring
-/

/-- The substring at an offset that a few references lead from: the byte they
lead to is its length, and it fits. -/
structure SubstringAt (buffer : Bytes) (offset count place : Nat)
    (length : UInt8) : Prop where
  leads : Leads buffer count offset place
  few : count <= maxRecursion
  byte : buffer[place]? = some length
  fits : place + 1 + length.toNat <= buffer.length

theorem SubstringAt.unique {count' place' : Nat} {length length' : UInt8}
    (h : SubstringAt buffer offset count place length)
    (h' : SubstringAt buffer offset count' place' length') :
    count = count' ∧ place = place' ∧ length = length' := by
  rcases h.leads.unique h'.leads with ⟨rfl, rfl⟩
  have hbyte := h'.byte
  rw [h.byte] at hbyte
  cases hbyte
  exact ⟨rfl, rfl, rfl⟩

theorem isRef_zero : ¬ IsRef 0 := by decide

/-- The end of a name is told by its byte when it stands at the offset, and by
the byte behind it when a reference leads to it. -/
theorem mdnsGetNextSubstring_of_at {length : UInt8}
    (h : SubstringAt buffer offset count place length) :
    mdnsGetNextSubstring buffer offset =
      some { offset := some (if count = 0 ∧ length = 0 then place else place + 1)
             length := length.toNat
             ref := decide (0 < count) } := by
  have hoffset := h.leads.offset_lt
  obtain ⟨first, hfirst⟩ : exists first, buffer[offset]? = some first :=
    ⟨_, List.getElem?_eq_getElem hoffset⟩
  unfold mdnsGetNextSubstring
  rw [if_neg (Nat.not_le.mpr hoffset), hfirst]
  by_cases hzero : first = 0
  · rw [hzero] at hfirst
    rcases h.leads.of_not_isRef hfirst isRef_zero with ⟨rfl, rfl⟩
    have hbyte := h.byte
    rw [hfirst] at hbyte
    cases hbyte
    simp [hzero]
  · have hnot : ¬ (count = 0 ∧ length = 0) := by
      rintro ⟨rfl, rfl⟩
      cases h.leads with
      | here =>
          rw [h.byte] at hfirst
          cases hfirst
          exact hzero rfl
    have hfollow := followRefs_of_leads h.leads h.few false
    simp [hzero, hfollow, h.byte, Nat.not_lt.mpr h.fits, hnot]

theorem mdnsGetNextSubstring_of_none
    (h : forall count place length,
      ¬ SubstringAt buffer offset count place length) :
    exists pair, mdnsGetNextSubstring buffer offset = some pair ∧
      pair.offset = none := by
  unfold mdnsGetNextSubstring
  by_cases hoffset : offset < buffer.length
  · obtain ⟨first, hfirst⟩ : exists first, buffer[offset]? = some first :=
      ⟨_, List.getElem?_eq_getElem hoffset⟩
    by_cases hzero : first = 0
    · rw [hzero] at hfirst
      exact absurd ⟨Leads.here hfirst isRef_zero, Nat.zero_le _, hfirst,
        Nat.succ_le_of_lt hoffset⟩ (h 0 offset 0)
    · rcases exists_followRefs maxRecursion false hoffset with
        ⟨⟨found, ref⟩, hfollow, hplace⟩
      rw [if_neg (Nat.not_le.mpr hoffset), hfirst]
      cases found with
      | none => exact ⟨{ ref := ref }, by simp [hzero, hfollow], rfl⟩
      | some place =>
          rcases hplace place rfl with ⟨count, hcount, hleads⟩
          rcases hleads.plain with ⟨length, hbyte, _⟩
          have hlong : buffer.length < place + 1 + length.toNat :=
            Nat.lt_of_not_le fun hfits =>
              h count place length ⟨hleads, hcount, hbyte, hfits⟩
          exact ⟨{ ref := ref }, by simp [hzero, hfollow, hbyte, hlong], rfl⟩
  · exact ⟨{}, by simp [Nat.not_lt.mp hoffset], rfl⟩

end

/-!
## Names and substrings
-/

/-- The text of a name: a dot stands behind each label. -/
def dotted (labels : List Bytes) : Bytes :=
  labels.flatMap fun label => label ++ [0x2e]

@[simp] theorem dotted_nil : dotted [] = [] := rfl

@[simp] theorem dotted_cons (label : Bytes) (labels : List Bytes) :
    dotted (label :: labels) = label ++ [0x2e] ++ dotted labels := rfl

section

variable {buffer : Bytes} {offset counter : Nat} {labels : List Bytes}

theorem length_pieceAt {place length : Nat} (h : place + length <= buffer.length) :
    (pieceAt buffer place length).length = length := by
  simp only [pieceAt, List.length_take, List.length_drop]
  omega

theorem copySubstring_eq {place length : Nat}
    (h : place + length <= buffer.length) (remain : Nat) :
    copySubstring buffer place length remain =
      (pieceAt buffer place length ++ [0x2e]).take remain := by
  have hlength := length_pieceAt h
  unfold copySubstring
  by_cases hroom : length < remain
  · rw [if_pos hroom, List.take_of_length_le]
    simp only [List.length_append, hlength, List.length_singleton]
    omega
  · rw [if_neg hroom, List.take_append_of_le_length (by omega)]
    simp only [pieceAt, List.take_take]
    rw [Nat.min_eq_left (by omega)]

theorem nameAt_nil_of_at {count place : Nat}
    (h : SubstringAt buffer offset count place 0) :
    NameAt buffer maxRecursion offset [] :=
  NameAt.root h.leads h.few h.byte

/-- A name is read substring by substring. -/
theorem nameAt_iff_of_at {count place : Nat} {length : UInt8}
    (h : SubstringAt buffer offset count place length) (hlength : length ≠ 0) :
    NameAt buffer maxRecursion offset labels <->
      exists rest, NameAt buffer maxRecursion (place + 1 + length.toNat) rest ∧
        labels = pieceAt buffer (place + 1) length.toNat :: rest := by
  constructor
  · intro hname
    cases hname with
    | root hleads hcount hbyte =>
        rcases h.leads.unique hleads with ⟨_, rfl⟩
        have hsame := h.byte
        rw [hbyte] at hsame
        cases hsame
        exact absurd rfl hlength
    | label hleads hcount hbyte _ hfits hrest =>
        rcases h.unique ⟨hleads, hcount, hbyte, hfits⟩ with ⟨_, rfl, rfl⟩
        exact ⟨_, hrest, rfl⟩
  · rintro ⟨rest, hrest, rfl⟩
    exact NameAt.label h.leads h.few h.byte hlength h.fits hrest

theorem substringAt_of_nameAt (h : NameAt buffer maxRecursion offset labels) :
    exists count place length, SubstringAt buffer offset count place length := by
  cases h with
  | root hleads hcount hbyte =>
      exact ⟨_, _, _, hleads, hcount, hbyte,
        Nat.succ_le_of_lt (length_of_getElem? hbyte)⟩
  | label hleads hcount hbyte _ hfits _ =>
      exact ⟨_, _, _, hleads, hcount, hbyte, hfits⟩

/-- Where the bytes of a name end, once its first substring is known. -/
theorem endsAt_of_at {count place finish : Nat} {length : UInt8}
    (h : SubstringAt buffer offset count place length) :
    EndsAt buffer offset finish <->
      if 0 < count then finish = offset + 2
      else if length = 0 then finish = place + 1
      else EndsAt buffer (place + 1 + length.toNat) finish := by
  cases hleads : h.leads with
  | here hbyte hplain =>
      have hsame := h.byte
      rw [if_neg (Nat.lt_irrefl 0)]
      by_cases hzero : length = 0
      · rw [if_pos hzero]
        rw [hzero] at hsame
        constructor
        · intro hends
          exact hends.unique (EndsAt.root hsame)
        · rintro rfl
          exact EndsAt.root hsame
      · rw [if_neg hzero]
        rw [hbyte] at hsame
        cases hsame
        constructor
        · intro hends
          cases hends with
          | root hbyte' =>
              rw [hbyte] at hbyte'
              cases hbyte'
              exact absurd rfl hzero
          | ref hbyte' href =>
              rw [hbyte] at hbyte'
              cases hbyte'
              exact absurd href hplain
          | label hbyte' _ _ hrest =>
              rw [hbyte] at hbyte'
              cases hbyte'
              exact hrest
        · exact EndsAt.label hbyte hzero hplain
  | jump hbyte href =>
      rw [if_pos (Nat.succ_pos _)]
      constructor
      · intro hends
        exact hends.unique (EndsAt.ref hbyte href)
      · rintro rfl
        exact EndsAt.ref hbyte href

end

/-!
## Reading a name
-/

section

variable {buffer : Bytes} {offset counter : Nat} {labels : List Bytes}

/-- The loop reads the name at its place, whatever it has read before. -/
theorem extractFrom_of_nameAt {ending : Nat}
    (h : NameAt buffer maxRecursion offset labels)
    (hcount : labels.length < counter) (hending : EndsAt buffer offset ending)
    (finish : Option Nat) (dst : Bytes) (remain : Nat) :
    extractFrom buffer counter offset finish dst remain =
      some (some (finish.getD ending, dst ++ (dotted labels).take remain)) := by
  induction counter generalizing offset labels ending finish dst remain with
  | zero => exact absurd hcount (Nat.not_lt_zero _)
  | succ counter ih =>
      rcases substringAt_of_nameAt h with ⟨count, place, length, hat⟩
      have hnext := mdnsGetNextSubstring_of_at hat
      have hends := (endsAt_of_at hat).mp hending
      by_cases hzero : length = 0
      · have hnil : labels = [] := by
          rw [hzero] at hat
          exact h.unique (nameAt_nil_of_at hat)
        subst hzero
        cases hpos : decide (0 < count) with
        | false =>
            have hcount0 : count = 0 := by simpa using hpos
            rw [if_neg (by omega), if_pos rfl] at hends
            simp [extractFrom, hnext, hcount0, hnil, hends]
        | true =>
            have hjump : 0 < count := by simpa using hpos
            rw [if_pos hjump] at hends
            cases finish <;>
              simp [extractFrom, hnext, hjump, hnil, hends]
      · rcases (nameAt_iff_of_at hat hzero).mp h with ⟨rest, hrest, rfl⟩
        rcases hrest.exists_endsAt with ⟨later, hlater⟩
        have hfits : place + 1 + length.toNat <= buffer.length := hat.fits
        have hlong : length.toNat ≠ 0 := fun heq =>
          hzero (UInt8.toNat_inj.mp heq)
        have hrun := ih hrest (Nat.lt_of_succ_lt_succ hcount) hlater
        have htaken : ((dotted (pieceAt buffer (place + 1) length.toNat :: rest)).take
            remain) = copySubstring buffer (place + 1) length.toNat remain ++
              (dotted rest).take
                (remain - (copySubstring buffer (place + 1) length.toNat remain).length) := by
          rw [dotted_cons, copySubstring_eq hfits, List.take_append]
          congr 2
          rw [List.length_take]
          omega
        have hfinish : (if decide (0 < count) = true then
            some (finish.getD (offset + 2)) else finish).getD later =
              finish.getD ending := by
          by_cases hjump : 0 < count
          · rw [if_pos hjump] at hends
            simp [hjump, hends]
          · rw [if_neg hjump, if_neg hzero] at hends
            simp [hjump, hlater.unique hends]
        simp only [extractFrom, hnext, hzero, and_false, if_false, hlong, htaken,
          Option.bind_eq_bind, Option.bind_some]
        rw [hrun, hfinish, List.append_assoc]

/-- What is not a name of few enough labels is refused. -/
theorem extractFrom_of_not (h : ¬ exists labels,
      NameAt buffer maxRecursion offset labels ∧ labels.length < counter)
    (finish : Option Nat) (dst : Bytes) (remain : Nat) :
    extractFrom buffer counter offset finish dst remain = some none := by
  induction counter generalizing offset finish dst remain with
  | zero =>
      by_cases hat : exists count place length,
          SubstringAt buffer offset count place length
      · rcases hat with ⟨count, place, length, hat⟩
        simp [extractFrom, mdnsGetNextSubstring_of_at hat]
      · rcases mdnsGetNextSubstring_of_none fun count place length hthis =>
          hat ⟨count, place, length, hthis⟩ with ⟨pair, hpair, _⟩
        simp [extractFrom, hpair]
  | succ counter ih =>
      by_cases hat : exists count place length,
          SubstringAt buffer offset count place length
      · rcases hat with ⟨count, place, length, hat⟩
        by_cases hzero : length = 0
        · rw [hzero] at hat
          exact absurd ⟨[], nameAt_nil_of_at hat, Nat.succ_pos _⟩ h
        · have hrest : ¬ exists labels, NameAt buffer maxRecursion
              (place + 1 + length.toNat) labels ∧ labels.length < counter := by
            rintro ⟨rest, hrest, hfew⟩
            exact h ⟨_, (nameAt_iff_of_at hat hzero).mpr ⟨rest, hrest, rfl⟩,
              Nat.succ_lt_succ hfew⟩
          have hlong : length.toNat ≠ 0 := fun heq =>
            hzero (UInt8.toNat_inj.mp heq)
          simp only [extractFrom, mdnsGetNextSubstring_of_at hat, hzero, and_false,
            if_false, hlong, Option.bind_eq_bind, Option.bind_some]
          exact ih hrest _ _ _
      · rcases mdnsGetNextSubstring_of_none fun count place length hthis =>
          hat ⟨count, place, length, hthis⟩ with ⟨pair, hpair, hnone⟩
        simp [extractFrom, hpair, hnone]

/-- The text of a name, and the offset behind the bytes at its place. -/
theorem mdnsStringExtract_iff {capacity finish : Nat} {text : Bytes} :
    mdnsStringExtract buffer offset capacity = some (some (finish, text)) <->
      exists labels, NameAt buffer maxRecursion offset labels ∧
        labels.length <= mdnsMaxSubstrings ∧ EndsAt buffer offset finish ∧
        text = (dotted labels).take capacity := by
  unfold mdnsStringExtract
  constructor
  · intro hrun
    by_cases h : exists labels, NameAt buffer maxRecursion offset labels ∧
        labels.length < mdnsMaxSubstrings + 1
    · rcases h with ⟨labels, hname, hfew⟩
      rcases hname.exists_endsAt with ⟨ending, hending⟩
      rw [extractFrom_of_nameAt hname hfew hending] at hrun
      simp only [Option.some.injEq, Prod.mk.injEq, Option.getD_none,
        List.nil_append] at hrun
      rcases hrun with ⟨rfl, rfl⟩
      exact ⟨labels, hname, Nat.le_of_lt_succ hfew, hending, rfl⟩
    · rw [extractFrom_of_not h] at hrun
      cases hrun
  · rintro ⟨labels, hname, hfew, hending, rfl⟩
    rw [extractFrom_of_nameAt hname (Nat.lt_succ_of_le hfew) hending]
    rfl

theorem mdnsStringExtract_ne_none (buffer : Bytes) (offset capacity : Nat) :
    mdnsStringExtract buffer offset capacity ≠ none := by
  unfold mdnsStringExtract
  by_cases h : exists labels, NameAt buffer maxRecursion offset labels ∧
      labels.length < mdnsMaxSubstrings + 1
  · rcases h with ⟨labels, hname, hfew⟩
    rcases hname.exists_endsAt with ⟨ending, hending⟩
    rw [extractFrom_of_nameAt hname hfew hending]
    exact Option.some_ne_none _
  · rw [extractFrom_of_not h]
    exact Option.some_ne_none _

end

/-!
## Skipping a name
-/

section

variable {buffer : Bytes} {offset counter finish : Nat} {labels : List Bytes}

theorem skipFrom_of_nameAt (h : NameAt buffer maxRecursion offset labels)
    (hcount : labels.length < counter) (hfinish : EndsAt buffer offset finish) :
    skipFrom buffer counter offset = some (some finish) := by
  induction counter generalizing offset labels finish with
  | zero => exact absurd hcount (Nat.not_lt_zero _)
  | succ counter ih =>
      rcases substringAt_of_nameAt h with ⟨count, place, length, hat⟩
      have hnext := mdnsGetNextSubstring_of_at hat
      have hends := (endsAt_of_at hat).mp hfinish
      by_cases hjump : 0 < count
      · rw [if_pos hjump] at hends
        simp [skipFrom, hnext, hjump, hends]
      · have hzero : count = 0 := Nat.eq_zero_of_not_pos hjump
        rw [if_neg hjump] at hends
        by_cases hlast : length = 0
        · rw [if_pos hlast] at hends
          simp [skipFrom, hnext, hzero, hlast, hends]
        · rw [if_neg hlast] at hends
          rcases (nameAt_iff_of_at hat hlast).mp h with ⟨rest, hrest, rfl⟩
          have hlong : length.toNat ≠ 0 := fun heq =>
            hlast (UInt8.toNat_inj.mp heq)
          have hrun := ih hrest (Nat.lt_of_succ_lt_succ hcount) hends
          simpa [skipFrom, hnext, hzero, hlast, hlong] using hrun

/-- A string that is skipped ends inside the buffer. -/
theorem exists_skipFrom (buffer : Bytes) (counter offset : Nat) :
    exists skipped, skipFrom buffer counter offset = some skipped ∧
      forall finish, skipped = some finish ->
        EndsAt buffer offset finish ∧ finish <= buffer.length := by
  induction counter generalizing offset with
  | zero =>
      refine ⟨none, ?_, by simp⟩
      by_cases hat : exists count place length,
          SubstringAt buffer offset count place length
      · rcases hat with ⟨count, place, length, hat⟩
        simp [skipFrom, mdnsGetNextSubstring_of_at hat]
      · rcases mdnsGetNextSubstring_of_none fun count place length hthis =>
          hat ⟨count, place, length, hthis⟩ with ⟨pair, hpair, _⟩
        simp [skipFrom, hpair]
  | succ counter ih =>
      by_cases hat : exists count place length,
          SubstringAt buffer offset count place length
      · rcases hat with ⟨count, place, length, hat⟩
        have hnext := mdnsGetNextSubstring_of_at hat
        have hends : forall finish, EndsAt buffer offset finish <-> _ :=
          fun finish => endsAt_of_at hat
        by_cases hjump : 0 < count
        · refine ⟨some (offset + 2), by simp [skipFrom, hnext, hjump], ?_⟩
          rintro finish ⟨⟩
          refine ⟨(hends _).mpr (by rw [if_pos hjump]), ?_⟩
          cases hat.leads with
          | here => exact absurd hjump (Nat.lt_irrefl 0)
          | jump _ _ htarget => exact length_of_u16At htarget
        · have hzero : count = 0 := Nat.eq_zero_of_not_pos hjump
          by_cases hlast : length = 0
          · refine ⟨some (place + 1), by simp [skipFrom, hnext, hzero, hlast], ?_⟩
            rintro finish ⟨⟩
            exact ⟨(hends _).mpr (by rw [if_neg hjump, if_pos hlast]),
              Nat.le_trans (Nat.le_add_right _ _) hat.fits⟩
          · rcases ih (place + 1 + length.toNat) with ⟨skipped, hrun, hskipped⟩
            have hlong : length.toNat ≠ 0 := fun heq =>
              hlast (UInt8.toNat_inj.mp heq)
            refine ⟨skipped, by simpa [skipFrom, hnext, hzero, hlast, hlong] using hrun,
              ?_⟩
            intro finish hfound
            rcases hskipped finish hfound with ⟨hrest, hin⟩
            exact ⟨(hends _).mpr (by rw [if_neg hjump, if_neg hlast]; exact hrest), hin⟩
      · rcases mdnsGetNextSubstring_of_none fun count place length hthis =>
          hat ⟨count, place, length, hthis⟩ with ⟨pair, hpair, hnone⟩
        exact ⟨none, by simp [skipFrom, hpair, hnone], by simp⟩

theorem mdnsStringSkip_of_nameAt (h : NameAt buffer maxRecursion offset labels)
    (hfew : labels.length <= mdnsMaxSubstrings)
    (hfinish : EndsAt buffer offset finish) :
    mdnsStringSkip buffer offset = some (some finish) :=
  skipFrom_of_nameAt h (Nat.lt_succ_of_le hfew) hfinish

theorem exists_mdnsStringSkip (buffer : Bytes) (offset : Nat) :
    exists skipped, mdnsStringSkip buffer offset = some skipped ∧
      forall finish, skipped = some finish ->
        EndsAt buffer offset finish ∧ finish <= buffer.length :=
  exists_skipFrom buffer _ offset

/-- No byte outside of the buffer is read.  What is extracted is the text of the
name at the offset, as much of it as there is room for, when the name has few
labels and references, and nothing otherwise; and the name is skipped alike. -/
theorem mdnsStringExtract_reads (buffer : Bytes) (offset capacity : Nat) :
    exists extracted, mdnsStringExtract buffer offset capacity = some extracted ∧
      forall finish text, extracted = some (finish, text) <->
        mdnsStringSkip buffer offset = some (some finish) ∧
          exists labels, NameAt buffer maxRecursion offset labels ∧
            labels.length <= mdnsMaxSubstrings ∧
            text = (dotted labels).take capacity := by
  rcases Option.ne_none_iff_exists'.mp
    (mdnsStringExtract_ne_none buffer offset capacity) with ⟨extracted, hrun⟩
  refine ⟨extracted, hrun, ?_⟩
  intro finish text
  have hiff : mdnsStringExtract buffer offset capacity = some (some (finish, text)) <->
      _ := mdnsStringExtract_iff
  rw [hrun, Option.some_inj] at hiff
  rw [hiff]
  constructor
  · rintro ⟨labels, hname, hfew, hends, htext⟩
    exact ⟨mdnsStringSkip_of_nameAt hname hfew hends, labels, hname, hfew, htext⟩
  · rintro ⟨hskip, labels, hname, hfew, htext⟩
    rcases exists_mdnsStringSkip buffer offset with ⟨skipped, hrun', hends⟩
    rw [hskip, Option.some_inj] at hrun'
    exact ⟨labels, hname, hfew, (hends finish hrun'.symm).1, htext⟩

end

end Mdns
end Noc
