import Mathlib.Data.List.Nodup
import Noc.Mesh.TopologyBlocks

/-!
# Sections of a topology

The text between two occurrences of `QCA IEEE 1905.1 device:` is the section of
one device.  The handler does not know of sections: it looks for each field in
all that is left of the text, so a line that is missing in a section is taken
from a later one.
-/

namespace Noc
namespace Mesh

open Foundation

/-- What is behind each occurrence of the device pattern, up to the next one. -/
def sections (text : List Char) : List (List Char) :=
  (segments devicePattern text).tail

def SpaceThenComma (own : List Char) : Prop :=
  InOrder [[' '], [',']] own

/-!
## What a text has of the fields
-/

/-- The text of a field, and what is left from its stop on. -/
def fieldText (entry : Pattern) (checkPointer : List Char) :
    Option (List Char × List Char) :=
  (cut entry.pattern checkPointer).bind fun parts =>
    (cut entry.start parts.2).bind fun parts =>
      (cut entry.stop parts.2).map fun parts => (parts.1, entry.stop ++ parts.2)

/-- The fields up to the first that is missing. -/
def fieldTexts : List Pattern -> List Char -> List (PatternField × List Char)
  | [], _ => []
  | entry :: rest, checkPointer =>
      match fieldText entry checkPointer with
      | none => []
      | some (text, behind) => (entry.field, text) :: fieldTexts rest behind

/-- What is left behind all fields. -/
def fieldsBehind : List Pattern -> List Char -> Option (List Char)
  | [], checkPointer => some checkPointer
  | entry :: rest, checkPointer =>
      (fieldText entry checkPointer).bind fun parts => fieldsBehind rest parts.2

section

variable {entry : Pattern} {entries : List Pattern}
  {checkPointer text behind before rest : List Char}

theorem fieldText_append (h : fieldText entry checkPointer = some (text, behind))
    (later : List Char) :
    fieldText entry (checkPointer ++ later) = some (text, behind ++ later) := by
  unfold fieldText at h ⊢
  rw [Option.bind_eq_some_iff] at h
  rcases h with ⟨⟨_, strPointer⟩, hpattern, h⟩
  rw [Option.bind_eq_some_iff] at h
  rcases h with ⟨⟨_, startPointer⟩, hstart, h⟩
  rw [Option.map_eq_some_iff] at h
  rcases h with ⟨⟨_, stopPointer⟩, hstop, heq⟩
  cases heq
  rw [cut_append hpattern, Option.bind_some, cut_append hstart, Option.bind_some,
    cut_append hstop, Option.map_some, List.append_assoc]

/-- What follows a text adds fields behind those it has. -/
theorem fieldTexts_start (entries : List Pattern) (checkPointer later : List Char) :
    fieldTexts entries checkPointer <+:
      fieldTexts entries (checkPointer ++ later) := by
  induction entries generalizing checkPointer with
  | nil => exact List.prefix_refl _
  | cons entry rest ih =>
      unfold fieldTexts
      cases hfield : fieldText entry checkPointer with
      | none => exact List.nil_prefix
      | some parts =>
          rw [fieldText_append hfield]
          exact (List.prefix_cons_inj _).mpr (ih parts.2)

theorem fieldsBehind_append (h : fieldsBehind entries checkPointer = some rest)
    (later : List Char) :
    fieldsBehind entries (checkPointer ++ later) = some (rest ++ later) := by
  induction entries generalizing checkPointer with
  | nil =>
      cases h
      rfl
  | cons entry others ih =>
      rcases Option.bind_eq_some_iff.mp h with ⟨⟨text, behind⟩, hfield, hrest⟩
      unfold fieldsBehind
      rw [fieldText_append hfield]
      exact ih hrest

theorem fieldsBehind_isSome_iff :
    (fieldsBehind entries checkPointer).isSome = true <->
      (fieldTexts entries checkPointer).length = entries.length := by
  induction entries generalizing checkPointer with
  | nil => simp [fieldsBehind, fieldTexts]
  | cons entry rest ih =>
      unfold fieldsBehind fieldTexts
      cases hfield : fieldText entry checkPointer with
      | none => simp
      | some parts =>
          rw [Option.bind_some, ih, List.length_cons, List.length_cons,
            Nat.add_right_cancel_iff]

theorem length_fieldTexts_le (entries : List Pattern) (checkPointer : List Char) :
    (fieldTexts entries checkPointer).length <= entries.length := by
  induction entries generalizing checkPointer with
  | nil => exact Nat.le_refl _
  | cons entry rest ih =>
      unfold fieldTexts
      split
      · exact Nat.zero_le _
      · exact Nat.succ_le_succ (ih _)

theorem fields_start (entries : List Pattern) (checkPointer : List Char) :
    (fieldTexts entries checkPointer).map Prod.fst <+: entries.map Pattern.field := by
  induction entries generalizing checkPointer with
  | nil => exact List.prefix_refl _
  | cons entry rest ih =>
      unfold fieldTexts
      split
      · exact List.nil_prefix
      · exact (List.prefix_cons_inj _).mpr (ih _)

/-- A field and what is left are in the text behind the pattern. -/
theorem infix_of_fieldText {strPointer : List Char}
    (hpattern : cut entry.pattern checkPointer = some (before, strPointer))
    (h : fieldText entry checkPointer = some (text, behind)) :
    text <:+: strPointer ∧ behind <:+: strPointer := by
  unfold fieldText at h
  rw [hpattern, Option.bind_some, Option.bind_eq_some_iff] at h
  rcases h with ⟨⟨gap, startPointer⟩, hstart, h⟩
  rw [Option.map_eq_some_iff] at h
  rcases h with ⟨⟨own, stopPointer⟩, hstop, heq⟩
  cases heq
  have hgap : strPointer = gap ++ (entry.start ++ startPointer) := eq_of_cut hstart
  have htext : startPointer = own ++ (entry.stop ++ stopPointer) := eq_of_cut hstop
  rw [hgap, htext]
  constructor
  · exact ⟨gap ++ entry.start, entry.stop ++ stopPointer, by simp⟩
  · exact ⟨gap ++ (entry.start ++ own), [], by simp⟩

theorem stop_of_fieldText {parts : List Char × List Char}
    (h : fieldText entry checkPointer = some parts) :
    exists behind, parts.2 = entry.stop ++ behind := by
  rcases Option.bind_eq_some_iff.mp h with ⟨_, _, h⟩
  rcases Option.bind_eq_some_iff.mp h with ⟨_, _, h⟩
  rcases Option.map_eq_some_iff.mp h with ⟨stopParts, _, rfl⟩
  exact ⟨stopParts.2, rfl⟩

theorem exists_cut_of_fieldText
    (h : fieldText entry checkPointer = some (text, behind)) :
    exists before strPointer,
      cut entry.pattern checkPointer = some (before, strPointer) := by
  rcases Option.bind_eq_some_iff.mp h with ⟨⟨before, strPointer⟩, hpattern, _⟩
  exact ⟨before, strPointer, hpattern⟩

theorem infix_of_fieldText' (h : fieldText entry checkPointer = some (text, behind)) :
    text <:+: checkPointer ∧ behind <:+: checkPointer := by
  rcases exists_cut_of_fieldText h with ⟨before, strPointer, hpattern⟩
  rcases infix_of_fieldText hpattern h with ⟨htext, hbehind⟩
  have hsuffix : strPointer <:+: checkPointer := by
    rw [eq_of_cut hpattern]
    exact ⟨before ++ entry.pattern, [], by simp⟩
  exact ⟨htext.trans hsuffix, hbehind.trans hsuffix⟩

theorem infix_of_mem_fieldTexts {field : PatternField}
    (h : (field, text) ∈ fieldTexts entries checkPointer) :
    text <:+: checkPointer := by
  induction entries generalizing checkPointer with
  | nil => cases h
  | cons entry rest ih =>
      unfold fieldTexts at h
      split at h
      · cases h
      · rename_i own behind hfield
        rcases infix_of_fieldText' hfield with ⟨hown, hbehind⟩
        cases List.mem_cons.mp h with
        | inl heq =>
            cases heq
            exact hown
        | inr hlater => exact (ih hlater).trans hbehind

theorem infix_of_fieldsBehind (h : fieldsBehind entries checkPointer = some rest) :
    rest <:+: checkPointer := by
  induction entries generalizing checkPointer with
  | nil =>
      cases h
      exact List.infix_refl _
  | cons entry others ih =>
      rcases Option.bind_eq_some_iff.mp h with ⟨⟨text, behind⟩, hfield, hrest⟩
      exact (ih hrest).trans (infix_of_fieldText' hfield).2

end

/-!
## Parts in order

A text has the first fields when it has their parts one behind the other.
-/

def partsOf (entries : List Pattern) : List (List Char) :=
  entries.flatMap fun entry => [entry.pattern, entry.start, entry.stop]

/-- No pattern begins with what ends a field. -/
theorem cut_pattern_stop {entry other : Pattern} (hentry : entry ∈ devicePatternEntry)
    (hother : other ∈ devicePatternEntry) (text : List Char) :
    cut other.pattern (entry.stop ++ text) =
      (cut other.pattern text).map fun parts => (entry.stop ++ parts.1, parts.2) := by
  rcases no_pattern_at_stop hentry with ⟨c, hstop, hnone⟩
  rw [hstop]
  exact cut_cons_of_not_starts (hnone other hother text)

theorem inOrder_parts_stop {entry : Pattern} {rest : List Pattern}
    (hentry : entry ∈ devicePatternEntry) (hrest : rest ⊆ devicePatternEntry)
    (text : List Char) :
    InOrder (partsOf rest) (entry.stop ++ text) <-> InOrder (partsOf rest) text := by
  cases rest with
  | nil => exact Iff.rfl
  | cons other rest =>
      have hskip := cut_pattern_stop hentry (hrest List.mem_cons_self) text
      cases hcut : cut other.pattern text with
      | none =>
          rw [hcut] at hskip
          exact iff_of_false (not_inOrder_of_cut hskip) (not_inOrder_of_cut hcut)
      | some parts =>
          rw [hcut] at hskip
          exact (inOrder_of_cut hskip).trans (inOrder_of_cut hcut).symm

theorem inOrder_parts_iff {entry : Pattern} {later : List (List Char)}
    (checkPointer : List Char) :
    InOrder (entry.pattern :: entry.start :: entry.stop :: later) checkPointer <->
      exists text behind,
        fieldText entry checkPointer = some (text, entry.stop ++ behind) ∧
          InOrder later behind := by
  unfold fieldText
  cases hpattern : cut entry.pattern checkPointer with
  | none => simp [not_inOrder_of_cut hpattern]
  | some parts =>
      rw [inOrder_of_cut hpattern, Option.bind_some]
      cases hstart : cut entry.start parts.2 with
      | none => simp [not_inOrder_of_cut hstart]
      | some parts =>
          rw [inOrder_of_cut hstart, Option.bind_some]
          cases hstop : cut entry.stop parts.2 with
          | none => simp [not_inOrder_of_cut hstop]
          | some parts =>
              rw [inOrder_of_cut hstop]
              simp

theorem inOrder_partsOf_iff {entries : List Pattern} {n : Nat}
    (hentries : entries ⊆ devicePatternEntry) (hle : n <= entries.length)
    (checkPointer : List Char) :
    InOrder (partsOf (entries.take n)) checkPointer <->
      n <= (fieldTexts entries checkPointer).length := by
  induction entries generalizing n checkPointer with
  | nil =>
      rw [Nat.le_zero.mp hle]
      exact iff_of_true trivial (Nat.zero_le _)
  | cons entry rest ih =>
      cases n with
      | zero => exact iff_of_true trivial (Nat.zero_le _)
      | succ n =>
          rw [List.cons_subset] at hentries
          have hrest : rest.take n ⊆ devicePatternEntry := fun other hother =>
            hentries.2 (List.mem_of_mem_take hother)
          show InOrder (entry.pattern :: entry.start :: entry.stop ::
            partsOf (rest.take n)) checkPointer <-> _
          rw [inOrder_parts_iff]
          unfold fieldTexts
          cases hfield : fieldText entry checkPointer with
          | none => simp
          | some parts =>
              rcases stop_of_fieldText hfield with ⟨behind, hbehind⟩
              have hlater := ih hentries.2 (Nat.le_of_succ_le_succ hle) parts.2
              rw [hbehind, inOrder_parts_stop hentries.1 hrest] at hlater
              dsimp only
              rw [List.length_cons, Nat.succ_le_succ_iff, hbehind, ← hlater]
              constructor
              · rintro ⟨text, behind', heq, hin⟩
                rw [Option.some_inj] at heq
                rw [heq] at hbehind
                rw [← List.append_cancel_left hbehind]
                exact hin
              · intro hin
                exact ⟨parts.1, behind, by rw [← hbehind], hin⟩

/-!
## What is told of a device
-/

def fieldOf (device : DeviceInfo) : PatternField -> Option String
  | .mac => device.mac
  | .ip => device.ip
  | .parentMac => device.parentMac
  | .channelSelection5g => device.channelSelection5g
  | .channelSelection2g => device.channelSelection2g

def setField (field : PatternField) (value : String) (device : DeviceInfo) :
    DeviceInfo :=
  match field with
  | .mac => { device with mac := some value }
  | .ip => { device with ip := some value }
  | .parentMac => { device with parentMac := some value }
  | .channelSelection5g => { device with channelSelection5g := some value }
  | .channelSelection2g => { device with channelSelection2g := some value }

theorem fieldOf_setField (field other : PatternField) (value : String)
    (device : DeviceInfo) :
    fieldOf (setField field value device) other =
      if other = field then some value else fieldOf device other := by
  cases field <;> cases other <;> rfl

/-- A piece of the text as the field has it: macs are lower-cased. -/
def fieldValue (field : PatternField) (piece : List Char) : String :=
  match field with
  | .mac => upcaseToLowcase piece
  | .parentMac => upcaseToLowcase piece
  | .ip => String.ofList piece
  | .channelSelection5g => String.ofList piece
  | .channelSelection2g => String.ofList piece

/-- The device's fields are pieces of these texts, and each text gave one. -/
structure ToldBy (texts : List (PatternField × List Char)) (device : DeviceInfo) :
    Prop where
  piece : forall field value, fieldOf device field = some value ->
    exists text, (field, text) ∈ texts ∧
      exists piece, piece <:+: text ∧ value = fieldValue field piece
  given : forall field text, (field, text) ∈ texts -> fieldOf device field ≠ none

section

variable {entry : Pattern} {entries : List Pattern} {s s' : HandlerState}
  {front : List DeviceInfo} {device : DeviceInfo} {field : PatternField}
  {checkPointer text behind rest : List Char}
  {texts : List (PatternField × List Char)}

theorem toldBy_nil (role : Option String) : ToldBy [] { role := role } := by
  constructor
  · intro field value hvalue
    cases field <;> cases hvalue
  · intro field text hmem
    cases hmem

theorem piece_of_channelSelection {line : List Char} {startIndex stopIndex : UInt16}
    {channel : String}
    (h : channelSelection line startIndex stopIndex = some channel) :
    exists piece, piece <:+: line ∧ channel = String.ofList piece := by
  unfold channelSelection at h
  split at h
  · cases h
  · cases h
    exact ⟨_, (List.take_prefix _ _).isInfix.trans (List.drop_suffix _ _).isInfix, rfl⟩

/-- The last device gets a piece of the text. -/
theorem store_eq (h : s.store field text = some s') :
    exists piece, piece <:+: text ∧
      s'.deviceList =
        s.deviceList.modifyLast (setField field (fieldValue field piece)) := by
  cases field with
  | mac =>
      cases h
      exact ⟨text, List.infix_refl _, rfl⟩
  | ip =>
      cases h
      exact ⟨text, List.infix_refl _, rfl⟩
  | parentMac =>
      cases h
      exact ⟨text, List.infix_refl _, rfl⟩
  | channelSelection5g =>
      rcases Option.map_eq_some_iff.mp h with ⟨channel, hchannel, rfl⟩
      rcases piece_of_channelSelection hchannel with ⟨piece, hpiece, rfl⟩
      exact ⟨piece, hpiece, rfl⟩
  | channelSelection2g =>
      rcases Option.map_eq_some_iff.mp h with ⟨channel, hchannel, rfl⟩
      rcases piece_of_channelSelection hchannel with ⟨piece, hpiece, rfl⟩
      exact ⟨piece, hpiece, rfl⟩

theorem ToldBy.setField (h : ToldBy texts device) {piece : List Char}
    (hpiece : piece <:+: text) :
    ToldBy (texts ++ [(field, text)])
      (Mesh.setField field (fieldValue field piece) device) := by
  constructor
  · intro other value hother
    rw [fieldOf_setField] at hother
    split at hother
    · rename_i heq
      rw [Option.some_inj] at hother
      rw [heq]
      exact ⟨text, List.mem_append_right _ List.mem_cons_self, piece, hpiece,
        hother.symm⟩
    · rcases h.piece other value hother with ⟨own, hown, hrest⟩
      exact ⟨own, List.mem_append_left _ hown, hrest⟩
  · intro other own hmem
    rw [fieldOf_setField]
    split
    · exact Option.some_ne_none _
    · rename_i hne
      cases List.mem_append.mp hmem with
      | inl hold => exact h.given other own hold
      | inr hlast =>
          rw [List.mem_singleton, Prod.mk.injEq] at hlast
          exact absurd hlast.1 hne

theorem ToldBy.store (h : ToldBy texts device) (hlast : s.deviceList = front ++ [device])
    (hstore : s.store field text = some s') :
    exists device', s'.deviceList = front ++ [device'] ∧
      ToldBy (texts ++ [(field, text)]) device' := by
  rcases store_eq hstore with ⟨piece, hpiece, hdevices⟩
  rw [hlast, List.modifyLast_concat] at hdevices
  exact ⟨_, hdevices, h.setField hpiece⟩

/-!
## One round
-/

theorem readField_of_fieldText (h : fieldText entry checkPointer = some (text, behind))
    (s : HandlerState) :
    readField entry s checkPointer =
      match (if entry.field = .mac then s.addDevice else s).store entry.field text with
      | none => .crashed
      | some s => .reached s behind := by
  unfold fieldText at h
  rcases Option.bind_eq_some_iff.mp h with ⟨patternParts, hpattern, h⟩
  rcases Option.bind_eq_some_iff.mp h with ⟨startParts, hstart, h⟩
  rcases Option.map_eq_some_iff.mp h with ⟨stopParts, hstop, heq⟩
  cases heq
  unfold readField
  cases hstore : (if entry.field = .mac then s.addDevice else s).store entry.field
      stopParts.1 with
  | none => simp only [hpattern, hstart, hstop, hstore]
  | some s' => simp only [hpattern, hstart, hstop, hstore]

theorem readField_of_none (hfield : entry.field ≠ .mac)
    (h : fieldText entry checkPointer = none) (s : HandlerState) :
    readField entry s checkPointer = .returned s := by
  unfold fieldText at h
  unfold readField
  cases hpattern : cut entry.pattern checkPointer with
  | none => rfl
  | some parts =>
      rw [hpattern, Option.bind_some] at h
      dsimp only
      rw [if_neg hfield, if_neg hfield]
      cases hstart : cut entry.start parts.2 with
      | none => rfl
      | some parts =>
          rw [hstart, Option.bind_some, Option.map_eq_none_iff] at h
          dsimp only
          rw [h]

/-- The fields behind the mac go to the last device, up to the first that is
missing. -/
theorem readFields_toldBy (hnoMac : forall entry, entry ∈ entries -> entry.field ≠ .mac)
    (hlast : s.deviceList = front ++ [device]) (h : ToldBy texts device)
    (checkPointer : List Char) :
    (readFields entries s checkPointer).Leaves fun s' =>
      exists device', s'.deviceList = front ++ [device'] ∧
        ToldBy (texts ++ fieldTexts entries checkPointer) device' := by
  induction entries generalizing s device texts checkPointer with
  | nil =>
      refine ⟨device, hlast, ?_⟩
      rw [fieldTexts, List.append_nil]
      exact h
  | cons entry rest ih =>
      have hfield := hnoMac entry List.mem_cons_self
      have hrest : forall entry, entry ∈ rest -> entry.field ≠ .mac :=
        fun other hother => hnoMac other (List.mem_cons_of_mem entry hother)
      unfold readFields fieldTexts
      cases hown : fieldText entry checkPointer with
      | none =>
          rw [readField_of_none hfield hown]
          refine ⟨device, hlast, ?_⟩
          rw [List.append_nil]
          exact h
      | some parts =>
          rw [readField_of_fieldText hown, if_neg hfield]
          cases hstore : s.store entry.field parts.1 with
          | none => exact trivial
          | some s' =>
              rcases h.store hlast hstore with ⟨device', hlast', hnext⟩
              have hleft := ih hrest hlast' hnext parts.2
              rw [List.append_assoc] at hleft
              exact hleft

/-- A round makes one device and tells it the fields of the text. -/
theorem readFields_device (hfound : devicePattern <:+: checkPointer)
    (s : HandlerState) :
    (readFields devicePatternEntry s checkPointer).Leaves fun s' =>
      exists device, s'.deviceList = s.deviceList ++ [device] ∧
        ToldBy (fieldTexts devicePatternEntry checkPointer) device := by
  have hmade : s.addDevice.deviceList = s.deviceList ++
      [{ role := some (if s.numberDevice = 0 then "controller" else "agent") }] := rfl
  have hrest : forall entry, entry ∈ [ipEntry, parentMacEntry, channelSelection5gEntry,
      channelSelection2gEntry] -> entry.field ≠ .mac := by decide
  have hmac : macEntry.field = .mac := rfl
  rcases exists_cut hfound with ⟨before, strPointer, hpattern⟩
  unfold devicePatternEntry readFields fieldTexts
  cases hown : fieldText macEntry checkPointer with
  | some parts =>
      rw [readField_of_fieldText hown, if_pos hmac]
      cases hstore : s.addDevice.store macEntry.field parts.1 with
      | none => exact trivial
      | some s' =>
          rcases (toldBy_nil _).store hmade hstore with ⟨device, hlast, htold⟩
          exact readFields_toldBy hrest hlast htold parts.2
  | none =>
      have hpattern' : cut macEntry.pattern checkPointer = some (before, strPointer) :=
        hpattern
      unfold fieldText at hown
      rw [hpattern', Option.bind_some] at hown
      unfold readField
      rw [hpattern']
      dsimp only
      cases hstart : cut macEntry.start strPointer with
      | none =>
          dsimp only
          rw [if_pos hmac]
          exact trivial
      | some parts =>
          rw [hstart, Option.bind_some, Option.map_eq_none_iff] at hown
          dsimp only
          rw [hown, if_pos hmac]
          exact ⟨_, hmade, toldBy_nil _⟩

theorem fieldText_of_reached (h : readField entry s checkPointer = .reached s' rest) :
    exists text, fieldText entry checkPointer = some (text, rest) := by
  rcases text_of_reached h with ⟨before, gap, text, behind, htext, _⟩
  have hparts : InOrder [entry.pattern, entry.start, entry.stop] checkPointer :=
    ⟨before, _, htext, gap, _, rfl, text, behind, rfl, trivial⟩
  rcases (inOrder_parts_iff checkPointer).mp hparts with ⟨own, left, hown, _⟩
  rw [readField_of_fieldText hown] at h
  split at h
  · cases h
  · cases h
    exact ⟨own, hown⟩

theorem behind_of_reached (h : readFields entries s checkPointer = .reached s' rest) :
    fieldsBehind entries checkPointer = some rest := by
  induction entries generalizing s checkPointer with
  | nil =>
      cases h
      rfl
  | cons entry others ih =>
      unfold readFields at h
      split at h
      · rename_i hreached
        rcases fieldText_of_reached hreached with ⟨text, htext⟩
        unfold fieldsBehind
        rw [htext]
        exact ih h
      · rename_i hnot
        exact absurd h (hnot _ _)

theorem readFields_of_behind (h : fieldsBehind entries checkPointer = some rest)
    (s : HandlerState) :
    readFields entries s checkPointer = .crashed ∨
      exists s', readFields entries s checkPointer = .reached s' rest := by
  induction entries generalizing s checkPointer with
  | nil =>
      cases h
      exact Or.inr ⟨s, rfl⟩
  | cons entry others ih =>
      rcases Option.bind_eq_some_iff.mp h with ⟨⟨text, behind⟩, hown, hothers⟩
      unfold readFields
      rw [readField_of_fieldText hown]
      cases (if entry.field = .mac then s.addDevice else s).store entry.field text with
      | none => exact Or.inl rfl
      | some s' => exact ih hothers s'

theorem readFields_appends (s : HandlerState) (checkPointer : List Char) :
    (readFields devicePatternEntry s checkPointer).Leaves fun s' =>
      exists later, s'.deviceList = s.deviceList ++ later := by
  by_cases hfound : devicePattern <:+: checkPointer
  · have hleft := readFields_device hfound s
    cases hround : readFields devicePatternEntry s checkPointer with
    | crashed => exact trivial
    | returned s' =>
        rw [hround] at hleft
        rcases hleft with ⟨device, hdevices, _⟩
        exact ⟨[device], hdevices⟩
    | reached s' rest =>
        rw [hround] at hleft
        rcases hleft with ⟨device, hdevices, _⟩
        exact ⟨[device], hdevices⟩
  · rw [readFields_of_unmarked hfound]
    exact ⟨[], (List.append_nil _).symm⟩

/-- Later rounds append to the devices of the earlier ones. -/
theorem devices_of_topologyLoop (h : topologyLoop s checkPointer = some s') :
    exists later, s'.deviceList = s.deviceList ++ later := by
  induction s, checkPointer using topologyLoop.induct with
  | case1 s checkPointer ended hround =>
      have hleft := readFields_appends s checkPointer
      rw [topologyLoop_of_returned hround] at h
      rw [hround] at hleft
      cases h
      exact hleft
  | case2 s checkPointer hround =>
      rw [topologyLoop_of_crashed hround] at h
      cases h
  | case3 s checkPointer next rest hround hlength ih =>
      have hleft := readFields_appends s checkPointer
      rw [topologyLoop_of_reached hround] at h
      rw [hround] at hleft
      rcases hleft with ⟨made, hmade⟩
      rcases ih h with ⟨later, hlater⟩
      exact ⟨made ++ later, by rw [hlater, hmade, List.append_assoc]⟩

end

/-!
## Sections and devices
-/

/-- The device of each section, and one for each section with a mac: `told` says
what the fields of a device are in its section. -/
structure Sectioned (told : List Char -> DeviceInfo -> Prop)
    (sections : List (List Char)) (devices : List DeviceInfo) : Prop where
  fields : forall (k : Nat) device, devices[k]? = some device ->
    exists own, sections[k]? = some own ∧ told own device
  yields : forall (k : Nat) own, sections[k]? = some own -> SpaceThenComma own ->
    k < devices.length

/-- Every field is a piece of the section. -/
def PieceOf (own : List Char) (device : DeviceInfo) : Prop :=
  forall field value, fieldOf device field = some value ->
    exists piece, piece <:+: own ∧ value = fieldValue field piece

/-- The fields a section has, taken alone. -/
def ownTexts (own : List Char) : List (PatternField × List Char) :=
  fieldTexts devicePatternEntry (devicePattern ++ own)

/-- The fields a section has with what follows it. -/
def textsFrom (own : List Char) (later : List (List Char)) :
    List (PatternField × List Char) :=
  fieldTexts devicePatternEntry (rejoined devicePattern [] (own :: later))

/-- Every field is a piece of what the section alone has of that field. -/
def ReadFrom (own : List Char) (device : DeviceInfo) : Prop :=
  forall field value, fieldOf device field = some value ->
    exists text, (field, text) ∈ ownTexts own ∧
      exists piece, piece <:+: text ∧ value = fieldValue field piece

/-- The text has the parts of the first fields. -/
def HasFields (count : Nat) (text : List Char) : Prop :=
  InOrder (partsOf (devicePatternEntry.take count)) text

/-- Each section has all five fields, up to one that lacks a field the rest of
the text lacks too and behind which no section has a mac. -/
def Contained : List (List Char) -> Prop
  | [] => True
  | own :: later =>
      (HasFields 5 (devicePattern ++ own) ∧ Contained later) ∨
        ((exists count, count < 5 ∧ HasFields count (devicePattern ++ own) ∧
            ¬ HasFields (count + 1) (rejoined devicePattern [] (own :: later))) ∧
          forall other, other ∈ later -> ¬ SpaceThenComma other)

section

variable {own before : List Char} {later : List (List Char)} {device : DeviceInfo}
  {devices : List DeviceInfo} {told : List Char -> DeviceInfo -> Prop}
  {s s' : HandlerState}

theorem hasFields_own {count : Nat} (hle : count <= 5) (own : List Char) :
    HasFields count (devicePattern ++ own) <-> count <= (ownTexts own).length :=
  inOrder_partsOf_iff (List.Subset.refl _) hle _

theorem hasFields_from {count : Nat} (hle : count <= 5) (own : List Char)
    (later : List (List Char)) :
    HasFields count (rejoined devicePattern [] (own :: later)) <->
      count <= (textsFrom own later).length :=
  inOrder_partsOf_iff (List.Subset.refl _) hle _

theorem sectioned_cons (hdevice : told own device) :
    Sectioned told (own :: later) (device :: devices) <->
      Sectioned told later devices := by
  constructor
  · intro h
    constructor
    · intro k other hother
      exact h.fields (k + 1) other hother
    · intro k other hother hmac
      exact Nat.lt_of_succ_lt_succ (h.yields (k + 1) other hother hmac)
  · intro h
    constructor
    · intro k other hother
      cases k with
      | zero =>
          cases hother
          exact ⟨own, rfl, hdevice⟩
      | succ k => exact h.fields k other hother
    · intro k other hother hmac
      cases k with
      | zero => exact Nat.succ_pos _
      | succ k => exact Nat.succ_lt_succ (h.yields k other hother hmac)

theorem sectioned_nil :
    Sectioned told later [] <->
      forall other, other ∈ later -> ¬ SpaceThenComma other := by
  constructor
  · intro h other hother hmac
    rcases List.getElem?_of_mem hother with ⟨k, hk⟩
    exact Nat.not_lt_zero k (h.yields k other hk hmac)
  · intro h
    constructor
    · intro k device hdevice
      cases hdevice
    · intro k other hother hmac
      exact absurd hmac (h other (List.mem_of_getElem? hother))

theorem Sectioned.imp {told' : List Char -> DeviceInfo -> Prop}
    (h : Sectioned told later devices)
    (himp : forall own device, told own device -> told' own device) :
    Sectioned told' later devices := by
  constructor
  · intro k device hdevice
    rcases h.fields k device hdevice with ⟨own, hown, htold⟩
    exact ⟨own, hown, himp own device htold⟩
  · exact h.yields

/-- Before the first device pattern there is nothing to read. -/
theorem fieldText_mac_skip (hbefore : ¬ devicePattern <:+: before) (text : List Char) :
    fieldText macEntry (before ++ (devicePattern ++ text)) =
      fieldText macEntry (devicePattern ++ text) := by
  have hmarker : Marker devicePattern := by decide
  have hskip : cut macEntry.pattern (before ++ (devicePattern ++ text)) =
      some (before, text) := cut_of_marker hmarker hbefore text
  have hhere : cut macEntry.pattern (devicePattern ++ text) = some ([], text) :=
    cut_of_starts devicePattern text
  unfold fieldText
  rw [hskip, hhere]
  rfl

theorem fieldTexts_skip (hbefore : ¬ devicePattern <:+: before) (text : List Char) :
    fieldTexts devicePatternEntry (before ++ (devicePattern ++ text)) =
      fieldTexts devicePatternEntry (devicePattern ++ text) := by
  unfold devicePatternEntry fieldTexts
  rw [fieldText_mac_skip hbefore]

theorem fieldTexts_before (hbefore : ¬ devicePattern <:+: before) (own : List Char)
    (later : List (List Char)) :
    fieldTexts devicePatternEntry (rejoined devicePattern before (own :: later)) =
      textsFrom own later := by
  unfold textsFrom
  rw [rejoined_cons, rejoined_cons, List.nil_append, fieldTexts_skip hbefore]

theorem fieldsBehind_skip (hbefore : ¬ devicePattern <:+: before) (text : List Char) :
    fieldsBehind devicePatternEntry (before ++ (devicePattern ++ text)) =
      fieldsBehind devicePatternEntry (devicePattern ++ text) := by
  unfold devicePatternEntry fieldsBehind
  rw [fieldText_mac_skip hbefore]

/-- What a section alone gives is in the section. -/
theorem infix_of_section {text : List Char} {field : PatternField}
    (h : (field, text) ∈ ownTexts own) :
    text <:+: own := by
  have hhere : cut macEntry.pattern (devicePattern ++ own) = some ([], own) :=
    cut_of_starts devicePattern own
  unfold ownTexts devicePatternEntry fieldTexts at h
  split at h
  · cases h
  · rename_i mac behind hmac
    rcases infix_of_fieldText hhere hmac with ⟨hmacOwn, hbehind⟩
    cases List.mem_cons.mp h with
    | inl heq =>
        cases heq
        exact hmacOwn
    | inr hrest => exact (infix_of_mem_fieldTexts hrest).trans hbehind

theorem infix_of_section_behind {rest : List Char}
    (h : fieldsBehind devicePatternEntry (devicePattern ++ own) = some rest) :
    rest <:+: own := by
  have hhere : cut macEntry.pattern (devicePattern ++ own) = some ([], own) :=
    cut_of_starts devicePattern own
  rcases Option.bind_eq_some_iff.mp h with ⟨⟨mac, behind⟩, hmac, hrest⟩
  exact (infix_of_fieldsBehind hrest).trans (infix_of_fieldText hhere hmac).2

theorem ReadFrom.pieceOf (h : ReadFrom own device) : PieceOf own device := by
  intro field value hvalue
  rcases h field value hvalue with ⟨text, htext, piece, hpiece, heq⟩
  exact ⟨piece, hpiece.trans (infix_of_section htext), heq⟩

/-!
## The three kinds of section
-/

theorem texts_prefix_rejoined (own : List Char) (later : List (List Char)) :
    ownTexts own <+: textsFrom own later := by
  have htext : rejoined devicePattern [] (own :: later) =
      (devicePattern ++ own) ++ rejoined devicePattern [] later := by
    simp [rejoined]
  unfold textsFrom
  rw [htext]
  exact fieldTexts_start _ _ _

theorem contained_of_all (hall : (ownTexts own).length = 5) :
    Contained (own :: later) <-> Contained later := by
  constructor
  · intro h
    cases h with
    | inl hwhole => exact hwhole.2
    | inr hstops =>
        rcases hstops.1 with ⟨count, hcount, _, hnot⟩
        rw [hasFields_from hcount] at hnot
        have hle := (texts_prefix_rejoined own later).length_le
        omega
  · intro h
    left
    rw [hasFields_own (Nat.le_refl 5)]
    exact ⟨by omega, h⟩

theorem contained_of_missing (hmissing : (ownTexts own).length < 5) :
    Contained (own :: later) <->
      (textsFrom own later).length = (ownTexts own).length ∧
        forall other, other ∈ later -> ¬ SpaceThenComma other := by
  have hle := (texts_prefix_rejoined own later).length_le
  constructor
  · intro h
    cases h with
    | inl hwhole =>
        have hall := (hasFields_own (Nat.le_refl 5) own).mp hwhole.1
        omega
    | inr hstops =>
        rcases hstops with ⟨⟨count, hcount, hhas, hnot⟩, hlater⟩
        rw [hasFields_own (Nat.le_of_lt hcount)] at hhas
        rw [hasFields_from hcount] at hnot
        exact ⟨by omega, hlater⟩
  · rintro ⟨hsame, hlater⟩
    right
    refine ⟨⟨_, hmissing, ?_, ?_⟩, hlater⟩
    · rw [hasFields_own (Nat.le_of_lt hmissing)]
    · rw [hasFields_from hmissing]
      omega

/-- A field that the section alone does not have is not read from it. -/
theorem not_readFrom_of_longer
    (hlonger : (ownTexts own).length < (textsFrom own later).length)
    (htold : ToldBy (textsFrom own later) device) : ¬ ReadFrom own device := by
  intro hread
  rcases texts_prefix_rejoined own later with ⟨more, hmore⟩
  cases more with
  | nil =>
      rw [← hmore, List.append_nil] at hlonger
      omega
  | cons crossing more =>
      rcases crossing with ⟨field, text⟩
      have hgiven : fieldOf device field ≠ none := by
        apply htold.given field text
        rw [← hmore]
        exact List.mem_append_right _ List.mem_cons_self
      rcases Option.ne_none_iff_exists'.mp hgiven with ⟨value, hvalue⟩
      rcases hread field value hvalue with ⟨own', hown, _⟩
      -- No field is read twice.
      have hnodup : ((textsFrom own later).map Prod.fst).Nodup := by
        have hall : (devicePatternEntry.map Pattern.field).Nodup := by decide
        exact hall.sublist (fields_start _ _).sublist
      rw [← hmore, List.map_append, List.nodup_append] at hnodup
      exact hnodup.2.2 field (List.mem_map_of_mem hown) field
        (List.mem_map_of_mem List.mem_cons_self) rfl

theorem not_sectioned_of_longer
    (hlonger : (ownTexts own).length < (textsFrom own later).length)
    (htold : ToldBy (textsFrom own later) device) :
    ¬ Sectioned ReadFrom (own :: later) (device :: devices) := by
  intro h
  rcases h.fields 0 device rfl with ⟨own', hown, hread⟩
  cases hown
  exact not_readFrom_of_longer hlonger htold hread

/-- The device a round makes, whatever is before its section. -/
theorem readFields_section (own : List Char) (later : List (List Char))
    (hbefore : ¬ devicePattern <:+: before) (s : HandlerState) :
    (readFields devicePatternEntry s
        (rejoined devicePattern before (own :: later))).Leaves
      fun s' => exists device, s'.deviceList = s.deviceList ++ [device] ∧
        ToldBy (textsFrom own later) device := by
  have hfound : devicePattern <:+: rejoined devicePattern before (own :: later) := by
    rw [rejoined_cons]
    exact ⟨before, rejoined devicePattern own later, by simp⟩
  have hround := readFields_device hfound s
  rw [fieldTexts_before hbefore] at hround
  exact hround

theorem all_of_reached {rest : List Char} (hbefore : ¬ devicePattern <:+: before)
    (h : readFields devicePatternEntry s
      (rejoined devicePattern before (own :: later)) = .reached s' rest) :
    (textsFrom own later).length = 5 := by
  rw [← fieldTexts_before hbefore own later]
  apply fieldsBehind_isSome_iff.mp
  rw [behind_of_reached h]
  rfl

/-- A section that has all fields is read, and reading goes on in it. -/
theorem readFields_whole (hbefore : ¬ devicePattern <:+: before)
    (hall : (ownTexts own).length = 5) (s : HandlerState) :
    readFields devicePatternEntry s
        (rejoined devicePattern before (own :: later)) = .crashed ∨
      exists rest s' device, rest <:+: own ∧
        readFields devicePatternEntry s
            (rejoined devicePattern before (own :: later)) =
          .reached s' (rejoined devicePattern rest later) ∧
        s'.deviceList = s.deviceList ++ [device] ∧ ReadFrom own device := by
  have hsome := fieldsBehind_isSome_iff.mpr hall
  rcases Option.isSome_iff_exists.mp hsome with ⟨rest, hrest⟩
  have hbehind : fieldsBehind devicePatternEntry
      (rejoined devicePattern before (own :: later)) =
        some (rejoined devicePattern rest later) := by
    have happended := fieldsBehind_append hrest (rejoined devicePattern [] later)
    rw [rejoined_cons, fieldsBehind_skip hbefore]
    simpa [rejoined] using happended
  cases readFields_of_behind hbehind s with
  | inl hcrashed => exact Or.inl hcrashed
  | inr hreached =>
      right
      rcases hreached with ⟨s', hreached⟩
      have hleft := readFields_section own later hbefore s
      rw [hreached] at hleft
      rcases hleft with ⟨device, hdevices, htold⟩
      have hstarts := texts_prefix_rejoined own later
      have hle : (textsFrom own later).length <= 5 :=
        length_fieldTexts_le devicePatternEntry _
      have hsame := hstarts.eq_of_length_le (by omega)
      rw [← hsame] at htold
      exact ⟨rest, s', device, infix_of_section_behind hrest, hreached, hdevices,
        htold.piece⟩

/-- The handler keeps to the sections exactly when they are contained. -/
theorem sectioned_of_topologyLoop {pieces : List (List Char)}
    (hpieces : forall piece, piece ∈ pieces -> ¬ devicePattern <:+: piece)
    (hbefore : ¬ devicePattern <:+: before)
    (h : topologyLoop s (rejoined devicePattern before pieces) = some s') :
    exists devices, s'.deviceList = s.deviceList ++ devices ∧
      (Sectioned ReadFrom pieces devices <-> Contained pieces) := by
  induction pieces generalizing before s with
  | nil =>
      have htext : rejoined devicePattern before [] = before := List.append_nil before
      rw [htext, topologyLoop_of_returned (readFields_of_unmarked hbefore s)] at h
      cases h
      refine ⟨[], (List.append_nil _).symm, ?_⟩
      rw [sectioned_nil]
      exact iff_of_true (fun other hother => absurd hother List.not_mem_nil) trivial
  | cons own later ih =>
      have hown := hpieces own List.mem_cons_self
      have hlater := fun piece hpiece =>
        hpieces piece (List.mem_cons_of_mem own hpiece)
      have hle : (ownTexts own).length <= 5 :=
        length_fieldTexts_le devicePatternEntry _
      cases Nat.lt_or_eq_of_le hle with
      | inr hall =>
          cases readFields_whole hbefore hall s with
          | inl hcrashed =>
              rw [topologyLoop_of_crashed hcrashed] at h
              cases h
          | inr hwhole =>
              rcases hwhole with ⟨rest, next, device, hrest, hreached, hdevices, hread⟩
              rw [topologyLoop_of_reached hreached] at h
              have hrestNone : ¬ devicePattern <:+: rest := fun hoccurs =>
                hown (hoccurs.trans hrest)
              rcases ih hlater hrestNone h with ⟨devices, hend, hiff⟩
              refine ⟨device :: devices, ?_, ?_⟩
              · rw [hend, hdevices, List.append_assoc]
                rfl
              · rw [sectioned_cons hread, contained_of_all hall]
                exact hiff
      | inl hmissing =>
          have hleft := readFields_section own later hbefore s
          have hstarts := texts_prefix_rejoined own later
          rw [contained_of_missing hmissing]
          cases hround : readFields devicePatternEntry s
              (rejoined devicePattern before (own :: later)) with
          | crashed =>
              rw [topologyLoop_of_crashed hround] at h
              cases h
          | returned next =>
              rw [topologyLoop_of_returned hround] at h
              rw [hround] at hleft
              cases h
              rcases hleft with ⟨device, hdevices, htold⟩
              refine ⟨[device], hdevices, ?_⟩
              by_cases hlonger : (ownTexts own).length < (textsFrom own later).length
              · exact iff_of_false (not_sectioned_of_longer hlonger htold)
                  fun hsame => by omega
              · have hsame := hstarts.eq_of_length_le (by omega)
                rw [← hsame] at htold
                have hread : ReadFrom own device := htold.piece
                rw [sectioned_cons hread, sectioned_nil, ← hsame]
                exact (and_iff_right rfl).symm
          | reached next rest =>
              -- The round got to its end with a field from behind the section.
              rw [topologyLoop_of_reached hround] at h
              rw [hround] at hleft
              rcases hleft with ⟨device, hdevices, htold⟩
              rcases devices_of_topologyLoop h with ⟨devices, hend⟩
              refine ⟨device :: devices, ?_, ?_⟩
              · rw [hend, hdevices, List.append_assoc]
                rfl
              · have hfive := all_of_reached hbefore hround
                have hlonger :
                    (ownTexts own).length < (textsFrom own later).length := by
                  omega
                exact iff_of_false (not_sectioned_of_longer hlonger htold)
                  fun hsame => by omega

end

/-- No field crosses into another section, and no section with a mac is passed
over, exactly when each section has its fields up to one that ends the reading;
then each field is a piece of its own section. -/
theorem sectioned_topologyHandler_iff {startRecord5g startRecord2g : Bool}
    {text : String} {s : HandlerState}
    (h : topologyHandler startRecord5g startRecord2g (some text) = some s) :
    (Sectioned ReadFrom (sections text.toList) s.deviceList <->
        Contained (sections text.toList)) ∧
      (Contained (sections text.toList) ->
        Sectioned PieceOf (sections text.toList) s.deviceList) := by
  have hne : devicePattern ≠ [] := by decide
  rcases exists_segments hne text.toList with
    ⟨before, pieces, hsegments, htext, hbefore, hpieces⟩
  have hsections : sections text.toList = pieces := by
    unfold sections
    rw [hsegments]
    rfl
  rw [topologyHandler_some, htext] at h
  rcases sectioned_of_topologyLoop hpieces hbefore h with ⟨devices, hdevices, hiff⟩
  have hall : s.deviceList = devices := hdevices
  rw [hsections, hall]
  exact ⟨hiff, fun hcontained =>
    (hiff.mpr hcontained).imp fun _ _ hread => hread.pieceOf⟩

/-- Three sections, each with all its fields. -/
theorem sectioned_topologyHandler_iff_meshAnswer :
    (Sectioned ReadFrom (sections meshAnswer.toList) (gatewayTold :: agentsTold) <->
        Contained (sections meshAnswer.toList)) ∧
      (Contained (sections meshAnswer.toList) ->
        Sectioned PieceOf (sections meshAnswer.toList) (gatewayTold :: agentsTold)) := by
  have hanswer := sectioned_topologyHandler_iff topologyHandler_meshAnswer
  exact hanswer

/-!
## A gateway without a parent
-/

/-- No radio line ends in a digit. -/
def RadioLinesEnd (text : List Char) : Prop :=
  forall line, line ∈ text.splitOn '\n' -> wlanPattern <:+: line ->
    line.getLast?.any isDigit = false

def parentlessSection : List Char :=
  " 02:00:00:00:00:0A,\nIPv4 address: 192.168.1.1 \n".toList ++
    "Radios:\nWLAN: 36 \nWLAN: 6 \n".toList

def agentSection : List Char :=
  " 02:00:00:00:00:0B,\nIPv4 address: 192.168.1.2 \n".toList ++
    "Upstream Device: br-lan\nRadios:\nWLAN: 40 \nWLAN: 1 \n".toList

def parentlessAnswer : String :=
  String.ofList (rejoined devicePattern [] [parentlessSection, agentSection])

/-- The gateway with the parent and the channels of the agent. -/
def mixedUp : DeviceInfo where
  role := some "controller"
  mac := some "02:00:00:00:00:0a"
  ip := some "192.168.1.1"
  parentMac := some "br-lan"
  channelSelection5g := some "40"
  channelSelection2g := some "1"

theorem topologyHandler_parentlessAnswer :
    topologyHandler false false (some parentlessAnswer) =
      some ⟨[mixedUp], 1, false, false⟩ := by
  have hround : readFields devicePatternEntry (HandlerState.initial false false)
      (rejoined devicePattern [] [parentlessSection, agentSection]) =
        .reached ⟨[mixedUp], 1, false, false⟩ ['\n'] := by
    decide +kernel
  have hnone : ¬ devicePattern <:+: ['\n'] := by decide
  rw [topologyHandler_some, parentlessAnswer, String.toList_ofList,
    topologyLoop_of_reached hround]
  exact topologyLoop_of_returned (readFields_of_unmarked hnone _)

theorem sections_parentlessAnswer :
    sections parentlessAnswer.toList = [parentlessSection, agentSection] := by
  have hmarker : Marker devicePattern := by decide
  have hbefore : ¬ devicePattern <:+: [] := by decide
  have hpieces : forall piece, piece ∈ [parentlessSection, agentSection] ->
      ¬ devicePattern <:+: piece := by
    decide +kernel
  rw [parentlessAnswer, String.toList_ofList, sections,
    segments_rejoined hmarker hbefore hpieces]
  rfl

/-- The agent of the second section is swallowed by the gateway. -/
theorem not_sectioned_of_parentlessAnswer :
    ¬ forall (startRecord5g startRecord2g : Bool) (text : String) (s : HandlerState),
      RadioLinesEnd text.toList ->
        topologyHandler startRecord5g startRecord2g (some text) = some s ->
          Sectioned PieceOf (sections text.toList) s.deviceList := by
  intro hall
  have hlines : RadioLinesEnd parentlessAnswer.toList := by
    unfold RadioLinesEnd
    rw [parentlessAnswer, String.toList_ofList]
    decide +kernel
  have hsectioned := hall false false _ _ hlines topologyHandler_parentlessAnswer
  rw [sections_parentlessAnswer] at hsectioned
  have hmac : SpaceThenComma agentSection := by
    unfold SpaceThenComma
    decide +kernel
  exact Nat.lt_irrefl 1 (hsectioned.yields 1 agentSection rfl hmac)

end Mesh
end Noc
