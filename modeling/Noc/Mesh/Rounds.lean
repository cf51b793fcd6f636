import Noc.Mesh.RadioScan
import Noc.Mesh.Sections

/-!
# Rounds of a topology

Where the rounds of `topology_handler` begin, and which fields each of them
finds, does not depend on what is stored.  A call is the storing of these
fields, one round after the other.
-/

namespace Noc
namespace Mesh

open Foundation

/-!
## Where the rounds begin
-/

theorem length_of_fieldsBehind {checkPointer rest : List Char}
    (h : fieldsBehind devicePatternEntry checkPointer = some rest) :
    rest.length < checkPointer.length := by
  rcases Option.bind_eq_some_iff.mp h with ⟨⟨text, behind⟩, hmac, hothers⟩
  rcases exists_cut_of_fieldText hmac with ⟨before, strPointer, hpattern⟩
  have hbehind := (infix_of_fieldText hpattern hmac).2.length_le
  have hrest := (infix_of_fieldsBehind hothers).length_le
  have hlength := congrArg List.length (eq_of_cut hpattern)
  have hmark : macEntry.pattern.length = 23 := rfl
  simp only [List.length_append] at hlength
  dsimp only at hrest
  omega

/-- What is left of the text at the beginning of each round.  The last round is
one that does not find all fields. -/
def roundStarts (checkPointer : List Char) : List (List Char) :=
  match h : fieldsBehind devicePatternEntry checkPointer with
  | none => [checkPointer]
  | some rest =>
      have : rest.length < checkPointer.length := length_of_fieldsBehind h
      checkPointer :: roundStarts rest
termination_by checkPointer.length

theorem roundStarts_of_none {checkPointer : List Char}
    (h : fieldsBehind devicePatternEntry checkPointer = none) :
    roundStarts checkPointer = [checkPointer] := by
  rw [roundStarts]
  split
  · rfl
  · rename_i hsome
    rw [h] at hsome
    cases hsome

theorem roundStarts_of_some {checkPointer rest : List Char}
    (h : fieldsBehind devicePatternEntry checkPointer = some rest) :
    roundStarts checkPointer = checkPointer :: roundStarts rest := by
  rw [roundStarts]
  split
  · rename_i hnone
    rw [h] at hnone
    cases hnone
  · rename_i hsome
    rw [h, Option.some_inj] at hsome
    rw [hsome]

/-- Behind the device pattern that the round finds there is a space. -/
def SpaceBehindDevice (start : List Char) : Prop :=
  match cut devicePattern start with
  | none => True
  | some (_, behind) => ' ' ∈ behind

instance (start : List Char) : Decidable (SpaceBehindDevice start) :=
  match h : cut devicePattern start with
  | none => isTrue (by rw [SpaceBehindDevice, h]; trivial)
  | some (_, behind) =>
      decidable_of_iff (' ' ∈ behind) (by rw [SpaceBehindDevice, h])

/-!
## What a round stores
-/

def storeAll (s : HandlerState) (texts : List (PatternField × List Char)) :
    Option HandlerState :=
  texts.foldlM (fun s part => s.store part.1 part.2) s

/-- A round makes a device and stores the fields it finds. -/
def readRound (s : HandlerState) (start : List Char) : Option HandlerState :=
  if devicePattern <:+: start then
    storeAll s.addDevice (fieldTexts devicePatternEntry start)
  else some s

/-- How fields end, by what is stored and what is left. -/
def outcomeOf : Option HandlerState -> Option (List Char) -> FieldOutcome
  | none, _ => .crashed
  | some s, none => .returned s
  | some s, some rest => .reached s rest

theorem storeAll_cons (s : HandlerState) (field : PatternField) (text : List Char)
    (texts : List (PatternField × List Char)) :
    storeAll s ((field, text) :: texts) =
      (s.store field text).bind fun s => storeAll s texts :=
  List.foldlM_cons

section

variable {entries : List Pattern} {checkPointer : List Char}

theorem readFields_eq (hnoMac : forall entry, entry ∈ entries -> entry.field ≠ .mac)
    (s : HandlerState) (checkPointer : List Char) :
    readFields entries s checkPointer =
      outcomeOf (storeAll s (fieldTexts entries checkPointer))
        (fieldsBehind entries checkPointer) := by
  induction entries generalizing s checkPointer with
  | nil => rfl
  | cons entry rest ih =>
      have hfield := hnoMac entry List.mem_cons_self
      have hrest : forall entry, entry ∈ rest -> entry.field ≠ .mac :=
        fun other hother => hnoMac other (List.mem_cons_of_mem entry hother)
      unfold readFields fieldTexts fieldsBehind
      cases hown : fieldText entry checkPointer with
      | none =>
          rw [readField_of_none hfield hown]
          rfl
      | some parts =>
          rw [readField_of_fieldText hown, if_neg hfield, Option.bind_some]
          dsimp only
          rw [storeAll_cons]
          cases hstore : s.store entry.field parts.1 with
          | none => rfl
          | some s' => exact ih hrest s' parts.2

theorem readFields_of_found {before strPointer : List Char}
    (hcut : cut devicePattern checkPointer = some (before, strPointer))
    (hspace : ' ' ∈ strPointer) (s : HandlerState) :
    readFields devicePatternEntry s checkPointer =
      outcomeOf (storeAll s.addDevice (fieldTexts devicePatternEntry checkPointer))
        (fieldsBehind devicePatternEntry checkPointer) := by
  have hrest : forall entry, entry ∈ [ipEntry, parentMacEntry, channelSelection5gEntry,
      channelSelection2gEntry] -> entry.field ≠ .mac := by decide
  have hmac : macEntry.field = .mac := rfl
  have hpattern : cut macEntry.pattern checkPointer = some (before, strPointer) := hcut
  unfold devicePatternEntry readFields fieldTexts fieldsBehind
  cases hown : fieldText macEntry checkPointer with
  | some parts =>
      rw [readField_of_fieldText hown, if_pos hmac, Option.bind_some]
      dsimp only
      rw [storeAll_cons]
      cases hstore : s.addDevice.store macEntry.field parts.1 with
      | none => rfl
      | some s' => exact readFields_eq hrest s' parts.2
  | none =>
      have hfound : macEntry.start <:+: strPointer := by
        show [' '] <:+: strPointer
        rw [List.singleton_infix_iff]
        exact hspace
      rcases exists_cut hfound with ⟨gap, startPointer, hstart⟩
      unfold fieldText at hown
      rw [hpattern, Option.bind_some, hstart, Option.bind_some,
        Option.map_eq_none_iff] at hown
      unfold readField
      simp only [hpattern, hstart, hown, if_pos hmac]
      rfl

/-- A round, by what it stores and what it leaves. -/
theorem readFields_round (s : HandlerState) (checkPointer : List Char) :
    readFields devicePatternEntry s checkPointer =
      if SpaceBehindDevice checkPointer then
        outcomeOf (readRound s checkPointer)
          (fieldsBehind devicePatternEntry checkPointer)
      else .crashed := by
  unfold readRound
  by_cases hfound : devicePattern <:+: checkPointer
  · rcases exists_cut hfound with ⟨before, strPointer, hcut⟩
    rw [if_pos hfound]
    by_cases hspace : ' ' ∈ strPointer
    · have hround : SpaceBehindDevice checkPointer := by
        rw [SpaceBehindDevice, hcut]
        exact hspace
      rw [if_pos hround]
      exact readFields_of_found hcut hspace s
    · have hround : ¬ SpaceBehindDevice checkPointer := by
        rw [SpaceBehindDevice, hcut]
        exact hspace
      have hpattern : cut macEntry.pattern checkPointer = some (before, strPointer) :=
        hcut
      have hstart : cut macEntry.start strPointer = none := by
        rw [cut_eq_none_iff]
        exact not_infix_singleton hspace
      have hmac : macEntry.field = .mac := rfl
      rw [if_neg hround]
      unfold devicePatternEntry readFields readField
      simp only [hpattern, hstart, if_pos hmac]
  · have hcut := cut_eq_none_iff.mpr hfound
    have hround : SpaceBehindDevice checkPointer := by
      rw [SpaceBehindDevice, hcut]
      trivial
    have hbehind : fieldsBehind devicePatternEntry checkPointer = none := by
      have hpattern : cut macEntry.pattern checkPointer = none := hcut
      unfold devicePatternEntry fieldsBehind fieldText
      rw [hpattern]
      rfl
    rw [readFields_of_unmarked hfound, if_pos hround, if_neg hfound, hbehind]
    rfl

end

/-- A call is the storing of the rounds, if none lacks the space. -/
theorem topologyLoop_eq_foldlM (s : HandlerState) (checkPointer : List Char) :
    topologyLoop s checkPointer =
      if forall start, start ∈ roundStarts checkPointer -> SpaceBehindDevice start then
        (roundStarts checkPointer).foldlM readRound s
      else none := by
  induction checkPointer using roundStarts.induct generalizing s with
  | case1 checkPointer hnone =>
      have hround := readFields_round s checkPointer
      rw [hnone] at hround
      rw [roundStarts_of_none hnone]
      by_cases hspace : SpaceBehindDevice checkPointer
      · rw [if_pos hspace] at hround
        rw [if_pos (List.forall_mem_singleton.mpr hspace), List.foldlM_cons]
        cases hstored : readRound s checkPointer with
        | none =>
            rw [hstored] at hround
            exact topologyLoop_of_crashed hround
        | some s' =>
            rw [hstored] at hround
            exact topologyLoop_of_returned hround
      · rw [if_neg hspace] at hround
        rw [if_neg fun hall => hspace (List.forall_mem_singleton.mp hall)]
        exact topologyLoop_of_crashed hround
  | case2 checkPointer rest hsome hlength ih =>
      have hround := readFields_round s checkPointer
      rw [hsome] at hround
      rw [roundStarts_of_some hsome]
      by_cases hspace : SpaceBehindDevice checkPointer
      · rw [if_pos hspace] at hround
        rw [List.foldlM_cons]
        cases hstored : readRound s checkPointer with
        | none =>
            rw [hstored] at hround
            rw [topologyLoop_of_crashed hround]
            split <;> rfl
        | some s' =>
            rw [hstored] at hround
            rw [topologyLoop_of_reached hround, ih s']
            simp only [List.forall_mem_cons, hspace, true_and]
            rfl
      · rw [if_neg hspace] at hround
        rw [topologyLoop_of_crashed hround,
          if_neg fun hall => hspace (List.forall_mem_cons.mp hall).1]

/-!
## The radio lines

The lines that the two scanners are given, in order.
-/

inductive Radio where
  | fiveG
  | twoG
  deriving DecidableEq, Repr

def Radio.field : Radio -> PatternField
  | .fiveG => .channelSelection5g
  | .twoG => .channelSelection2g

/-- The static flag `start_record` of a scanner. -/
def HandlerState.startRecord (s : HandlerState) : Radio -> Bool
  | .fiveG => s.startRecord5g
  | .twoG => s.startRecord2g

def linesOf (radio : Radio) (texts : List (PatternField × List Char)) :
    List (List Char) :=
  texts.filterMap fun part => if part.1 = radio.field then some part.2 else none

def linesIn (radio : Radio) (starts : List (List Char)) : List (List Char) :=
  starts.flatMap fun start => linesOf radio (fieldTexts devicePatternEntry start)

def radioLines (radio : Radio) (text : List Char) : List (List Char) :=
  linesIn radio (roundStarts text)

/-- The flag behind some lines. -/
def openBehind (startRecord : Bool) (lines : List (List Char)) : Bool :=
  lines.foldl openAfter startRecord

/-- Every line can be copied with the flag that the lines before it leave. -/
def AllCopyable : Bool -> List (List Char) -> Prop
  | _, [] => True
  | startRecord, line :: later =>
      Copyable startRecord line ∧ AllCopyable (openAfter startRecord line) later

/-- What is stored of the lines. -/
def scannedAll : Bool -> List (List Char) -> List (List Char)
  | _, [] => []
  | startRecord, line :: later =>
      scanned startRecord line :: scannedAll (openAfter startRecord line) later

section

variable {startRecord : Bool} {lines later : List (List Char)}

theorem openBehind_append :
    openBehind startRecord (lines ++ later) =
      openBehind (openBehind startRecord lines) later :=
  List.foldl_append

theorem allCopyable_append :
    AllCopyable startRecord (lines ++ later) <->
      AllCopyable startRecord lines ∧
        AllCopyable (openBehind startRecord lines) later := by
  induction lines generalizing startRecord with
  | nil => exact (and_iff_right trivial).symm
  | cons line rest ih =>
      show Copyable startRecord line ∧ AllCopyable _ (rest ++ later) <-> _
      rw [ih, ← and_assoc]
      rfl

theorem scannedAll_append :
    scannedAll startRecord (lines ++ later) =
      scannedAll startRecord lines ++
        scannedAll (openBehind startRecord lines) later := by
  induction lines generalizing startRecord with
  | nil => rfl
  | cons line rest ih =>
      show scanned startRecord line :: scannedAll _ (rest ++ later) = _
      rw [ih]
      rfl

end

/-!
## A field stored
-/

/-- The value a field gets from its text. -/
def storedValue (s : HandlerState) (field : PatternField) (text : List Char) :
    String :=
  match field with
  | .channelSelection5g => String.ofList (scanned s.startRecord5g text)
  | .channelSelection2g => String.ofList (scanned s.startRecord2g text)
  | field => fieldValue field text

section

variable {s s' : HandlerState} {field : PatternField} {text : List Char} {radio : Radio}
  {texts : List (PatternField × List Char)}

theorem store_channelSelection5g_eq (s : HandlerState) (text : List Char) :
    s.store .channelSelection5g text =
      if Copyable s.startRecord5g text then
        some { s.setLast (setField .channelSelection5g
            (storedValue s .channelSelection5g text)) with
          startRecord5g := openAfter s.startRecord5g text }
      else none := by
  unfold HandlerState.store
  dsimp only
  rw [recordDigits_eq]
  dsimp only
  rw [channelSelection_eq]
  split <;> rfl

theorem store_channelSelection2g_eq (s : HandlerState) (text : List Char) :
    s.store .channelSelection2g text =
      if Copyable s.startRecord2g text then
        some { s.setLast (setField .channelSelection2g
            (storedValue s .channelSelection2g text)) with
          startRecord2g := openAfter s.startRecord2g text }
      else none := by
  unfold HandlerState.store
  dsimp only
  rw [recordDigits_eq]
  dsimp only
  rw [channelSelection_eq]
  split <;> rfl

/-- Only a radio line may be one that cannot be copied. -/
theorem isSome_store_iff :
    (s.store field text).isSome = true <->
      forall radio : Radio, radio.field = field -> Copyable (s.startRecord radio) text := by
  have hothers : forall radio : Radio, radio.field ≠ .mac ∧ radio.field ≠ .ip ∧
      radio.field ≠ .parentMac := by
    intro radio
    cases radio <;> decide
  cases field with
  | mac => exact iff_of_true rfl fun radio h => absurd h (hothers radio).1
  | ip => exact iff_of_true rfl fun radio h => absurd h (hothers radio).2.1
  | parentMac => exact iff_of_true rfl fun radio h => absurd h (hothers radio).2.2
  | channelSelection5g =>
      rw [store_channelSelection5g_eq]
      constructor
      · intro h radio hradio
        cases radio with
        | fiveG =>
            show Copyable s.startRecord5g text
            simpa using h
        | twoG => cases hradio
      · intro h
        have hcopy : Copyable s.startRecord5g text := h .fiveG rfl
        rw [if_pos hcopy]
        rfl
  | channelSelection2g =>
      rw [store_channelSelection2g_eq]
      constructor
      · intro h radio hradio
        cases radio with
        | fiveG => cases hradio
        | twoG =>
            show Copyable s.startRecord2g text
            simpa using h
      · intro h
        have hcopy : Copyable s.startRecord2g text := h .twoG rfl
        rw [if_pos hcopy]
        rfl

/-- The devices and the flags behind a field that was stored. -/
theorem store_leaves (h : s.store field text = some s') :
    s'.deviceList = s.deviceList.modifyLast (setField field (storedValue s field text)) ∧
      s'.numberDevice = s.numberDevice ∧
      forall radio : Radio, s'.startRecord radio =
        if radio.field = field then openAfter (s.startRecord radio) text
        else s.startRecord radio := by
  cases field with
  | mac =>
      cases h
      refine ⟨rfl, rfl, ?_⟩
      intro radio
      cases radio <;> rfl
  | ip =>
      cases h
      refine ⟨rfl, rfl, ?_⟩
      intro radio
      cases radio <;> rfl
  | parentMac =>
      cases h
      refine ⟨rfl, rfl, ?_⟩
      intro radio
      cases radio <;> rfl
  | channelSelection5g =>
      rw [store_channelSelection5g_eq] at h
      split at h
      · cases h
        refine ⟨rfl, rfl, ?_⟩
        intro radio
        cases radio <;> rfl
      · cases h
  | channelSelection2g =>
      rw [store_channelSelection2g_eq] at h
      split at h
      · cases h
        refine ⟨rfl, rfl, ?_⟩
        intro radio
        cases radio <;> rfl
      · cases h

theorem linesOf_cons (radio : Radio) (field : PatternField) (text : List Char)
    (texts : List (PatternField × List Char)) :
    linesOf radio ((field, text) :: texts) =
      if field = radio.field then text :: linesOf radio texts
      else linesOf radio texts := by
  unfold linesOf
  rw [List.filterMap_cons]
  dsimp only
  split <;> rename_i h <;> split at h <;> simp_all

/-!
## Runs
-/

/-- The fields of a round can be stored when its radio lines can be copied. -/
theorem isSome_storeAll_iff :
    (storeAll s texts).isSome = true <->
      forall radio : Radio, AllCopyable (s.startRecord radio) (linesOf radio texts) := by
  induction texts generalizing s with
  | nil => exact iff_of_true rfl fun _ => trivial
  | cons part rest ih =>
      rcases part with ⟨field, text⟩
      rw [storeAll_cons]
      have hline : forall radio : Radio,
          AllCopyable (s.startRecord radio) (linesOf radio ((field, text) :: rest)) <->
            (radio.field = field -> Copyable (s.startRecord radio) text) ∧
              AllCopyable
                (if radio.field = field then openAfter (s.startRecord radio) text
                  else s.startRecord radio)
                (linesOf radio rest) := by
        intro radio
        rw [linesOf_cons]
        by_cases hradio : radio.field = field
        · rw [if_pos hradio.symm, if_pos hradio]
          exact and_congr_left fun _ => ⟨fun hcopy _ => hcopy, fun h => h hradio⟩
        · rw [if_neg fun h => hradio h.symm, if_neg hradio]
          exact (and_iff_right fun h => absurd h hradio).symm
      simp only [hline, forall_and]
      rw [← isSome_store_iff]
      cases hstore : s.store field text with
      | none => exact iff_of_false Bool.false_ne_true fun h => Bool.false_ne_true h.1
      | some s' =>
          rw [Option.bind_some, ih]
          simp only [(store_leaves hstore).2.2]
          exact (and_iff_right rfl).symm

theorem startRecord_of_storeAll (h : storeAll s texts = some s') (radio : Radio) :
    s'.startRecord radio = openBehind (s.startRecord radio) (linesOf radio texts) := by
  induction texts generalizing s with
  | nil =>
      cases h
      rfl
  | cons part rest ih =>
      rcases part with ⟨field, text⟩
      rw [storeAll_cons, Option.bind_eq_some_iff] at h
      rcases h with ⟨next, hstore, hrest⟩
      rw [ih hrest, (store_leaves hstore).2.2, linesOf_cons]
      by_cases hradio : radio.field = field
      · rw [if_pos hradio, if_pos hradio.symm]
        rfl
      · rw [if_neg hradio, if_neg fun h => hradio h.symm]

theorem fieldTexts_of_unmarked {start : List Char} (h : ¬ devicePattern <:+: start) :
    fieldTexts devicePatternEntry start = [] := by
  have hpattern : cut macEntry.pattern start = none := cut_eq_none_iff.mpr h
  unfold devicePatternEntry fieldTexts fieldText
  rw [hpattern]
  rfl

theorem isSome_readRound_iff (s : HandlerState) (start : List Char) :
    (readRound s start).isSome = true <->
      forall radio : Radio, AllCopyable (s.startRecord radio)
        (linesOf radio (fieldTexts devicePatternEntry start)) := by
  unfold readRound
  split
  · rw [isSome_storeAll_iff]
    have hflags : s.addDevice.startRecord = s.startRecord := by
      funext radio
      cases radio <;> rfl
    rw [hflags]
  · rename_i hfound
    rw [fieldTexts_of_unmarked hfound]
    exact iff_of_true rfl fun _ => trivial

theorem startRecord_of_readRound {start : List Char} (h : readRound s start = some s')
    (radio : Radio) :
    s'.startRecord radio = openBehind (s.startRecord radio)
      (linesOf radio (fieldTexts devicePatternEntry start)) := by
  unfold readRound at h
  split at h
  · rw [startRecord_of_storeAll h radio]
    cases radio <;> rfl
  · rename_i hfound
    cases h
    rw [fieldTexts_of_unmarked hfound]
    rfl

theorem linesIn_cons (radio : Radio) (start : List Char) (starts : List (List Char)) :
    linesIn radio (start :: starts) =
      linesOf radio (fieldTexts devicePatternEntry start) ++ linesIn radio starts :=
  List.flatMap_cons

theorem isSome_rounds_iff (starts : List (List Char)) (s : HandlerState) :
    (starts.foldlM readRound s).isSome = true <->
      forall radio : Radio, AllCopyable (s.startRecord radio) (linesIn radio starts) := by
  induction starts generalizing s with
  | nil => exact iff_of_true rfl fun _ => trivial
  | cons start rest ih =>
      rw [List.foldlM_cons]
      simp only [linesIn_cons, allCopyable_append, forall_and]
      rw [← isSome_readRound_iff]
      cases hround : readRound s start with
      | none => exact iff_of_false Bool.false_ne_true fun h => Bool.false_ne_true h.1
      | some s' =>
          show (rest.foldlM readRound s').isSome = true <-> _
          rw [ih]
          simp only [startRecord_of_readRound hround]
          exact (and_iff_right rfl).symm

theorem startRecord_of_rounds {starts : List (List Char)}
    (h : starts.foldlM readRound s = some s') (radio : Radio) :
    s'.startRecord radio = openBehind (s.startRecord radio) (linesIn radio starts) := by
  induction starts generalizing s with
  | nil =>
      cases h
      rfl
  | cons start rest ih =>
      rw [List.foldlM_cons] at h
      rcases Option.bind_eq_some_iff.mp h with ⟨next, hround, hrest⟩
      rw [ih hrest, startRecord_of_readRound hround, linesIn_cons, openBehind_append]

end

/-- A text is read to its end when every round has its space and every radio
line can be copied. -/
def Readable (startRecord5g startRecord2g : Bool) (text : List Char) : Prop :=
  (forall start, start ∈ roundStarts text -> SpaceBehindDevice start) ∧
    AllCopyable startRecord5g (radioLines .fiveG text) ∧
    AllCopyable startRecord2g (radioLines .twoG text)

theorem isSome_topologyHandler_iff (startRecord5g startRecord2g : Bool)
    (text : String) :
    (topologyHandler startRecord5g startRecord2g (some text)).isSome = true <->
      Readable startRecord5g startRecord2g text.toList := by
  rw [topologyHandler_some, topologyLoop_eq_foldlM]
  unfold Readable
  have hruns := isSome_rounds_iff (roundStarts text.toList)
    (HandlerState.initial startRecord5g startRecord2g)
  have hradios : (forall radio : Radio,
      AllCopyable ((HandlerState.initial startRecord5g startRecord2g).startRecord radio)
        (radioLines radio text.toList)) <->
      AllCopyable startRecord5g (radioLines .fiveG text.toList) ∧
        AllCopyable startRecord2g (radioLines .twoG text.toList) := by
    constructor
    · intro h
      exact ⟨h .fiveG, h .twoG⟩
    · intro h radio
      cases radio with
      | fiveG => exact h.1
      | twoG => exact h.2
  rw [← hradios]
  split
  · rename_i hspace
    rw [hruns, and_iff_right hspace]
    rfl
  · rename_i hspace
    exact iff_of_false Bool.false_ne_true fun h => hspace h.1

end Mesh
end Noc
