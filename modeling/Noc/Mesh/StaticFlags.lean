import Noc.Mesh.Rounds

/-!
# Parsing twice

The flag `start_record` of each scanner is static: what one call leaves in it,
the next call begins with.  Two calls on one text from different flags store
the same as long as the scans of the radio lines give the same.
-/

namespace Noc
namespace Mesh

open Foundation

/-!
## Two flags, one line
-/

section

variable {line : List Char}

theorem scan_nil (startRecord : Bool) :
    openAfter startRecord [] = startRecord ∧ Copyable startRecord [] ∧
      scanned startRecord [] = [] := by
  cases startRecord <;> decide

theorem scan_front (hne : line ≠ [])
    (h : runStart line = 0 ∨ firstDigitRun line = []) :
    openAfter true line = openAfter false line ∧ Copyable false line ∧
      scanned true line = scanned false line := by
  rcases exists_digitSplit line with ⟨front, run, back, hsplit⟩
  have hlength := hsplit.length
  by_cases hrun : firstDigitRun line = []
  · -- No digit in the line.
    have hline : line = front := by
      rw [hsplit.run_eq] at hrun
      rw [hsplit.line_eq, hrun, hsplit.back_nil hrun]
      simp
    rcases List.exists_cons_of_ne_nil hne with ⟨c, rest, hcons⟩
    have hc : isDigit c = false := hsplit.front_digits c (by
      rw [← hline, hcons]
      exact List.mem_cons_self)
    have hall : line.all isDigit = false := by
      rw [hcons, List.all_cons, hc]
      rfl
    have htake : line.takeWhile isDigit = [] := by
      rw [hcons, List.takeWhile_cons_of_neg (by rw [hc]; exact Bool.false_ne_true)]
    unfold openAfter scanned scanIndices
    simp [hrun, hall, htake, Copyable]
  · -- The line begins with its digits.
    have hstart : runStart line = 0 := h.resolve_right hrun
    have htake := firstDigitRun_of_runStart hstart
    have hstop : runStop line = (line.takeWhile isDigit).length := by
      rw [runStop, hstart, htake, Nat.zero_add]
    have hcopy : Copyable false line := by
      refine Or.inr (Or.inr ?_)
      rw [hstart]
      exact Nat.zero_le _
    have hall : line.all isDigit = true <-> runStop line = line.length := by
      rw [List.all_eq_true, ← List.takeWhile_eq_self_iff, hstop]
      constructor
      · intro heq
        rw [heq]
      · intro hlen
        exact (List.takeWhile_prefix isDigit).eq_of_length hlen
    refine ⟨?_, hcopy, ?_⟩
    · unfold openAfter
      rw [if_pos rfl, if_neg Bool.false_ne_true, Bool.eq_iff_iff, hall]
      simp [hrun]
    · unfold scanned scanIndices
      rw [if_pos rfl, if_neg Bool.false_ne_true, if_neg hrun]
      by_cases hend : runStop line = line.length
      · rw [if_pos (hall.mpr hend), if_neg (by omega)]
        simp
      · have hlt : runStop line < line.length :=
          Nat.lt_of_le_of_ne (runStop_le line) hend
        rw [if_neg fun h => hend (hall.mp h), if_pos hlt, hstart, hstop]
        rfl

/-- Digits at the very front, or none at all: the flag makes no difference. -/
theorem scan_either (hne : line ≠ [])
    (h : runStart line = 0 ∨ firstDigitRun line = []) (startRecord : Bool) :
    openAfter startRecord line = openAfter (!startRecord) line ∧
      Copyable (!startRecord) line ∧
      scanned startRecord line = scanned (!startRecord) line := by
  rcases scan_front hne h with ⟨hopen, hcopy, hscanned⟩
  cases startRecord with
  | true => exact ⟨hopen, hcopy, hscanned⟩
  | false => exact ⟨hopen.symm, Or.inl rfl, hscanned.symm⟩

/-- Digits behind something else, where a scan inside digits stops at once. -/
theorem scan_behind (hstart : runStart line ≠ 0) :
    openAfter true line = false ∧ scanned true line = [] := by
  rcases exists_digitSplit line with ⟨front, run, back, hsplit⟩
  rw [hsplit.start_eq, Ne, List.length_eq_zero_iff] at hstart
  rcases List.exists_cons_of_ne_nil hstart with ⟨c, rest, hcons⟩
  have hc : isDigit c = false := hsplit.front_digits c (by
    rw [hcons]
    exact List.mem_cons_self)
  have hline : line = c :: (rest ++ (run ++ back)) := by
    rw [hsplit.line_eq, hcons]
    rfl
  have hall : line.all isDigit = false := by
    rw [hline, List.all_cons, hc]
    rfl
  have htake : line.takeWhile isDigit = [] := by
    rw [hline, List.takeWhile_cons_of_neg (by rw [hc]; exact Bool.false_ne_true)]
  unfold openAfter scanned scanIndices
  simp [hall, htake]

/-- The text of a scan that may be copied is empty where its indices agree. -/
theorem scanned_false_nil_iff (hrun : firstDigitRun line ≠ []) :
    Copyable false line ∧ scanned false line = [] <->
      runStart line % 65536 = stopIndex line := by
  rcases toNat_scanIndices_false hrun with ⟨hfirst, hlast⟩
  have hpos := List.length_pos_of_ne_nil hrun
  have hstop := runStop_le line
  have hmod := Nat.mod_le (runStart line) 65536
  have hlt : runStart line % 65536 < line.length := by
    unfold runStop at hstop
    omega
  have hscanned : scanned false line = [] <->
      stopIndex line <= runStart line % 65536 := by
    show (line.drop (scanIndices false line).1.toNat).take
      ((scanIndices false line).2.toNat - (scanIndices false line).1.toNat) = [] <-> _
    rw [hfirst, hlast, List.take_eq_nil_iff, List.drop_eq_nil_iff]
    omega
  have hcopy : Copyable false line <-> runStart line % 65536 <= stopIndex line := by
    simp [Copyable, hrun]
  rw [hcopy, hscanned]
  omega

end

/-!
## Two flags, all lines
-/

/-- A scan from either flag gives the same: behind empty lines comes one that
begins with a digit or has none, or one whose first digits begin and end at the
same index, taken modulo 65536.  Where they do not end within the line, the two
scans leave it with the flags exchanged. -/
def Interchangeable : List (List Char) -> Prop
  | [] => True
  | line :: later =>
      if line = [] then Interchangeable later
      else if runStart line = 0 ∨ firstDigitRun line = [] then True
      else if runStop line < line.length then
        runStart line % 65536 = runStop line % 65536
      else runStart line % 65536 = 0 ∧ Interchangeable later

section

variable {startRecord : Bool} {line : List Char} {lines : List (List Char)}

/-- What a line that begins with no digit, but has one, does to both scans. -/
theorem scan_apart (startRecord : Bool) (hstart : runStart line ≠ 0)
    (hrun : firstDigitRun line ≠ []) :
    openAfter startRecord line =
        (!startRecord && !decide (runStop line < line.length)) ∧
      ((Copyable startRecord line ∧ Copyable (!startRecord) line ∧
          scanned startRecord line = scanned (!startRecord) line) <->
        runStart line % 65536 = stopIndex line) := by
  rcases scan_behind hstart with ⟨hopen, hscanned⟩
  have hfalse := scanned_false_nil_iff hrun
  have htrue : Copyable true line := Or.inl rfl
  have hstop := runStop_le line
  have hclosed : openAfter false line = !decide (runStop line < line.length) := by
    unfold openAfter
    rw [if_neg Bool.false_ne_true, ← decide_not, decide_eq_decide, and_iff_right hrun]
    omega
  cases startRecord with
  | true =>
      refine ⟨hopen, ?_⟩
      rw [← hfalse, hscanned, and_iff_right htrue]
      exact and_congr_right fun _ => eq_comm
  | false =>
      refine ⟨hclosed, ?_⟩
      rw [← hfalse]
      show _ ∧ Copyable true line ∧ scanned false line = scanned true line <-> _
      rw [hscanned, and_iff_right htrue]

theorem interchangeable_iff (h : AllCopyable startRecord lines) :
    AllCopyable (!startRecord) lines ∧
        scannedAll startRecord lines = scannedAll (!startRecord) lines <->
      Interchangeable lines := by
  induction lines generalizing startRecord with
  | nil => exact iff_of_true ⟨trivial, rfl⟩ trivial
  | cons line later ih =>
      rcases h with ⟨hline, hlater⟩
      unfold AllCopyable scannedAll Interchangeable
      rw [List.cons.injEq]
      by_cases hempty : line = []
      · rw [if_pos hempty, hempty]
        rcases scan_nil startRecord with ⟨hopen, _, hscanned⟩
        rcases scan_nil (!startRecord) with ⟨hopen', hcopy', hscanned'⟩
        rw [hempty, hopen] at hlater
        rw [hopen, hopen', hscanned, hscanned', and_iff_right hcopy', ← ih hlater]
        exact and_congr_right fun _ => and_iff_right rfl
      · rw [if_neg hempty]
        by_cases heither : runStart line = 0 ∨ firstDigitRun line = []
        · rw [if_pos heither]
          have hsame := scan_either hempty heither startRecord
          rw [← hsame.1, ← hsame.2.2]
          exact iff_of_true ⟨⟨hsame.2.1, hlater⟩, rfl, rfl⟩ trivial
        · rw [if_neg heither]
          rw [not_or] at heither
          rcases scan_apart startRecord heither.1 heither.2 with ⟨hopen, hscan⟩
          rcases scan_apart (!startRecord) heither.1 heither.2 with ⟨hopen', _⟩
          rw [and_iff_right hline] at hscan
          by_cases hends : runStop line < line.length
          · -- Both scans leave the digits, so only what they store can differ.
            have hstop : stopIndex line = runStop line % 65536 := if_pos hends
            rw [decide_eq_true hends, Bool.not_true, Bool.and_false] at hopen hopen'
            rw [hopen] at hlater
            rw [if_pos hends, hopen, hopen', ← hstop, ← hscan, and_iff_left hlater,
              and_iff_left rfl]
          · -- Only the scan from the cleared flag is left inside the digits.
            have hstop : stopIndex line = 0 := if_neg hends
            rw [decide_eq_false hends, Bool.not_false, Bool.and_true] at hopen hopen'
            rw [hopen] at hlater
            have hrest := ih hlater
            rw [Bool.not_not] at hopen' hrest
            rw [if_neg hends, hopen, hopen', ← hstop, ← hscan, ← hrest]
            constructor
            · rintro ⟨⟨hcopy, hall⟩, hsame, hsames⟩
              exact ⟨⟨hcopy, hsame⟩, hall, hsames⟩
            · rintro ⟨⟨hcopy, hsame⟩, hall, hsames⟩
              exact ⟨⟨hcopy, hall⟩, hsame, hsames⟩

end

/-!
## Two states, one text
-/

/-- What a call answers, as against the flags it leaves. -/
def SameDevices (s t : HandlerState) : Prop :=
  s.deviceList = t.deviceList ∧ s.numberDevice = t.numberDevice

section

variable {s s' t t' : HandlerState} {field : PatternField} {text : List Char}
  {texts : List (PatternField × List Char)} {starts : List (List Char)} {radio : Radio}

theorem storedValue_congr
    (h : forall radio : Radio, radio.field = field ->
      scanned (s.startRecord radio) text = scanned (t.startRecord radio) text) :
    storedValue s field text = storedValue t field text := by
  cases field with
  | mac => rfl
  | ip => rfl
  | parentMac => rfl
  | channelSelection5g => exact congrArg String.ofList (h .fiveG rfl)
  | channelSelection2g => exact congrArg String.ofList (h .twoG rfl)

theorem length_scannedAll (startRecord : Bool) (lines : List (List Char)) :
    (scannedAll startRecord lines).length = lines.length := by
  induction lines generalizing startRecord with
  | nil => rfl
  | cons line later ih => exact congrArg (· + 1) (ih _)

theorem scannedAll_append_eq_iff {f g : Bool} {lines later : List (List Char)} :
    scannedAll f (lines ++ later) = scannedAll g (lines ++ later) <->
      scannedAll f lines = scannedAll g lines ∧
        scannedAll (openBehind f lines) later =
          scannedAll (openBehind g lines) later := by
  have hlength : (scannedAll f lines).length = (scannedAll g lines).length := by
    rw [length_scannedAll, length_scannedAll]
  rw [scannedAll_append, scannedAll_append]
  constructor
  · intro h
    exact List.append_inj h hlength
  · rintro ⟨hlines, hlater⟩
    rw [hlines, hlater]

theorem sameDevices_store (hst : SameDevices s t) (hs : s.store field text = some s')
    (ht : t.store field text = some t')
    (h : forall radio : Radio, radio.field = field ->
      scanned (s.startRecord radio) text = scanned (t.startRecord radio) text) :
    SameDevices s' t' := by
  rcases store_leaves hs with ⟨hdevices, hnumber, _⟩
  rcases store_leaves ht with ⟨hdevices', hnumber', _⟩
  constructor
  · rw [hdevices, hdevices', hst.1, storedValue_congr h]
  · rw [hnumber, hnumber', hst.2]

theorem sameDevices_storeAll (hst : SameDevices s t) (hs : storeAll s texts = some s')
    (ht : storeAll t texts = some t')
    (h : forall radio : Radio,
      scannedAll (s.startRecord radio) (linesOf radio texts) =
        scannedAll (t.startRecord radio) (linesOf radio texts)) :
    SameDevices s' t' := by
  induction texts generalizing s t with
  | nil =>
      cases hs
      cases ht
      exact hst
  | cons part rest ih =>
      rcases part with ⟨field, text⟩
      rw [storeAll_cons, Option.bind_eq_some_iff] at hs ht
      rcases hs with ⟨next, hstore, hs⟩
      rcases ht with ⟨next', hstore', ht⟩
      refine ih (sameDevices_store hst hstore hstore' ?_) hs ht ?_
      · intro radio hradio
        have hradios := h radio
        rw [linesOf_cons, if_pos hradio.symm] at hradios
        exact (List.cons.inj hradios).1
      · intro radio
        have hradios := h radio
        rw [linesOf_cons] at hradios
        rw [(store_leaves hstore).2.2, (store_leaves hstore').2.2]
        by_cases hradio : radio.field = field
        · rw [if_pos hradio.symm] at hradios
          rw [if_pos hradio, if_pos hradio]
          exact (List.cons.inj hradios).2
        · rw [if_neg fun heq => hradio heq.symm] at hradios
          rw [if_neg hradio, if_neg hradio]
          exact hradios

theorem sameDevices_readRound {start : List Char} (hst : SameDevices s t)
    (hs : readRound s start = some s') (ht : readRound t start = some t')
    (h : forall radio : Radio,
      scannedAll (s.startRecord radio)
          (linesOf radio (fieldTexts devicePatternEntry start)) =
        scannedAll (t.startRecord radio)
          (linesOf radio (fieldTexts devicePatternEntry start))) :
    SameDevices s' t' := by
  unfold readRound at hs ht
  split at hs
  · rename_i hfound
    rw [if_pos hfound] at ht
    have hmade : SameDevices s.addDevice t.addDevice := by
      unfold HandlerState.addDevice
      rw [hst.1, hst.2]
      exact ⟨rfl, rfl⟩
    refine sameDevices_storeAll hmade hs ht ?_
    intro radio
    cases radio with
    | fiveG => exact h .fiveG
    | twoG => exact h .twoG
  · rename_i hfound
    rw [if_neg hfound] at ht
    cases hs
    cases ht
    exact hst

theorem sameDevices_of_scannedAll (hst : SameDevices s t)
    (hs : starts.foldlM readRound s = some s')
    (ht : starts.foldlM readRound t = some t')
    (h : forall radio : Radio,
      scannedAll (s.startRecord radio) (linesIn radio starts) =
        scannedAll (t.startRecord radio) (linesIn radio starts)) :
    SameDevices s' t' := by
  induction starts generalizing s t with
  | nil =>
      cases hs
      cases ht
      exact hst
  | cons start rest ih =>
      rw [List.foldlM_cons] at hs ht
      rcases Option.bind_eq_some_iff.mp hs with ⟨next, hround, hs⟩
      rcases Option.bind_eq_some_iff.mp ht with ⟨next', hround', ht⟩
      simp only [linesIn_cons, scannedAll_append_eq_iff] at h
      refine ih (sameDevices_readRound hst hround hround' fun radio => (h radio).1)
        hs ht ?_
      intro radio
      rw [startRecord_of_readRound hround, startRecord_of_readRound hround']
      exact (h radio).2

/-!
The channels of the devices are what the scans gave, so devices that are the
same were scanned the same.
-/

def channelsOf (radio : Radio) (devices : List DeviceInfo) : List String :=
  devices.filterMap fun device => fieldOf device radio.field

theorem storedValue_radio (s : HandlerState) (radio : Radio) (text : List Char) :
    storedValue s radio.field text =
      String.ofList (scanned (s.startRecord radio) text) := by
  cases radio <;> rfl

/-- A round stores each field in its device once. -/
theorem channelsOf_storeAll {front : List DeviceInfo} {device : DeviceInfo}
    (hlast : s.deviceList = front ++ [device]) (hnodup : (texts.map Prod.fst).Nodup)
    (hunset : forall field, field ∈ texts.map Prod.fst -> fieldOf device field = none)
    (h : storeAll s texts = some s') (radio : Radio) :
    channelsOf radio s'.deviceList = channelsOf radio s.deviceList ++
      (scannedAll (s.startRecord radio) (linesOf radio texts)).map String.ofList := by
  induction texts generalizing s device with
  | nil =>
      cases h
      exact (List.append_nil _).symm
  | cons part rest ih =>
      rcases part with ⟨field, text⟩
      rw [storeAll_cons, Option.bind_eq_some_iff] at h
      rcases h with ⟨next, hstore, hrest⟩
      rcases store_leaves hstore with ⟨hdevices, _, hflags⟩
      rw [List.map_cons, List.nodup_cons] at hnodup
      rw [hlast, List.modifyLast_concat] at hdevices
      have hnext := ih hdevices hnodup.2 (by
        intro other hother
        rw [fieldOf_setField, if_neg]
        · exact hunset other (List.mem_cons_of_mem _ hother)
        · intro heq
          exact hnodup.1 (heq ▸ hother)) hrest
      rw [hnext, hdevices, hlast, hflags, linesOf_cons]
      unfold channelsOf
      rw [List.filterMap_append, List.filterMap_append]
      by_cases hradio : radio.field = field
      · have hnone := hunset field List.mem_cons_self
        rw [if_pos hradio, if_pos hradio.symm, ← hradio]
        rw [← hradio] at hnone
        simp [scannedAll, fieldOf_setField, hnone, storedValue_radio]
      · have hkept : fieldOf (setField field (storedValue s field text) device)
            radio.field = fieldOf device radio.field := by
          rw [fieldOf_setField, if_neg hradio]
        rw [if_neg hradio, if_neg fun heq => hradio heq.symm]
        simp only [List.filterMap_cons, hkept]

theorem channelsOf_readRound {start : List Char} (h : readRound s start = some s')
    (radio : Radio) :
    channelsOf radio s'.deviceList = channelsOf radio s.deviceList ++
      (scannedAll (s.startRecord radio)
        (linesOf radio (fieldTexts devicePatternEntry start))).map String.ofList := by
  unfold readRound at h
  split at h
  · have hfields : ((fieldTexts devicePatternEntry start).map Prod.fst).Nodup := by
      have hall : (devicePatternEntry.map Pattern.field).Nodup := by decide
      exact hall.sublist (fields_start devicePatternEntry start).sublist
    have hmade := channelsOf_storeAll (s := s.addDevice) rfl hfields (by
      intro field _
      cases field <;> rfl) h radio
    rw [hmade]
    unfold HandlerState.addDevice channelsOf
    rw [List.filterMap_append]
    cases radio <;> simp [fieldOf, Radio.field, HandlerState.startRecord]
  · rename_i hfound
    cases h
    rw [fieldTexts_of_unmarked hfound]
    exact (List.append_nil _).symm

theorem channelsOf_rounds (h : starts.foldlM readRound s = some s') (radio : Radio) :
    channelsOf radio s'.deviceList = channelsOf radio s.deviceList ++
      (scannedAll (s.startRecord radio) (linesIn radio starts)).map String.ofList := by
  induction starts generalizing s with
  | nil =>
      cases h
      exact (List.append_nil _).symm
  | cons start rest ih =>
      rw [List.foldlM_cons] at h
      rcases Option.bind_eq_some_iff.mp h with ⟨next, hround, hrest⟩
      rw [ih hrest, channelsOf_readRound hround, startRecord_of_readRound hround,
        linesIn_cons, scannedAll_append, List.map_append, List.append_assoc]

theorem sameDevices_iff (hst : SameDevices s t)
    (hs : starts.foldlM readRound s = some s')
    (ht : starts.foldlM readRound t = some t') :
    SameDevices s' t' <->
      forall radio : Radio,
        scannedAll (s.startRecord radio) (linesIn radio starts) =
          scannedAll (t.startRecord radio) (linesIn radio starts) := by
  constructor
  · intro h radio
    have hchannels := channelsOf_rounds hs radio
    rw [h.1, channelsOf_rounds ht radio, hst.1, List.append_cancel_left_eq] at hchannels
    exact (List.map_injective_iff.mpr (fun _ _ => String.ofList_injective) hchannels).symm
  · exact sameDevices_of_scannedAll hst hs ht

end

/-!
## One process
-/

theorem topologyHandler_some_iff {startRecord5g startRecord2g : Bool} {text : String}
    {s : HandlerState} :
    topologyHandler startRecord5g startRecord2g (some text) = some s <->
      (forall start, start ∈ roundStarts text.toList -> SpaceBehindDevice start) ∧
        (roundStarts text.toList).foldlM readRound
          (HandlerState.initial startRecord5g startRecord2g) = some s := by
  rw [topologyHandler_some, topologyLoop_eq_foldlM]
  split
  · rename_i hspace
    exact (and_iff_right hspace).symm
  · rename_i hspace
    exact iff_of_false nofun fun h => hspace h.1

/-- What a call leaves in the flag of a scanner. -/
theorem startRecord_of_topologyHandler {startRecord5g startRecord2g : Bool}
    {text : String} {s : HandlerState}
    (h : topologyHandler startRecord5g startRecord2g (some text) = some s) :
    s.startRecord5g = openBehind startRecord5g (radioLines .fiveG text.toList) ∧
      s.startRecord2g = openBehind startRecord2g (radioLines .twoG text.toList) := by
  have hrounds := (topologyHandler_some_iff.mp h).2
  exact ⟨startRecord_of_rounds hrounds .fiveG, startRecord_of_rounds hrounds .twoG⟩

/-- The lines leave the flag as it is, or it does not matter to the later ones. -/
def FlagSafe (startRecord : Bool) (lines later : List (List Char)) : Prop :=
  openBehind startRecord lines = startRecord ∨ Interchangeable later

theorem flagSafe_iff {f : Bool} {lines later : List (List Char)}
    (h : AllCopyable f later) :
    AllCopyable (openBehind f lines) later ∧
        scannedAll (openBehind f lines) later = scannedAll f later <->
      FlagSafe f lines later := by
  unfold FlagSafe
  by_cases hsame : openBehind f lines = f
  · rw [hsame]
    exact iff_of_true ⟨h, rfl⟩ (Or.inl rfl)
  · rw [Bool.eq_not_of_ne hsame, ← interchangeable_iff h, eq_comm]
    constructor
    · exact Or.inr
    · intro hor
      exact hor.resolve_left fun heq => hsame (by rw [Bool.eq_not_of_ne hsame, heq])

/-- The call on the second text answers the same when the first text was read
before it. -/
theorem topologyHandler_again_iff {startRecord5g startRecord2g : Bool}
    {first second : String} {s1 s2 : HandlerState}
    (h1 : topologyHandler startRecord5g startRecord2g (some first) = some s1)
    (h2 : topologyHandler startRecord5g startRecord2g (some second) = some s2) :
    (exists s, topologyHandler s1.startRecord5g s1.startRecord2g (some second) = some s ∧
        s.deviceList = s2.deviceList ∧ s.numberDevice = s2.numberDevice) <->
      FlagSafe startRecord5g (radioLines .fiveG first.toList)
          (radioLines .fiveG second.toList) ∧
        FlagSafe startRecord2g (radioLines .twoG first.toList)
          (radioLines .twoG second.toList) := by
  rcases startRecord_of_topologyHandler h1 with ⟨hflag5g, hflag2g⟩
  rcases topologyHandler_some_iff.mp h2 with ⟨hspace, hrounds⟩
  have hreadable := (isSome_topologyHandler_iff _ _ _).mp (Option.isSome_of_eq_some h2)
  rw [← flagSafe_iff hreadable.2.1, ← flagSafe_iff hreadable.2.2, ← hflag5g, ← hflag2g]
  have hinitial : SameDevices (HandlerState.initial s1.startRecord5g s1.startRecord2g)
      (HandlerState.initial startRecord5g startRecord2g) := ⟨rfl, rfl⟩
  constructor
  · rintro ⟨s, hs, hsame⟩
    have hagain := (isSome_topologyHandler_iff _ _ _).mp (Option.isSome_of_eq_some hs)
    have hscans := (sameDevices_iff hinitial (topologyHandler_some_iff.mp hs).2
      hrounds).mp hsame
    exact ⟨⟨hagain.2.1, hscans .fiveG⟩, hagain.2.2, hscans .twoG⟩
  · rintro ⟨⟨hcopy5g, hscan5g⟩, hcopy2g, hscan2g⟩
    have hagain : Readable s1.startRecord5g s1.startRecord2g second.toList :=
      ⟨hreadable.1, hcopy5g, hcopy2g⟩
    rcases Option.isSome_iff_exists.mp ((isSome_topologyHandler_iff _ _ _).mpr hagain) with
      ⟨s, hs⟩
    refine ⟨s, hs, (sameDevices_iff hinitial (topologyHandler_some_iff.mp hs).2
      hrounds).mpr ?_⟩
    intro radio
    cases radio with
    | fiveG => exact hscan5g
    | twoG => exact hscan2g

theorem topologyHandler_again_gatewayAnswer :
    FlagSafe false (radioLines .fiveG gatewayAnswer.toList)
        (radioLines .fiveG gatewayAnswer.toList) ∧
      FlagSafe false (radioLines .twoG gatewayAnswer.toList)
        (radioLines .twoG gatewayAnswer.toList) :=
  (topologyHandler_again_iff topologyHandler_gatewayAnswer
    topologyHandler_gatewayAnswer).mp ⟨_, topologyHandler_gatewayAnswer, rfl, rfl⟩

/-- A gateway alone, with one radio line. -/
def radioAnswer (line : List Char) : List Char :=
  devicePattern ++ " a,".toList ++ ipPattern ++ " b ".toList ++ parentPattern ++
    " c\n".toList ++ radiosPattern ++ wlanPattern ++ line ++ ['\n']

def radioTold (channel : String) : DeviceInfo where
  role := some "controller"
  mac := some "a"
  ip := some "b"
  parentMac := some "c"
  channelSelection5g := some channel

theorem topologyHandler_radioAnswer {startRecord5g startRecord2g : Bool}
    {line : List Char} {s : HandlerState}
    (h : readFields devicePatternEntry
      (HandlerState.initial startRecord5g startRecord2g) (radioAnswer line) =
        .returned s) :
    topologyHandler startRecord5g startRecord2g
      (some (String.ofList (radioAnswer line))) = some s := by
  rw [topologyHandler_some, String.toList_ofList]
  exact topologyLoop_of_returned h

/-- Behind an answer whose radio line ends in its digits, the channel of the next
answer is lost. -/
theorem not_again_of_openLine :
    exists first second s1 s2,
      topologyHandler false false (some first) = some s1 ∧
      topologyHandler false false (some second) = some s2 ∧
      ¬ exists s, topologyHandler s1.startRecord5g s1.startRecord2g (some second) =
        some s ∧ s.deviceList = s2.deviceList ∧ s.numberDevice = s2.numberDevice := by
  have hfirst := topologyHandler_radioAnswer (s := ⟨[radioTold ""], 1, true, false⟩)
    (show readFields devicePatternEntry (HandlerState.initial false false)
      (radioAnswer ['6']) = _ by decide +kernel)
  have hsecond := topologyHandler_radioAnswer (s := ⟨[radioTold "6"], 1, false, false⟩)
    (show readFields devicePatternEntry (HandlerState.initial false false)
      (radioAnswer [' ', '6', ' ']) = _ by decide +kernel)
  have hagain := topologyHandler_radioAnswer (s := ⟨[radioTold ""], 1, false, false⟩)
    (show readFields devicePatternEntry (HandlerState.initial true false)
      (radioAnswer [' ', '6', ' ']) = _ by decide +kernel)
  refine ⟨_, _, _, _, hfirst, hsecond, ?_⟩
  rintro ⟨s, hs, hdevices, _⟩
  rw [hagain, Option.some_inj] at hs
  rw [← hs] at hdevices
  exact absurd hdevices (by decide)

end Mesh
end Noc
