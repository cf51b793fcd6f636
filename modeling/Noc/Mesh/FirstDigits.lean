import Noc.Mesh.StaticFlags

/-!
# The channel a scanner reads

When a radio line is stored as its first digits and leaves the flag cleared.
The stop index is only set where the digits end within the line, and the indices
go round at 65536.
-/

namespace Noc
namespace Mesh

open Foundation

/-- The first digits end within the line, at an index of 16 bits. -/
def EndsWithin (line : List Char) : Prop :=
  runStop line < line.length ∧ runStop line < 65536

instance (line : List Char) : Decidable (EndsWithin line) :=
  inferInstanceAs (Decidable (_ ∧ _))

/-- With the flag set the line itself has to begin with its digits. -/
def Scannable (startRecord : Bool) (line : List Char) : Prop :=
  match startRecord with
  | false => firstDigitRun line = [] ∨ EndsWithin line
  | true => line ≠ [] ∧
      (firstDigitRun line = [] ∨ (runStart line = 0 ∧ EndsWithin line))

instance (startRecord : Bool) (line : List Char) :
    Decidable (Scannable startRecord line) :=
  match startRecord with
  | false => inferInstanceAs (Decidable (_ ∨ _))
  | true => inferInstanceAs (Decidable (_ ∧ _))

/-- The line is stored in the last device as its first digits, and the flag is
false behind it. -/
def StoresFirstDigits (radio : Radio) (s : HandlerState) (front : List DeviceInfo)
    (device : DeviceInfo) (line : List Char) : Prop :=
  exists s', { s with deviceList := front ++ [device] }.store radio.field line = some s' ∧
    s'.deviceList =
      front ++ [setField radio.field (String.ofList (firstDigitRun line)) device] ∧
    s'.startRecord radio = false

/-!
## One line
-/

section

variable {line front run back : List Char}

/-- What comes before the digits holds none of them. -/
theorem DigitSplit.not_prefix_drop {i : Nat} (h : DigitSplit line front run back)
    (hrun : run ≠ []) (hi : i < front.length) : ¬ run <+: line.drop i := by
  intro hbegins
  rcases List.exists_cons_of_ne_nil hrun with ⟨d, rest, hcons⟩
  have hdigit := h.run_digits d (by rw [hcons]; exact List.mem_cons_self)
  have hfront := h.front_digits (front.get ⟨i, hi⟩) (List.get_mem _ _)
  rw [h.line_eq, List.drop_append_of_le_length (by omega), List.drop_eq_getElem_cons hi,
    hcons, List.cons_append, List.cons_prefix_cons] at hbegins
  rw [hbegins.1] at hdigit
  rw [List.get_eq_getElem] at hfront
  rw [hfront] at hdigit
  cases hdigit

theorem scanned_true (line : List Char) :
    scanned true line =
      if line.all isDigit then []
      else line.take ((line.takeWhile isDigit).length % 65536) := by
  unfold scanned scanIndices
  rw [if_pos rfl]
  by_cases hall : line.all isDigit = true
  · rw [if_pos hall, if_pos hall]
    rfl
  · rw [if_neg hall, if_neg hall]
    show (line.drop 0).take (UInt16.toNat _ - 0) = _
    rw [UInt16.toNat_ofNat', List.drop_zero, Nat.sub_zero]

theorem scanned_false (h : firstDigitRun line ≠ []) :
    scanned false line =
      (line.drop (runStart line % 65536)).take
        (stopIndex line - runStart line % 65536) := by
  rcases toNat_scanIndices_false h with ⟨hstart, hstop⟩
  unfold scanned
  dsimp only
  rw [hstart, hstop]

/-- A scan from a cleared flag. -/
theorem scanned_false_iff :
    Copyable false line ∧ scanned false line = firstDigitRun line ∧
        openAfter false line = false <->
      Scannable false line := by
  show _ <-> firstDigitRun line = [] ∨ EndsWithin line
  rcases exists_digitSplit line with ⟨front, run, back, hsplit⟩
  by_cases hnil : firstDigitRun line = []
  · have hscanned : scanned false line = [] := by
      unfold scanned scanIndices
      rw [if_neg Bool.false_ne_true, if_pos hnil]
      rfl
    have hopen : openAfter false line = false := by
      unfold openAfter
      rw [if_neg Bool.false_ne_true, decide_eq_false fun h => h.1 hnil]
    rw [hscanned, hnil]
    exact iff_of_true ⟨Or.inr (Or.inl hnil), rfl, hopen⟩ (Or.inl rfl)
  · have hrun : run ≠ [] := by
      rw [← hsplit.run_eq]
      exact hnil
    have hlength := hsplit.length
    have hstart := hsplit.start_eq
    have hstop := hsplit.stop_eq
    have hopen : openAfter false line = false <-> runStop line < line.length := by
      unfold openAfter
      rw [if_neg Bool.false_ne_true, decide_eq_false_iff_not]
      have hle := runStop_le line
      constructor
      · intro h
        have hne : runStop line ≠ line.length := fun heq => h ⟨hnil, heq⟩
        omega
      · intro h heq
        omega
    rw [hopen, or_iff_right hnil, scanned_false hnil, hsplit.run_eq]
    unfold EndsWithin Copyable stopIndex
    constructor
    · rintro ⟨hcopy, hsame, hends⟩
      refine ⟨hends, ?_⟩
      rw [if_pos hends] at hcopy hsame
      have hle : runStart line % 65536 <= runStop line % 65536 := by
        simpa [hnil] using hcopy
      have hsize := congrArg List.length hsame
      rw [List.length_take, List.length_drop] at hsize
      -- The indices are as far apart as the digits are long, so both are too low
      -- by as much; what is copied then begins in front of the digits.
      have hbegins : run <+: line.drop (runStart line % 65536) := by
        rw [← hsame]
        exact List.take_prefix _ _
      by_contra hwide
      have hbefore : runStart line % 65536 < front.length := by
        omega
      exact hsplit.not_prefix_drop hrun hbefore hbegins
    · rintro ⟨hends, hwide⟩
      have hle := runStart_le line
      have hcopied : (line.drop (runStart line)).take (runStop line - runStart line) =
          run := by
        rw [hstart, hstop, hsplit.line_eq, List.drop_left, Nat.add_sub_cancel_left,
          List.take_left]
      rw [if_pos hends, Nat.mod_eq_of_lt hwide, Nat.mod_eq_of_lt (by omega)]
      exact ⟨Or.inr (Or.inr hle), hcopied, hends⟩

/-- Digits at the front that do not go on to the end. -/
theorem scanned_true_digit {c : Char} {rest : List Char} (hline : line = c :: rest)
    (hc : isDigit c = true) (hall : line.all isDigit = false) :
    line.take ((line.takeWhile isDigit).length % 65536) = firstDigitRun line <->
      firstDigitRun line = [] ∨ (runStart line = 0 ∧ EndsWithin line) := by
  have hstart : runStart line = 0 := by
    unfold runStart
    rw [hline, List.takeWhile_cons_of_neg (by simp [hc])]
    rfl
  have hrun := firstDigitRun_of_runStart hstart
  have hbegins := List.takeWhile_prefix isDigit (l := line)
  have hne : firstDigitRun line ≠ [] := by
    rw [hrun, hline, List.takeWhile_cons_of_pos hc]
    exact List.cons_ne_nil _ _
  have hstop : runStop line = (line.takeWhile isDigit).length := by
    unfold runStop
    rw [hstart, hrun, Nat.zero_add]
  have hends : runStop line < line.length := by
    refine Nat.lt_of_le_of_ne (runStop_le line) ?_
    intro hlength
    have hwhole := hbegins.eq_of_length (by omega)
    rw [List.takeWhile_eq_self_iff] at hwhole
    have hevery := List.all_eq_true.mpr hwhole
    rw [hall] at hevery
    cases hevery
  rw [or_iff_right hne, and_iff_right hstart, hrun]
  unfold EndsWithin
  rw [and_iff_right hends, hstop]
  constructor
  · intro hsame
    have hsize := congrArg List.length hsame
    rw [List.length_take] at hsize
    have hle := hbegins.length_le
    omega
  · intro hwide
    rw [Nat.mod_eq_of_lt hwide]
    exact (List.prefix_iff_eq_take.mp hbegins).symm

/-- A scan that finds the flag set. -/
theorem scanned_true_iff :
    Copyable true line ∧ scanned true line = firstDigitRun line ∧
        openAfter true line = false <->
      Scannable true line := by
  show _ <-> line ≠ [] ∧
    (firstDigitRun line = [] ∨ (runStart line = 0 ∧ EndsWithin line))
  have hcopy : Copyable true line := Or.inl rfl
  have hopen : openAfter true line = line.all isDigit := rfl
  rw [and_iff_right hcopy, hopen, scanned_true]
  cases line with
  | nil => exact iff_of_false (fun h => by cases h.2) fun h => h.1 rfl
  | cons c rest =>
      rw [and_iff_right (List.cons_ne_nil c rest)]
      cases hall : (c :: rest).all isDigit with
      | true =>
          -- The digits are the whole line.
          have hevery := List.all_eq_true.mp hall
          have hc := hevery c List.mem_cons_self
          have hstart : runStart (c :: rest) = 0 := by
            unfold runStart
            rw [List.takeWhile_cons_of_neg (by simp [hc])]
            rfl
          have hrun : firstDigitRun (c :: rest) = c :: rest := by
            rw [firstDigitRun_of_runStart hstart, List.takeWhile_eq_self_iff.mpr hevery]
          refine iff_of_false (fun h => by cases h.2) ?_
          rw [hrun]
          rintro (hnil | ⟨_, hends, _⟩)
          · cases hnil
          · unfold runStop at hends
            rw [hstart, hrun] at hends
            omega
      | false =>
          rw [if_neg Bool.false_ne_true, and_iff_left rfl]
          cases hc : isDigit c with
          | true => exact scanned_true_digit rfl hc hall
          | false =>
              have hnot : ¬ isDigit c = true := by
                rw [hc]
                exact Bool.false_ne_true
              have hstart : runStart (c :: rest) ≠ 0 := by
                unfold runStart
                rw [List.takeWhile_cons_of_pos (by simp [hc])]
                exact Nat.succ_ne_zero _
              rw [List.takeWhile_cons_of_neg hnot]
              show [] = _ <-> _
              rw [or_iff_left fun h => hstart h.1]
              exact eq_comm

theorem scanned_iff (startRecord : Bool) (line : List Char) :
    Copyable startRecord line ∧ scanned startRecord line = firstDigitRun line ∧
        openAfter startRecord line = false <->
      Scannable startRecord line := by
  cases startRecord with
  | false => exact scanned_false_iff
  | true => exact scanned_true_iff

end

/-!
## Both scanners
-/

theorem setField_inj {field : PatternField} {value other : String}
    {device : DeviceInfo} :
    setField field value device = setField field other device <-> value = other := by
  constructor
  · intro h
    have hfield := congrArg (fun device => fieldOf device field) h
    simpa [fieldOf_setField] using hfield
  · intro h
    rw [h]

section

variable {radio : Radio} {s s' : HandlerState} {front : List DeviceInfo}
  {device : DeviceInfo} {line : List Char}

theorem deviceList_of_store
    (h : { s with deviceList := front ++ [device] }.store radio.field line = some s') :
    s'.deviceList = front ++
      [setField radio.field (String.ofList (scanned (s.startRecord radio) line)) device] := by
  rw [(store_leaves h).1, storedValue_radio]
  show (front ++ [device]).modifyLast _ = _
  rw [List.modifyLast_concat]
  cases radio <;> rfl

theorem startRecord_of_store
    (h : { s with deviceList := front ++ [device] }.store radio.field line = some s') :
    s'.startRecord radio = openAfter (s.startRecord radio) line := by
  rw [(store_leaves h).2.2, if_pos rfl]
  cases radio <;> rfl

theorem isSome_store_radio_iff :
    ({ s with deviceList := front ++ [device] }.store radio.field line).isSome = true <->
      Copyable (s.startRecord radio) line := by
  have hflags : forall other : Radio,
      HandlerState.startRecord { s with deviceList := front ++ [device] } other =
        s.startRecord other := by
    intro other
    cases other <;> rfl
  rw [isSome_store_iff]
  constructor
  · intro h
    have hcopy := h radio rfl
    rw [hflags] at hcopy
    exact hcopy
  · intro h other hother
    have hsame : other = radio := by
      revert hother
      cases other <;> cases radio <;> decide
    rw [hsame, hflags]
    exact h

/-- Whatever the line, the flag before it and the device: either scanner stores
the first digits and leaves the flag cleared exactly when the line can be
scanned with that flag. -/
theorem storesFirstDigits_iff (radio : Radio) (s : HandlerState)
    (front : List DeviceInfo) (device : DeviceInfo) (line : List Char) :
    StoresFirstDigits radio s front device line <->
      Scannable (s.startRecord radio) line := by
  rw [← scanned_iff]
  constructor
  · rintro ⟨s', hstore, hdevices, hflag⟩
    rw [deviceList_of_store hstore, List.append_cancel_left_eq, List.singleton_inj,
      setField_inj, String.ofList_inj] at hdevices
    rw [startRecord_of_store hstore] at hflag
    have hcopy := isSome_store_radio_iff.mp (Option.isSome_of_eq_some hstore)
    exact ⟨hcopy, hdevices, hflag⟩
  · rintro ⟨hcopy, hscanned, hflag⟩
    rcases Option.isSome_iff_exists.mp (isSome_store_radio_iff.mpr hcopy) with
      ⟨s', hstore⟩
    refine ⟨s', hstore, ?_, ?_⟩
    · rw [deviceList_of_store hstore, hscanned]
    · rw [startRecord_of_store hstore, hflag]

end

/-- A line of digits only, from cleared flags: nothing of it is stored. -/
theorem not_storesFirstDigits_of_openLine :
    ¬ forall (radio : Radio) (s : HandlerState) (front : List DeviceInfo)
      (device : DeviceInfo) (line : List Char),
      StoresFirstDigits radio s front device line := by
  intro h
  rcases h .fiveG (HandlerState.initial false false) [] {} ['6'] with
    ⟨s', hstore, hdevices, _⟩
  cases hstore
  exact absurd hdevices (by decide)

/-!
## Every line of an answer
-/

theorem scannedAll_of_scannable {lines : List (List Char)}
    (h : forall line, line ∈ lines -> Scannable false line) :
    AllCopyable false lines ∧ scannedAll false lines = lines.map firstDigitRun ∧
      openBehind false lines = false := by
  induction lines with
  | nil => exact ⟨trivial, rfl, rfl⟩
  | cons line rest ih =>
      rw [List.forall_mem_cons] at h
      rcases scanned_false_iff.mpr h.1 with ⟨hcopy, hscanned, hopen⟩
      rcases ih h.2 with ⟨hcopies, hrest, hbehind⟩
      refine ⟨⟨hcopy, ?_⟩, ?_, ?_⟩
      · rw [hopen]
        exact hcopies
      · show scanned false line :: scannedAll (openAfter false line) rest = _
        rw [hscanned, hopen, hrest, List.map_cons]
      · show openBehind (openAfter false line) rest = false
        rw [hopen, hbehind]

/-- An answer read from cleared flags leaves them cleared, and its channels are
the first digits of its radio lines. -/
theorem channelsOf_topologyHandler {text : String}
    (hspace : forall start, start ∈ roundStarts text.toList -> SpaceBehindDevice start)
    (hlines : forall radio line, line ∈ radioLines radio text.toList ->
      Scannable false line) :
    exists s, topologyHandler false false (some text) = some s ∧
      s.startRecord5g = false ∧ s.startRecord2g = false ∧
      forall radio, channelsOf radio s.deviceList =
        (radioLines radio text.toList).map fun line =>
          String.ofList (firstDigitRun line) := by
  have hscans := fun radio => scannedAll_of_scannable (hlines radio)
  have hreadable : Readable false false text.toList :=
    ⟨hspace, (hscans .fiveG).1, (hscans .twoG).1⟩
  rcases Option.isSome_iff_exists.mp ((isSome_topologyHandler_iff _ _ _).mpr hreadable) with
    ⟨s, hs⟩
  rcases startRecord_of_topologyHandler hs with ⟨hflag5g, hflag2g⟩
  refine ⟨s, hs, ?_, ?_, ?_⟩
  · rw [hflag5g]
    exact (hscans .fiveG).2.2
  · rw [hflag2g]
    exact (hscans .twoG).2.2
  · intro radio
    have hinitial : (HandlerState.initial false false).startRecord radio = false := by
      cases radio <;> rfl
    rw [channelsOf_rounds (topologyHandler_some_iff.mp hs).2 radio, hinitial]
    show [] ++ (scannedAll false (radioLines radio text.toList)).map String.ofList = _
    rw [(hscans radio).2.1, List.nil_append, List.map_map]
    rfl

end Mesh
end Noc
