import Noc.Mesh.TopologyBlocks

/-!
# The scan of a radio line

What the two digit scanners of `topology_handler` do with a line, for every
line: where its first digits begin and stop decides what is stored, and whether
the flag is left set.  Indices are 16 bits wide.
-/

namespace Noc
namespace Mesh

/-!
## The first digits
-/

def runStart (line : List Char) : Nat :=
  (line.takeWhile fun c => !isDigit c).length

def runStop (line : List Char) : Nat :=
  runStart line + (firstDigitRun line).length

/-- What comes before the first digits, these digits, and the rest. -/
structure DigitSplit (line front run back : List Char) : Prop where
  line_eq : line = front ++ (run ++ back)
  start_eq : runStart line = front.length
  run_eq : firstDigitRun line = run
  front_digits : forall x, x ∈ front -> isDigit x = false
  run_digits : forall x, x ∈ run -> isDigit x = true
  back_head : forall c rest, back = c :: rest -> isDigit c = false
  back_nil : run = [] -> back = []

theorem exists_digitSplit (line : List Char) :
    exists front run back, DigitSplit line front run back := by
  have hfront := List.takeWhile_append_dropWhile (p := fun c => !isDigit c) (l := line)
  have hrun := List.takeWhile_append_dropWhile (p := isDigit)
    (l := line.dropWhile fun c => !isDigit c)
  refine ⟨line.takeWhile fun c => !isDigit c, firstDigitRun line,
    (line.dropWhile fun c => !isDigit c).dropWhile isDigit, ?_⟩
  constructor
  · rw [firstDigitRun, hrun, hfront]
  · rfl
  · rfl
  · intro x hx
    have hnot := List.mem_takeWhile_imp hx
    simpa using hnot
  · intro x hx
    exact List.mem_takeWhile_imp hx
  · intro c rest hback
    have hhead := List.head?_dropWhile_not isDigit
      (line.dropWhile fun c => !isDigit c)
    rw [hback] at hhead
    simpa using hhead
  · intro hnil
    unfold firstDigitRun at hnil
    cases hdrop : line.dropWhile fun c => !isDigit c with
    | nil => rfl
    | cons c rest =>
        -- What is left begins with a digit, which is in the run.
        have hhead := List.head?_dropWhile_not (fun c => !isDigit c) line
        rw [hdrop] at hhead hnil
        have hdigit : isDigit c = true := by simpa using hhead
        rw [List.takeWhile_cons_of_pos hdigit] at hnil
        cases hnil

section

variable {line front run back : List Char}

theorem DigitSplit.length (h : DigitSplit line front run back) :
    line.length = runStop line + back.length := by
  unfold runStop
  rw [h.start_eq, h.run_eq]
  have hlength := congrArg List.length h.line_eq
  simp only [List.length_append] at hlength
  omega

theorem DigitSplit.stop_eq (h : DigitSplit line front run back) :
    runStop line = front.length + run.length := by
  unfold runStop
  rw [h.start_eq, h.run_eq]

theorem DigitSplit.back_nil_iff (h : DigitSplit line front run back) :
    back = [] <-> runStop line = line.length := by
  have hlength := h.length
  rw [← List.length_eq_zero_iff]
  omega

end

theorem runStop_le (line : List Char) : runStop line <= line.length := by
  rcases exists_digitSplit line with ⟨front, run, back, hsplit⟩
  have hlength := hsplit.length
  omega

theorem runStart_le (line : List Char) : runStart line <= runStop line :=
  Nat.le_add_right _ _

/-- Digits at the front are the first digits. -/
theorem firstDigitRun_of_runStart {line : List Char} (h : runStart line = 0) :
    firstDigitRun line = line.takeWhile isDigit := by
  rcases exists_digitSplit line with ⟨front, run, back, hsplit⟩
  have hdrop : (line.dropWhile fun c => !isDigit c) = line := by
    have happend := List.takeWhile_append_dropWhile (p := fun c => !isDigit c) (l := line)
    rw [List.length_eq_zero_iff.mp h, List.nil_append] at happend
    exact happend
  rw [firstDigitRun, hdrop]

/-!
## What a scan leaves

A scan that finds the flag set is inside digits from the first character on.
-/

/-- The flag behind a line. -/
def openAfter (startRecord : Bool) (line : List Char) : Bool :=
  if startRecord then line.all isDigit
  else decide (firstDigitRun line ≠ [] ∧ runStop line = line.length)

/-- The indices a scan leaves. -/
def scanIndices (startRecord : Bool) (line : List Char) : UInt16 × UInt16 :=
  if startRecord then
    if line.all isDigit then (0, 0)
    else (0, UInt16.ofNat (line.takeWhile isDigit).length)
  else if firstDigitRun line = [] then (0, 0)
  else if runStop line < line.length then
    (UInt16.ofNat (runStart line), UInt16.ofNat (runStop line))
  else (UInt16.ofNat (runStart line), 0)

theorem recordDigits_open (dataIndex : Nat) (startIndex : UInt16) (line : List Char) :
    recordDigits true dataIndex startIndex line =
      if line.all isDigit then (true, startIndex, 0)
      else (false, startIndex,
        UInt16.ofNat (dataIndex + (line.takeWhile isDigit).length)) := by
  induction line generalizing dataIndex with
  | nil => rfl
  | cons c rest ih =>
      unfold recordDigits
      rw [if_pos rfl, List.all_cons]
      cases hc : isDigit c with
      | true =>
          rw [if_pos rfl, ih, Bool.true_and, List.takeWhile_cons_of_pos hc,
            List.length_cons, Nat.add_assoc, Nat.add_comm 1]
      | false =>
          have hnot : ¬ isDigit c = true := by
            rw [hc]
            exact Bool.false_ne_true
          rw [if_neg Bool.false_ne_true, Bool.false_and, if_neg Bool.false_ne_true,
            List.takeWhile_cons_of_neg hnot]
          rfl

/-- A scan of a whole line, from either flag. -/
theorem recordDigits_eq (startRecord : Bool) (line : List Char) :
    recordDigits startRecord 0 0 line =
      (openAfter startRecord line, scanIndices startRecord line) := by
  unfold openAfter scanIndices
  cases startRecord with
  | true =>
      rw [if_pos rfl, if_pos rfl, recordDigits_open, Nat.zero_add]
      split <;> simp [*]
  | false =>
      rw [if_neg Bool.false_ne_true, if_neg Bool.false_ne_true]
      rcases exists_digitSplit line with ⟨front, run, back, hsplit⟩
      have hlength := hsplit.length
      rw [hsplit.run_eq]
      cases run with
      | nil =>
          have hline : line = front ++ [] := by
            rw [hsplit.line_eq, hsplit.back_nil rfl]
            rfl
          rw [if_pos rfl, decide_eq_false fun hand => hand.1 rfl, hline,
            recordDigits_skip hsplit.front_digits]
          rfl
      | cons d run =>
          have hne : d :: run ≠ [] := List.cons_ne_nil d run
          have hd := hsplit.run_digits d List.mem_cons_self
          have hrun : forall x, x ∈ run -> isDigit x = true := fun x hx =>
            hsplit.run_digits x (List.mem_cons_of_mem d hx)
          rw [if_neg hne]
          cases back with
          | nil =>
              -- The digits go on to the end of the line.
              have hstop : runStop line = line.length := hsplit.back_nil_iff.mp rfl
              rw [if_neg (by omega), decide_eq_true ⟨hne, hstop⟩, hsplit.start_eq,
                hsplit.line_eq, recordDigits_skip hsplit.front_digits,
                List.cons_append, recordDigits, if_neg Bool.false_ne_true, hd,
                if_pos rfl, recordDigits_record hrun, Nat.zero_add]
              rfl
          | cons c back =>
              have hc := hsplit.back_head c back rfl
              have hlt : runStop line < line.length := by
                rw [hlength, List.length_cons]
                omega
              rw [if_pos hlt, decide_eq_false fun hand => by omega, hsplit.start_eq,
                hsplit.stop_eq, hsplit.line_eq, List.cons_append,
                recordDigits_of_split hsplit.front_digits hd hrun hc]

/-!
## What can be copied
-/

/-- The stop index a scan from a cleared flag leaves: it is only set where the
digits end within the line. -/
def stopIndex (line : List Char) : Nat :=
  if runStop line < line.length then runStop line % 65536 else 0

/-- The stop index is not below the start index. -/
def Copyable (startRecord : Bool) (line : List Char) : Prop :=
  startRecord = true ∨ firstDigitRun line = [] ∨
    runStart line % 65536 <= stopIndex line

instance (startRecord : Bool) (line : List Char) :
    Decidable (Copyable startRecord line) :=
  inferInstanceAs (Decidable (_ ∨ _ ∨ _))

/-- The text between the indices. -/
def scanned (startRecord : Bool) (line : List Char) : List Char :=
  let (startIndex, stopIndex) := scanIndices startRecord line
  (line.drop startIndex.toNat).take (stopIndex.toNat - startIndex.toNat)

theorem toNat_scanIndices_false {line : List Char} (h : firstDigitRun line ≠ []) :
    (scanIndices false line).1.toNat = runStart line % 65536 ∧
      (scanIndices false line).2.toNat = stopIndex line := by
  unfold scanIndices stopIndex
  rw [if_neg Bool.false_ne_true, if_neg h]
  split
  · exact ⟨UInt16.toNat_ofNat', UInt16.toNat_ofNat'⟩
  · exact ⟨UInt16.toNat_ofNat', rfl⟩

theorem copyable_iff (startRecord : Bool) (line : List Char) :
    Copyable startRecord line <->
      (scanIndices startRecord line).1.toNat <= (scanIndices startRecord line).2.toNat := by
  unfold Copyable
  cases startRecord with
  | true =>
      have hstart : (scanIndices true line).1 = 0 := by
        unfold scanIndices
        rw [if_pos rfl]
        split <;> rfl
      rw [hstart]
      exact iff_of_true (Or.inl rfl) (Nat.zero_le _)
  | false =>
      by_cases hrun : firstDigitRun line = []
      · have hindices : scanIndices false line = (0, 0) := by
          unfold scanIndices
          rw [if_neg Bool.false_ne_true, if_pos hrun]
        rw [hindices]
        exact iff_of_true (Or.inr (Or.inl hrun)) (Nat.le_refl _)
      · rcases toNat_scanIndices_false hrun with ⟨hstart, hstop⟩
        rw [hstart, hstop]
        simp [hrun]

/-- What is stored of a line, or that nothing can be. -/
theorem channelSelection_eq (startRecord : Bool) (line : List Char) :
    channelSelection line (scanIndices startRecord line).1
        (scanIndices startRecord line).2 =
      if Copyable startRecord line then
        some (String.ofList (scanned startRecord line))
      else none := by
  unfold channelSelection
  by_cases hcopy : Copyable startRecord line
  · have hle := (copyable_iff startRecord line).mp hcopy
    rw [if_pos hcopy, if_neg]
    · rfl
    · rw [UInt16.lt_iff_toNat_lt]
      exact Nat.not_lt.mpr hle
  · have hlt := Nat.not_le.mp fun hle => hcopy ((copyable_iff startRecord line).mpr hle)
    rw [if_neg hcopy, if_pos (UInt16.lt_iff_toNat_lt.mpr hlt)]

/-- No index is behind the line. -/
theorem scanIndices_le (startRecord : Bool) (line : List Char) :
    (scanIndices startRecord line).1.toNat <= line.length ∧
      (scanIndices startRecord line).2.toNat <= line.length := by
  have hstop := runStop_le line
  have hstart := runStart_le line
  cases startRecord with
  | true =>
      have htake : (line.takeWhile isDigit).length <= line.length :=
        (List.takeWhile_prefix isDigit).length_le
      unfold scanIndices
      rw [if_pos rfl]
      split
      · exact ⟨Nat.zero_le _, Nat.zero_le _⟩
      · refine ⟨Nat.zero_le _, ?_⟩
        rw [UInt16.toNat_ofNat']
        exact (Nat.mod_le _ _).trans htake
  | false =>
      by_cases hrun : firstDigitRun line = []
      · unfold scanIndices
        rw [if_neg Bool.false_ne_true, if_pos hrun]
        exact ⟨Nat.zero_le _, Nat.zero_le _⟩
      · rcases toNat_scanIndices_false hrun with ⟨hfirst, hlast⟩
        rw [hfirst, hlast]
        refine ⟨(Nat.mod_le _ _).trans (hstart.trans hstop), ?_⟩
        unfold stopIndex
        split
        · exact (Nat.mod_le _ _).trans hstop
        · exact Nat.zero_le _

end Mesh
end Noc
