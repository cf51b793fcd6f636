import Noc.Mesh.Rounds

/-!
# Where a topology is read

The searches and the copies that `topology_handler` makes, in order.  A pointer
into the answer is what is left of it from there; the sum of a null pointer and
a length points to no part of it.
-/

namespace Noc
namespace Mesh

open Foundation

inductive TextAccess where
  | search (pointer : Option (List Char))
  /-- `size` bytes are copied, and the copy is ended at `length`. -/
  | copy (pointer : List Char) (size length : Int)
  deriving DecidableEq, Repr

/-- A search begins in the text, or at its end; what is copied is in the text. -/
def TextAccess.Inside (text : List Char) : TextAccess -> Prop
  | .search none => False
  | .search (some pointer) => pointer <:+ text
  | .copy pointer size length =>
      pointer <:+ text ∧ size <= pointer.length ∧ 0 <= length

/-!
## The accesses of a call
-/

/-- The copy of a channel is one byte longer than the channel. -/
def channelCopy (startRecord : Bool) (startPointer line : List Char) : TextAccess :=
  let (_, startIndex, stopIndex) := recordDigits startRecord 0 0 line
  let size : Int := stopIndex.toNat - startIndex.toNat
  .copy (startPointer.drop startIndex.toNat) (size + 1) size

def fieldCopy (s : HandlerState) (field : PatternField)
    (startPointer text : List Char) : TextAccess :=
  match field with
  | .channelSelection5g => channelCopy s.startRecord5g startPointer text
  | .channelSelection2g => channelCopy s.startRecord2g startPointer text
  | _ => .copy startPointer text.length text.length

/-- For the mac, a start that is not found is added to before it is tested. -/
def fieldAccesses (entry : Pattern) (s : HandlerState) (checkPointer : List Char) :
    List TextAccess :=
  .search (some checkPointer) ::
    match cut entry.pattern checkPointer with
    | none => []
    | some (_, strPointer) =>
        .search (some strPointer) ::
          match cut entry.start strPointer with
          | none => if entry.field = .mac then [.search none] else []
          | some (_, startPointer) =>
              .search (some startPointer) ::
                match cut entry.stop startPointer with
                | none => []
                | some (text, _) => [fieldCopy s entry.field startPointer text]

def fieldsAccesses : List Pattern -> HandlerState -> List Char -> List TextAccess
  | [], _, _ => []
  | entry :: rest, s, checkPointer =>
      fieldAccesses entry s checkPointer ++
        match readField entry s checkPointer with
        | .reached s endPointer => fieldsAccesses rest s endPointer
        | _ => []

def loopAccesses (s : HandlerState) (checkPointer : List Char) : List TextAccess :=
  fieldsAccesses devicePatternEntry s checkPointer ++
    match h : readFields devicePatternEntry s checkPointer with
    | .reached s rest =>
        have : rest.length < checkPointer.length := length_of_round h
        loopAccesses s rest
    | _ => []
termination_by checkPointer.length

/-- The accesses of `topology_handler` to a text. -/
def topologyAccesses (startRecord5g startRecord2g : Bool) (text : String) :
    List TextAccess :=
  loopAccesses (HandlerState.initial startRecord5g startRecord2g) text.toList

/-!
## A crash is an access outside
-/

def AllInside (text : List Char) (accesses : List TextAccess) : Prop :=
  forall access, access ∈ accesses -> access.Inside text

section

variable {text checkPointer startPointer line rest : List Char} {entry : Pattern}
  {entries : List Pattern} {s s' : HandlerState} {field : PatternField}
  {accesses later : List TextAccess}

theorem allInside_append :
    AllInside text (accesses ++ later) <->
      AllInside text accesses ∧ AllInside text later :=
  List.forall_mem_append

theorem allInside_cons {access : TextAccess} :
    AllInside text (access :: later) <-> access.Inside text ∧ AllInside text later :=
  List.forall_mem_cons

theorem allInside_nil : AllInside text [] :=
  List.forall_mem_nil _

theorem reached_ne_crashed : FieldOutcome.reached s checkPointer ≠ .crashed := by
  intro h
  cases h

theorem returned_ne_crashed : FieldOutcome.returned s ≠ .crashed := by
  intro h
  cases h

theorem suffix_of_behind {needle before behind : List Char}
    (h : cut needle checkPointer = some (before, behind)) (hin : checkPointer <:+ text) :
    behind <:+ text := by
  rw [eq_of_cut h, ← List.append_assoc] at hin
  exact (List.suffix_append _ _).trans hin

/-- The copy of a channel is in the text when it is not negative. -/
theorem channelCopy_inside (startRecord : Bool) (hin : startPointer <:+ text)
    (hline : line.length < startPointer.length) :
    (channelCopy startRecord startPointer line).Inside text <->
      Copyable startRecord line := by
  rw [copyable_iff]
  rcases scanIndices_le startRecord line with ⟨hstart, hstop⟩
  unfold channelCopy
  rw [recordDigits_eq]
  dsimp only [TextAccess.Inside]
  rw [List.length_drop]
  constructor
  · rintro ⟨_, _, hpositive⟩
    omega
  · intro hle
    exact ⟨(List.drop_suffix _ _).trans hin, by omega, by omega⟩

theorem fieldCopy_inside (hin : startPointer <:+ text)
    (hline : line.length < startPointer.length) :
    (fieldCopy s field startPointer line).Inside text <->
      (s.store field line).isSome = true := by
  have hplain : (TextAccess.copy startPointer line.length line.length).Inside text :=
    ⟨hin, by omega, by omega⟩
  cases field with
  | mac => exact iff_of_true hplain rfl
  | ip => exact iff_of_true hplain rfl
  | parentMac => exact iff_of_true hplain rfl
  | channelSelection5g =>
      rw [store_channelSelection5g_eq]
      refine (channelCopy_inside s.startRecord5g hin hline).trans ?_
      split <;> simp [*]
  | channelSelection2g =>
      rw [store_channelSelection2g_eq]
      refine (channelCopy_inside s.startRecord2g hin hline).trans ?_
      split <;> simp [*]

/-- Making the device before does not matter to the copy. -/
theorem isSome_store_made :
    ((if field = .mac then s.addDevice else s).store field line).isSome = true <->
      (s.store field line).isSome = true := by
  split
  · rename_i hmac
    rw [hmac]
    exact iff_of_true rfl rfl
  · exact Iff.rfl

/-- The accesses to a field are inside the text when its reading does not crash. -/
theorem fieldAccesses_inside (hentry : entry ∈ devicePatternEntry)
    (hin : checkPointer <:+ text) :
    AllInside text (fieldAccesses entry s checkPointer) <->
      readField entry s checkPointer ≠ .crashed := by
  have hhere : (TextAccess.search (some checkPointer)).Inside text := hin
  unfold fieldAccesses readField
  rw [allInside_cons, and_iff_right hhere]
  cases hpattern : cut entry.pattern checkPointer with
  | none => exact iff_of_true allInside_nil returned_ne_crashed
  | some parts =>
      rcases parts with ⟨before, strPointer⟩
      have hstr : (TextAccess.search (some strPointer)).Inside text :=
        suffix_of_behind hpattern hin
      dsimp only
      rw [allInside_cons, and_iff_right hstr]
      cases hstart : cut entry.start strPointer with
      | none =>
          dsimp only
          by_cases hmac : entry.field = .mac
          · rw [if_pos hmac, if_pos hmac, allInside_cons]
            exact iff_of_false (fun h => h.1) fun h => h rfl
          · rw [if_neg hmac, if_neg hmac]
            exact iff_of_true allInside_nil returned_ne_crashed
      | some parts =>
          rcases parts with ⟨gap, startPointer⟩
          have hstartIn : startPointer <:+ text := suffix_of_behind hstart hstr
          have hsearch : (TextAccess.search (some startPointer)).Inside text := hstartIn
          dsimp only
          rw [allInside_cons, and_iff_right hsearch]
          cases hstop : cut entry.stop startPointer with
          | none => exact iff_of_true allInside_nil returned_ne_crashed
          | some parts =>
              rcases parts with ⟨line, behind⟩
              have hlength := congrArg List.length (eq_of_cut hstop)
              have hne := (markers_of_mem hentry).2.2.ne_nil
              have hpositive := List.length_pos_of_ne_nil hne
              simp only [List.length_append] at hlength
              dsimp only
              rw [allInside_cons, and_iff_left allInside_nil,
                fieldCopy_inside hstartIn (by omega), ← isSome_store_made]
              cases hstore : (if entry.field = .mac then s.addDevice else s).store
                  entry.field line with
              | none => exact iff_of_false Bool.false_ne_true fun h => h rfl
              | some s' => exact iff_of_true rfl reached_ne_crashed

theorem readField_of_suffix (hin : checkPointer <:+ text)
    (h : readField entry s checkPointer = .reached s' rest) : rest <:+ text := by
  rcases text_of_reached h with ⟨before, gap, line, behind, htext, hrest⟩
  have hsuffix : rest <:+ checkPointer := by
    rw [htext, hrest]
    exact ⟨before ++ (entry.pattern ++ (gap ++ (entry.start ++ line))), by simp⟩
  exact hsuffix.trans hin

theorem fieldsAccesses_inside (hentries : entries ⊆ devicePatternEntry)
    (hin : checkPointer <:+ text) :
    (AllInside text (fieldsAccesses entries s checkPointer) <->
      readFields entries s checkPointer ≠ .crashed) ∧
    forall s' rest, readFields entries s checkPointer = .reached s' rest ->
      rest <:+ text := by
  induction entries generalizing s checkPointer with
  | nil =>
      refine ⟨iff_of_true allInside_nil reached_ne_crashed, ?_⟩
      intro s' rest h
      cases h
      exact hin
  | cons entry others ih =>
      rw [List.cons_subset] at hentries
      have hfield := fieldAccesses_inside (s := s) hentries.1 hin
      unfold fieldsAccesses readFields
      rw [allInside_append, hfield]
      cases hread : readField entry s checkPointer with
      | crashed =>
          refine ⟨iff_of_false (fun h => h.1 rfl) fun h => h rfl, ?_⟩
          intro s' rest h
          cases h
      | returned ended =>
          refine ⟨iff_of_true ⟨returned_ne_crashed, allInside_nil⟩
            returned_ne_crashed, ?_⟩
          intro s' rest h
          cases h
      | reached next endPointer =>
          have hnext := ih (s := next) hentries.2 (readField_of_suffix hin hread)
          exact ⟨(and_iff_right reached_ne_crashed).trans hnext.1, hnext.2⟩

theorem loopAccesses_of_reached
    (h : readFields devicePatternEntry s checkPointer = .reached s' rest) :
    loopAccesses s checkPointer =
      fieldsAccesses devicePatternEntry s checkPointer ++ loopAccesses s' rest := by
  rw [loopAccesses]
  split
  · rename_i hreached
    rw [h] at hreached
    cases hreached
    rfl
  · rename_i hnot
    exact absurd h (hnot _ _)

theorem loopAccesses_of_ended
    (h : forall s' rest, readFields devicePatternEntry s checkPointer ≠
      .reached s' rest) :
    loopAccesses s checkPointer = fieldsAccesses devicePatternEntry s checkPointer := by
  rw [loopAccesses]
  split
  · rename_i hreached
    exact absurd hreached (h _ _)
  · exact List.append_nil _

/-- A call crashes where it leaves the text. -/
theorem loopAccesses_inside (hin : checkPointer <:+ text) :
    AllInside text (loopAccesses s checkPointer) <->
      (topologyLoop s checkPointer).isSome = true := by
  induction s, checkPointer using topologyLoop.induct with
  | case1 s checkPointer ended hround =>
      have hfields := (fieldsAccesses_inside (s := s) (List.Subset.refl _) hin).1
      have hended : forall s' rest, readFields devicePatternEntry s checkPointer ≠
          .reached s' rest := by
        intro s' rest h
        cases hround.symm.trans h
      rw [loopAccesses_of_ended hended, hfields, hround,
        topologyLoop_of_returned hround]
      exact iff_of_true returned_ne_crashed rfl
  | case2 s checkPointer hround =>
      have hfields := (fieldsAccesses_inside (s := s) (List.Subset.refl _) hin).1
      have hended : forall s' rest, readFields devicePatternEntry s checkPointer ≠
          .reached s' rest := by
        intro s' rest h
        cases hround.symm.trans h
      rw [loopAccesses_of_ended hended, hfields, hround,
        topologyLoop_of_crashed hround]
      exact iff_of_false (fun h => h rfl) Bool.false_ne_true
  | case3 s checkPointer next rest hround hlength ih =>
      rcases fieldsAccesses_inside (s := s) (List.Subset.refl _) hin with
        ⟨hfields, hrest⟩
      rw [loopAccesses_of_reached hround, allInside_append, hfields, hround,
        topologyLoop_of_reached hround, ← ih (hrest next rest hround)]
      exact and_iff_right reached_ne_crashed

end

/-!
## The count
-/

def Counted (s : HandlerState) : Prop :=
  s.numberDevice = s.deviceList.length

theorem length_modifyLast {α : Type} (f : α -> α) (values : List α) :
    (values.modifyLast f).length = values.length := by
  cases values using List.reverseRecOn with
  | nil => rfl
  | append_singleton front last =>
      rw [List.modifyLast_concat, List.length_append, List.length_append]
      rfl

theorem preserved_counted : Preserved Counted := by
  constructor
  · intro s hcount
    show s.numberDevice + 1 = (s.deviceList ++ [_]).length
    rw [hcount, List.length_append, List.length_singleton]
  · intro field text s s' hstore hcount
    rcases store_leaves hstore with ⟨hdevices, hnumber, _⟩
    unfold Counted
    rw [hdevices, hnumber, length_modifyLast]
    exact hcount

/-!
## Safe calls
-/

/-- The call ends with a list of the length it says, and stayed in the text. -/
def StaysInside (startRecord5g startRecord2g : Bool) (text : String) : Prop :=
  AllInside text.toList (topologyAccesses startRecord5g startRecord2g text) ∧
    exists s, topologyHandler startRecord5g startRecord2g (some text) = some s ∧
      s.numberDevice = s.deviceList.length

theorem staysInside_iff_readable (startRecord5g startRecord2g : Bool) (text : String) :
    StaysInside startRecord5g startRecord2g text <->
      Readable startRecord5g startRecord2g text.toList := by
  have haccesses : AllInside text.toList
      (topologyAccesses startRecord5g startRecord2g text) <-> _ :=
    loopAccesses_inside (List.suffix_refl _)
  rw [← isSome_topologyHandler_iff]
  unfold StaysInside
  rw [haccesses, ← topologyHandler_some]
  constructor
  · intro h
    exact h.1
  · intro h
    rcases Option.isSome_iff_exists.mp h with ⟨s, hs⟩
    exact ⟨h, s, hs, preserved_counted.topologyHandler startRecord5g startRecord2g rfl
      (some text) hs⟩

/-- An answer that ends with the pattern of a device. -/
def cutOffDevice : String :=
  String.ofList devicePattern

theorem not_staysInside_of_cutOffDevice : ¬ StaysInside false false cutOffDevice := by
  rintro ⟨_, s, hcall, _⟩
  have hnone : fieldsBehind devicePatternEntry devicePattern = none := by
    decide +kernel
  have hstart : devicePattern ∈ roundStarts cutOffDevice.toList := by
    rw [cutOffDevice, String.toList_ofList, roundStarts_of_none hnone]
    exact List.mem_singleton_self _
  have hreadable := (isSome_topologyHandler_iff false false cutOffDevice).mp
    (Option.isSome_of_eq_some hcall)
  have hspace : ¬ SpaceBehindDevice devicePattern := by decide +kernel
  exact hspace (hreadable.1 devicePattern hstart)

end Mesh
end Noc
