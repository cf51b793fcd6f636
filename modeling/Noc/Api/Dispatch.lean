import Noc.Api.AnswerName

/-!
# Which handler a name starts

The callback takes the first entry of its table whose key occurs anywhere in the
name of the message.
-/

namespace Noc
namespace Api

open Foundation
open Foundation.Exec
open Foundation.Json

/-!
## The first key
-/

/-- The entry's key occurs in the name and none listed before it does. -/
def FirstKey (name : String) (entry : String × MessageHandler) : Prop :=
  strstr name entry.1 = true ∧
    exists front back, messageHandlerEntry = front ++ entry :: back ∧
      forall other, other ∈ front -> strstr name other.1 = false

theorem selectedHandler_eq_some_iff (name : String) (handler : MessageHandler) :
    selectedHandler name = some handler <->
      exists key, FirstKey name (key, handler) := by
  unfold selectedHandler FirstKey
  rw [Option.map_eq_some_iff]
  constructor
  · rintro ⟨⟨key, found⟩, hfind, rfl⟩
    rcases List.find?_eq_some_iff_append.mp hfind with
      ⟨hkey, front, back, hsplit, hfront⟩
    refine ⟨key, hkey, front, back, hsplit, ?_⟩
    intro other hmem
    simpa [appStrstr] using hfront other hmem
  · rintro ⟨key, hkey, front, back, hsplit, hfront⟩
    refine ⟨(key, handler), List.find?_eq_some_iff_append.mpr
      ⟨hkey, front, back, hsplit, ?_⟩, rfl⟩
    intro other hmem
    simpa [appStrstr] using hfront other hmem

theorem selectedHandler_eq_none_iff (name : String) :
    selectedHandler name = none <->
      forall entry, entry ∈ messageHandlerEntry ->
        strstr name entry.1 = false := by
  unfold selectedHandler
  rw [Option.map_eq_none_iff, List.find?_eq_none]
  simp [appStrstr]

/-!
## Names that end in a key

A key occurs in a text before the last key or is that key: no two keys overlap
across the dot between them, and none occurs inside another.
-/

/-- What follows a dot of the key. -/
def dotTails : List Char -> List (List Char)
  | [] => []
  | c :: rest => if c = '.' then rest :: dotTails rest else dotTails rest

theorem mem_dotTails (left right : List Char) :
    right ∈ dotTails (left ++ '.' :: right) := by
  induction left with
  | nil => simp [dotTails]
  | cons c rest ih =>
      unfold dotTails
      rw [List.cons_append]
      dsimp only
      split
      · exact List.mem_cons_of_mem _ ih
      · exact ih

/-- The two texts a well-formed name has after its prefix. -/
def endings (key : List Char) : List (List Char) :=
  [key, ['e', 'z', 'm', '.'] ++ key]

/-- How the keys begin. -/
def openings : List (List Char) :=
  [['m', 'e'], ['n', 'e'], ['i', 'p']]

/-- Whether a text begins like a key or like a segment `ezm`. -/
def opensEnding (text : List Char) : Bool :=
  openings.contains (text.take 2) || text.take 2 == ['e', 'z']

/-- In an ending of the key only the key itself begins like one. -/
def endsOnce (key : List Char) : Bool :=
  (endings key).all fun ending =>
    ending.tails.all fun text =>
      ! openings.contains (text.take 2) || text == key

/-- After a dot of the key nothing begins like an ending. -/
def closesOff (key : List Char) : Bool :=
  (dotTails key).all fun tail => 2 <= tail.length && ! opensEnding tail

def keysApart (keys : List (List Char)) : Bool :=
  decide keys.Nodup && keys.all fun key =>
    openings.contains (key.take 2) && 2 <= key.length && endsOnce key &&
      closesOff key && keys.all fun other => ! other.isPrefixOf key || other == key

theorem keysApart_keyLetters : keysApart keyLetters = true := by
  apply check_of_letters keysApart
  · unfold keyLetters messageHandlerEntry
    simp only [List.map_cons, List.map_nil]
    repeat apply letters_cons rfl
    rfl
  · decide +kernel

section

variable {key other ending : List Char}

structure Apart (key : List Char) : Prop where
  opens : key.take 2 ∈ openings
  endsOnce : endsOnce key = true
  closesOff : closesOff key = true
  length : 2 <= key.length
  prefixFree : forall other, other ∈ keyLetters -> other <+: key -> other = key

theorem apart_of_mem (hkey : key ∈ keyLetters) : Apart key := by
  have happart := keysApart_keyLetters
  unfold keysApart at happart
  rw [Bool.and_eq_true] at happart
  have hall := List.all_eq_true.mp happart.2 key hkey
  simp only [Bool.and_eq_true, decide_eq_true_eq, List.contains_eq_mem,
    List.all_eq_true, Bool.or_eq_true, Bool.not_eq_true', beq_iff_eq] at hall
  rcases hall with ⟨⟨⟨⟨hopens, hlength⟩, hends⟩, hcloses⟩, hstartsAll⟩
  refine ⟨hopens, hends, hcloses, hlength, ?_⟩
  intro other hother hstarts
  rcases hstartsAll other hother with hnot | heq
  · rw [List.isPrefixOf_iff_prefix.mpr hstarts] at hnot
    cases hnot
  · exact heq

theorem take_two_of_starts {text piece : List Char} (hstarts : piece <+: text)
    (hlength : 2 <= piece.length) : text.take 2 = piece.take 2 := by
  rcases hstarts with ⟨rest, rfl⟩
  exact List.take_append_of_le_length hlength

/-- In an ending only its own key occurs. -/
theorem eq_of_infix_ending (hkey : Apart key) (hother : Apart other)
    (hmem : other ∈ keyLetters) (hending : ending ∈ endings key)
    (hfound : other <:+: ending) : other = key := by
  rcases List.infix_iff_prefix_suffix.mp hfound with ⟨text, hstarts, hsuffix⟩
  have hopens : text.take 2 ∈ openings := by
    rw [take_two_of_starts hstarts hother.length]
    exact hother.opens
  have hendings := List.all_eq_true.mp hkey.endsOnce ending hending
  have htexts := List.all_eq_true.mp hendings text
    ((List.mem_tails _ _).mpr hsuffix)
  have htext : text = key := by
    simpa [hopens] using htexts
  rw [htext] at hstarts
  exact hkey.prefixFree other hmem hstarts

theorem opensEnding_of_mem (hkey : Apart key) (hending : ending ∈ endings key) :
    opensEnding ending = true := by
  have hopens := hkey.opens
  simp only [endings, List.mem_cons, List.not_mem_nil, or_false] at hending
  rcases hending with rfl | rfl
  · simp [opensEnding, hopens]
  · simp [opensEnding]

/-- A key in a text that ends in a key stands before it or is it. -/
theorem infix_before_ending (hkey : Apart key) (hother : Apart other)
    (hmem : other ∈ keyLetters) {before : List Char}
    (hending : ending ∈ endings key)
    (hfound : other <:+: before ++ '.' :: ending) :
    other <:+: before ∨ other = key := by
  rcases infix_append_cons_cases hfound with
    hbefore | hinside | ⟨left, right, hsplit, _, hright⟩
  · exact Or.inl hbefore
  · exact Or.inr (eq_of_infix_ending hkey hother hmem hending hinside)
  · have htail : right ∈ dotTails other := by
      rw [hsplit]
      exact mem_dotTails left right
    have hcloses := List.all_eq_true.mp hother.closesOff right htail
    simp only [Bool.and_eq_true, decide_eq_true_eq, Bool.not_eq_true'] at hcloses
    have hsame := take_two_of_starts hright hcloses.1
    have hopens := opensEnding_of_mem hkey hending
    unfold opensEnding at hopens hcloses
    rw [hsame, hcloses.2] at hopens
    cases hopens

end

/-!
## What a name starts
-/

theorem nodup_keyLetters : keyLetters.Nodup := by
  have happart := keysApart_keyLetters
  unfold keysApart at happart
  rw [Bool.and_eq_true] at happart
  exact of_decide_eq_true happart.1

theorem nodup_messageHandlerEntry : messageHandlerEntry.Nodup := by
  have hhandlers : (messageHandlerEntry.map Prod.snd).Nodup := by decide
  exact hhandlers.of_map

/-- The name is a text, a segment `ezm` or none, and the key. -/
def Addressed (name before key : String) : Prop :=
  name = before ++ "." ++ key ∨ name = before ++ ".ezm." ++ key

section

variable {name before : String} {entry : String × MessageHandler}
  {front back : List (String × MessageHandler)}

theorem exists_ending_of_addressed (h : Addressed name before entry.1) :
    exists ending, ending ∈ endings entry.1.toList ∧
      name.toList = before.toList ++ '.' :: ending := by
  rcases h with rfl | rfl
  · exact ⟨entry.1.toList, by simp [endings], by simp⟩
  · exact ⟨'e' :: 'z' :: 'm' :: '.' :: entry.1.toList, by simp [endings], by simp⟩

theorem strstr_of_addressed (h : Addressed name before entry.1) :
    strstr name entry.1 = true := by
  rw [strstr_iff]
  rcases h with rfl | rfl
  · exact ⟨(before ++ ".").toList, [], by simp⟩
  · exact ⟨(before ++ ".ezm.").toList, [], by simp⟩

theorem mem_keyLetters {other : String × MessageHandler}
    (hmem : other ∈ messageHandlerEntry) : other.1.toList ∈ keyLetters :=
  List.mem_map_of_mem hmem

/-- An earlier entry has another key. -/
theorem letters_ne_of_mem_front
    (hsplit : messageHandlerEntry = front ++ entry :: back)
    {other : String × MessageHandler} (hmem : other ∈ front) :
    other.1.toList ≠ entry.1.toList := by
  have hnodup := nodup_keyLetters
  unfold keyLetters at hnodup
  rw [hsplit, List.map_append, List.map_cons] at hnodup
  have hnotMem := (List.nodup_cons.mp (List.nodup_middle.mp hnodup)).1
  intro heq
  apply hnotMem
  rw [← heq]
  exact List.mem_append_left _ (List.mem_map_of_mem hmem)

/-- The key at the end decides unless an earlier one occurs before it. -/
theorem firstKey_iff_of_addressed
    (hsplit : messageHandlerEntry = front ++ entry :: back)
    (h : Addressed name before entry.1) :
    FirstKey name entry <->
      forall other, other ∈ front -> strstr before other.1 = false := by
  rcases exists_ending_of_addressed h with ⟨ending, hending, hname⟩
  have hmemFront : forall other, other ∈ front -> other ∈ messageHandlerEntry := by
    intro other hmem
    rw [hsplit]
    exact List.mem_append_left _ hmem
  have hentry : entry ∈ messageHandlerEntry := by
    rw [hsplit]
    exact List.mem_append_right _ List.mem_cons_self
  constructor
  · rintro ⟨_, front', back', hsplit', hnone⟩ other hmem
    have hnodup := nodup_messageHandlerEntry
    rw [hsplit] at hnodup
    have hnotMem := (List.nodup_cons.mp (List.nodup_middle.mp hnodup)).1
    rw [List.mem_append, not_or] at hnotMem
    have hsame := (List.append_cons_inj_of_notMem hnotMem.1 hnotMem.2).mp
      (hsplit.symm.trans hsplit')
    rw [hsame.1] at hmem
    have hother := hnone other hmem
    cases hbefore : strstr before other.1 with
    | false => rfl
    | true =>
        have hfound : strstr name other.1 = true := by
          rw [strstr_iff, hname]
          exact (strstr_iff.mp hbefore).trans (List.prefix_append _ _).isInfix
        rw [hfound] at hother
        cases hother
  · intro hnone
    refine ⟨strstr_of_addressed h, front, back, hsplit, ?_⟩
    intro other hmem
    cases hfound : strstr name other.1 with
    | false => rfl
    | true =>
        rw [strstr_iff, hname] at hfound
        have hmemOther := mem_keyLetters (hmemFront other hmem)
        rcases infix_before_ending (apart_of_mem (mem_keyLetters hentry))
            (apart_of_mem hmemOther) hmemOther hending hfound with
          hbefore | heq
        · have hnot := hnone other hmem
          rw [strstr_iff.mpr hbefore] at hnot
          cases hnot
        · exact absurd heq (letters_ne_of_mem_front hsplit hmem)

/-!
The callback starts what it selects, and answers any other name itself.
-/

theorem wp_respondRequestInvalid {env : Surroundings} {msgJson : Json}
    {w : World} (hlength : (strtok '.' name).length ≠ 1) :
    wp (respondRequestInvalid env name msgJson) (fun _ w' =>
      exists answer, w' = w.publish answer ∧
        errorCode answer = some ErrorCode.requestInvalid.code) w := by
  let answer := (cvtMsgRequestToMsgRespond
    { cvtJsonToMsgRequest (some msgJson) .empty with
      name := some env.freedName }).withError env .requestInvalid
  rcases exists_printed_iff.mpr (encodable_empty answer.respondData.data) with
    ⟨message, hmessage⟩
  unfold respondRequestInvalid mqttPublishMessage field
  rw [wp_bind]
  refine (wp_cvtReqNameToResName _).mpr ⟨hlength, ?_⟩
  rw [wp_bind, wp_deref]
  refine ⟨message, hmessage, message, rfl, ?_⟩
  exact errorCode_of_printed hmessage

end

/-- A name with text after a key. -/
def cancelledName : String := "hub.ezm.mesh.deleted.cancelled"

theorem firstKey_cancelledName :
    FirstKey cancelledName ("mesh.deleted", .deleteMesh) :=
  ⟨by decide +kernel, messageHandlerEntry.take 3, messageHandlerEntry.drop 4, rfl,
    by decide +kernel⟩

def meshRequested : Json := namedRequest "hub.ezm.mesh.requested"

end Api
end Noc
