import Mathlib.Data.List.Infix

/-!
# Searching a text

The first occurrence of a needle cuts a text in two: what comes before it and
what comes behind it.  A needle that does not repeat its first letter cannot
overlap itself, so it is found where it was put when nothing before contains it.
Searching for one needle after the other finds them all when they stand in the
text in this order, and cutting at every occurrence leaves the pieces between.
-/

namespace Noc
namespace Foundation

variable {α : Type} [DecidableEq α]

def cut (needle : List α) : List α -> Option (List α × List α)
  | [] => if needle = [] then some ([], []) else none
  | c :: rest =>
      if needle <+: c :: rest then some ([], (c :: rest).drop needle.length)
      else (cut needle rest).map fun parts => (c :: parts.1, parts.2)

section

variable {needle text before behind : List α} {c : α}

theorem cut_cons_of_not_starts (h : ¬ needle <+: c :: text) :
    cut needle (c :: text) =
      (cut needle text).map fun parts => (c :: parts.1, parts.2) := by
  show (if needle <+: c :: text then _ else _) = _
  rw [if_neg h]

theorem cut_of_starts (needle behind : List α) :
    cut needle (needle ++ behind) = some ([], behind) := by
  cases htext : needle ++ behind with
  | nil =>
      rw [List.append_eq_nil_iff] at htext
      rw [htext.1, htext.2]
      rfl
  | cons c rest =>
      have hstarts : needle <+: c :: rest := ⟨behind, htext⟩
      show (if needle <+: c :: rest then _ else _) = _
      rw [if_pos hstarts, ← htext, List.drop_left]

/-- The parts and the needle make up the text. -/
theorem eq_of_cut (h : cut needle text = some (before, behind)) :
    text = before ++ (needle ++ behind) := by
  induction text generalizing before with
  | nil =>
      unfold cut at h
      split at h
      · rename_i hneedle
        cases h
        rw [hneedle]
        rfl
      · cases h
  | cons c rest ih =>
      by_cases hstarts : needle <+: c :: rest
      · rcases hstarts with ⟨tail, htail⟩
        rw [← htail, cut_of_starts] at h
        cases h
        exact htail.symm
      · rw [cut_cons_of_not_starts hstarts, Option.map_eq_some_iff] at h
        rcases h with ⟨⟨front, back⟩, hcut, heq⟩
        cases heq
        rw [ih hcut]
        rfl

theorem cut_eq_none_iff : cut needle text = none <-> ¬ needle <:+: text := by
  induction text with
  | nil =>
      unfold cut
      rw [List.infix_nil]
      split <;> simp [*]
  | cons c rest ih =>
      rw [List.infix_cons_iff, not_or]
      by_cases hstarts : needle <+: c :: rest
      · rcases hstarts with ⟨tail, htail⟩
        rw [← htail, cut_of_starts]
        simp
      · rw [cut_cons_of_not_starts hstarts, Option.map_eq_none_iff, ih]
        simp [hstarts]

theorem exists_cut (h : needle <:+: text) :
    exists before behind, cut needle text = some (before, behind) := by
  cases hcut : cut needle text with
  | none => exact absurd h (cut_eq_none_iff.mp hcut)
  | some parts => exact ⟨parts.1, parts.2, rfl⟩

/-- Nothing that comes later moves the first occurrence. -/
theorem cut_append (h : cut needle text = some (before, behind)) (later : List α) :
    cut needle (text ++ later) = some (before, behind ++ later) := by
  induction text generalizing before with
  | nil =>
      have hempty := eq_of_cut h
      rw [List.nil_eq_append_iff, List.append_eq_nil_iff] at hempty
      rcases hempty with ⟨rfl, rfl, rfl⟩
      exact cut_of_starts [] later
  | cons c rest ih =>
      by_cases hstarts : needle <+: c :: rest
      · rcases hstarts with ⟨tail, htail⟩
        rw [← htail, cut_of_starts] at h
        cases h
        rw [← htail, List.append_assoc]
        exact cut_of_starts needle _
      · rw [cut_cons_of_not_starts hstarts, Option.map_eq_some_iff] at h
        rcases h with ⟨⟨front, back⟩, hcut, heq⟩
        cases heq
        have hlater : ¬ needle <+: c :: (rest ++ later) := by
          intro hfound
          apply hstarts
          have hlength : needle.length <= (c :: rest).length := by
            rw [eq_of_cut hcut]
            simp
            omega
          exact List.prefix_of_prefix_length_le hfound (List.prefix_append _ _) hlength
        rw [List.cons_append, cut_cons_of_not_starts hlater, ih hcut]
        rfl

/-- What is before the first occurrence does not contain another one. -/
theorem not_infix_of_cut (hne : needle ≠ [])
    (h : cut needle text = some (before, behind)) : ¬ needle <:+: before := by
  intro hoccurs
  rcases exists_cut hoccurs with ⟨front, back, hfront⟩
  have hcut := cut_append hfront (needle ++ behind)
  rw [← eq_of_cut h, h, Option.some_inj, Prod.mk.injEq] at hcut
  have hlength := congrArg List.length (eq_of_cut hfront)
  rw [hcut.1, List.length_append, List.length_append] at hlength
  have hpos := List.length_pos_of_ne_nil hne
  omega

/-!
## Needles that do not overlap themselves
-/

/-- The first letter does not come again. -/
def Marker : List α -> Prop
  | [] => False
  | c :: tail => c ∉ tail

instance : (needle : List α) -> Decidable (Marker needle)
  | [] => inferInstanceAs (Decidable False)
  | c :: tail => inferInstanceAs (Decidable (c ∉ tail))

omit [DecidableEq α] in
theorem Marker.ne_nil (h : Marker needle) : needle ≠ [] := by
  intro hnil
  rw [hnil] at h
  exact h

omit [DecidableEq α] in
/-- A marker that begins in a text ends there. -/
theorem Marker.prefix_of_prefix_append (h : Marker needle) (hne : before ≠ [])
    (hstarts : needle <+: before ++ (needle ++ behind)) : needle <+: before := by
  cases List.prefix_or_prefix_of_prefix hstarts (List.prefix_append before _) with
  | inl hbefore => exact hbefore
  | inr hneedle =>
      -- The needle would go on with its own first letter.
      rcases hneedle with ⟨tail, rfl⟩
      rw [List.append_assoc, List.prefix_append_right_inj] at hstarts
      rcases List.exists_cons_of_ne_nil hne with ⟨c, rest, rfl⟩
      cases tail with
      | nil =>
          rw [List.append_nil]
      | cons d tail =>
          rw [List.cons_append, List.cons_append, List.cons_prefix_cons] at hstarts
          rw [hstarts.1] at h
          exact absurd (List.mem_append_right rest List.mem_cons_self) h

/-- A marker is found behind a text that does not contain it. -/
theorem cut_of_marker (hmarker : Marker needle) (hbefore : ¬ needle <:+: before)
    (behind : List α) :
    cut needle (before ++ (needle ++ behind)) = some (before, behind) := by
  induction before with
  | nil => exact cut_of_starts needle behind
  | cons c rest ih =>
      have hrest : ¬ needle <:+: rest := fun h => hbefore (List.infix_cons h)
      have hstarts : ¬ needle <+: c :: (rest ++ (needle ++ behind)) := by
        intro hfound
        exact hbefore (hmarker.prefix_of_prefix_append (List.cons_ne_nil c rest)
          hfound).isInfix
      rw [List.cons_append, cut_cons_of_not_starts hstarts, ih hrest]
      rfl

end

/-!
## Needles in order
-/

/-- The needles stand in the text one behind the other. -/
def InOrder : List (List α) -> List α -> Prop
  | [], _ => True
  | needle :: later, text =>
      exists before behind, text = before ++ (needle ++ behind) ∧ InOrder later behind

section

variable {needle text text' before behind : List α} {needles later : List (List α)}

omit [DecidableEq α] in
theorem InOrder.mono (h : InOrder needles text) (hoccurs : text <:+: text') :
    InOrder needles text' := by
  induction needles generalizing text text' with
  | nil => exact trivial
  | cons needle later ih =>
      rcases h with ⟨before, behind, rfl, hlater⟩
      rcases hoccurs with ⟨front, back, rfl⟩
      refine ⟨front ++ before, behind ++ back, by simp, ?_⟩
      exact ih hlater (List.prefix_append behind back).isInfix

/-- No occurrence is before the first. -/
theorem length_le_of_cut (h : cut needle text = some (before, behind))
    {before' behind' : List α} (htext : text = before' ++ (needle ++ behind')) :
    before.length <= before'.length := by
  induction text generalizing before before' with
  | nil =>
      have hempty := eq_of_cut h
      rw [List.nil_eq_append_iff] at hempty
      rw [hempty.1]
      exact Nat.zero_le _
  | cons c rest ih =>
      by_cases hstarts : needle <+: c :: rest
      · rcases hstarts with ⟨tail, htail⟩
        rw [← htail, cut_of_starts] at h
        cases h
        exact Nat.zero_le _
      · rw [cut_cons_of_not_starts hstarts, Option.map_eq_some_iff] at h
        rcases h with ⟨⟨front, back⟩, hcut, heq⟩
        cases heq
        cases before' with
        | nil => exact absurd ⟨behind', htext.symm⟩ hstarts
        | cons d front' =>
            rw [List.cons_append, List.cons.injEq] at htext
            exact Nat.succ_le_succ (ih hcut htext.2)

/-- The first occurrence leaves the most behind it. -/
theorem suffix_of_cut (h : cut needle text = some (before, behind))
    {before' behind' : List α} (htext : text = before' ++ (needle ++ behind')) :
    behind' <:+ behind := by
  have hle := length_le_of_cut h htext
  have hsuffix : behind <:+ text := by
    rw [eq_of_cut h, ← List.append_assoc]
    exact List.suffix_append _ _
  have hsuffix' : behind' <:+ text := by
    rw [htext, ← List.append_assoc]
    exact List.suffix_append _ _
  apply List.suffix_of_suffix_length_le hsuffix' hsuffix
  have hlength := congrArg List.length (eq_of_cut h)
  rw [htext] at hlength
  simp only [List.length_append] at hlength
  omega

/-- Looking for the first occurrence of each needle is enough. -/
theorem inOrder_of_cut (h : cut needle text = some (before, behind)) :
    InOrder (needle :: later) text <-> InOrder later behind := by
  constructor
  · rintro ⟨before', behind', htext, hlater⟩
    exact hlater.mono (suffix_of_cut h htext).isInfix
  · intro hlater
    exact ⟨before, behind, eq_of_cut h, hlater⟩

theorem not_inOrder_of_cut (h : cut needle text = none) :
    ¬ InOrder (needle :: later) text := by
  rintro ⟨before, behind, htext, _⟩
  exact cut_eq_none_iff.mp h ⟨before, behind, by rw [htext]; simp⟩

def decidableInOrder : (needles : List (List α)) -> (text : List α) ->
    Decidable (InOrder needles text)
  | [], _ => isTrue trivial
  | needle :: later, text =>
      match h : cut needle text with
      | none => isFalse (not_inOrder_of_cut h)
      | some (_, behind) =>
          @decidable_of_iff' _ _ (inOrder_of_cut h) (decidableInOrder later behind)

instance (needles : List (List α)) (text : List α) : Decidable (InOrder needles text) :=
  decidableInOrder needles text

/-!
## Cutting at every occurrence
-/

/-- The text before the first occurrence, and the pieces behind each. -/
def segments (needle text : List α) : List (List α) :=
  match h : cut needle text with
  | none => [text]
  | some (before, behind) =>
      if hneedle : needle = [] then [text]
      else
        have : behind.length < text.length := by
          have hpos := List.length_pos_of_ne_nil hneedle
          have hlength := congrArg List.length (eq_of_cut h)
          simp only [List.length_append] at hlength
          omega
        before :: segments needle behind
termination_by text.length

/-- Put the pieces together again. -/
def rejoined (needle before : List α) (pieces : List (List α)) : List α :=
  before ++ pieces.flatMap fun piece => needle ++ piece

theorem segments_of_cut (hne : needle ≠ [])
    (h : cut needle text = some (before, behind)) :
    segments needle text = before :: segments needle behind := by
  rw [segments]
  split
  · rename_i hnone
    rw [hnone] at h
    cases h
  · rename_i hsome
    rw [hsome, Option.some_inj] at h
    cases h
    rw [dif_neg hne]

theorem segments_of_absent (h : ¬ needle <:+: text) :
    segments needle text = [text] := by
  have hcut := cut_eq_none_iff.mpr h
  rw [segments]
  split
  · rfl
  · rename_i hsome
    rw [hcut] at hsome
    cases hsome

omit [DecidableEq α] in
theorem rejoined_cons (needle before piece : List α) (pieces : List (List α)) :
    rejoined needle before (piece :: pieces) =
      before ++ (needle ++ rejoined needle piece pieces) := by
  simp [rejoined]

/-- Every text is the pieces put together, and none contains the needle. -/
theorem exists_segments (hne : needle ≠ []) (text : List α) :
    exists before pieces, segments needle text = before :: pieces ∧
      text = rejoined needle before pieces ∧ ¬ needle <:+: before ∧
      forall piece, piece ∈ pieces -> ¬ needle <:+: piece := by
  induction text using segments.induct needle with
  | case1 text hnone =>
      have hnot := cut_eq_none_iff.mp hnone
      refine ⟨text, [], segments_of_absent hnot, by simp [rejoined], hnot, ?_⟩
      intro piece hpiece
      cases hpiece
  | case2 text before behind hcut hneedle => exact absurd hneedle hne
  | case3 text before behind hcut hneedle hlength ih =>
      rcases ih with ⟨piece, pieces, hsegments, hrejoined, hpiece, hpieces⟩
      refine ⟨before, piece :: pieces, ?_, ?_, not_infix_of_cut hne hcut, ?_⟩
      · rw [segments_of_cut hne hcut, hsegments]
      · rw [rejoined_cons, ← hrejoined]
        exact eq_of_cut hcut
      · intro other hother
        cases List.mem_cons.mp hother with
        | inl heq =>
            rw [heq]
            exact hpiece
        | inr hmem => exact hpieces other hmem

/-- Pieces without the marker are found again. -/
theorem segments_rejoined (hmarker : Marker needle) {pieces : List (List α)}
    (hbefore : ¬ needle <:+: before)
    (hpieces : forall piece, piece ∈ pieces -> ¬ needle <:+: piece) :
    segments needle (rejoined needle before pieces) = before :: pieces := by
  induction pieces generalizing before with
  | nil =>
      have hnot : ¬ needle <:+: rejoined needle before [] := by
        simpa [rejoined] using hbefore
      rw [segments_of_absent hnot]
      simp [rejoined]
  | cons piece pieces ih =>
      have hcut := cut_of_marker hmarker hbefore (rejoined needle piece pieces)
      rw [rejoined_cons, segments_of_cut hmarker.ne_nil hcut,
        ih (hpieces piece List.mem_cons_self)
          fun other hother => hpieces other (List.mem_cons_of_mem piece hother)]

end

end Foundation
end Noc
