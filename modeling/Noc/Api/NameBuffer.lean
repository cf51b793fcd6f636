import Noc.Api.AnswerName
import Mathlib.Algebra.Order.Ring.Nat

/-!
# The name of a response in its buffer

`cvt_req_name_to_res_name` puts a name together by appending to a buffer of 200
bytes.  A name of three or more segments that fits is the request's with its
first two segments exchanged and its last one closed, and converting it again
exchanges them back.
-/

namespace Noc
namespace Api

open Foundation
open Foundation.Exec

/-!
## The buffer
-/

/-- `strcat` into a buffer, which keeps a byte for the NUL. -/
def strcat (size : Nat) (dest src : String) : Option String :=
  if dest.utf8ByteSize + src.utf8ByteSize < size then some (dest ++ src)
  else none

def resNameSize : Nat := 200

/-- What is appended to the name, call by call. -/
def resNamePieces (nameSplit : List String) : List String :=
  nameSplit[1]?.toList ++ ["."] ++ nameSplit[0]?.toList ++
    ((middleSegments nameSplit).flatMap fun segment => [".", segment]) ++
      [".", lastSegment (nameSplit.getLastD "")]

/-- The name as it is written; there is none when it does not fit. -/
def resName (nameSplit : List String) : Option String :=
  (resNamePieces nameSplit).foldlM (strcat resNameSize) ""

/-- The call returns the name, and the name fits its buffer. -/
structure Converts (name result : String) : Prop where
  returned : forall w, cvtReqNameToResName (some name) w = .ok (result, w)
  written : resName (strtok '.' name) = some result

/-- The name of the segments becomes the exchanged name with as many segments,
and that becomes a name with the first two segments of before. -/
structure ConvertsThereAndBack (segments : List String) : Prop where
  there : Converts (dotted segments) (dotted (exchanged segments))
  segmentCount : (strtok '.' (dotted (exchanged segments))).length =
    segments.length
  back : exists restored, Converts (dotted (exchanged segments)) restored ∧
    (strtok '.' restored)[0]? = segments[0]? ∧
    (strtok '.' restored)[1]? = segments[1]?

section

variable {size : Nat} {dest : String} {pieces segments rest : List String}
variable {name : String}

/-- Appending piece by piece fits exactly when everything does. -/
theorem foldlM_strcat_eq (hdest : dest.utf8ByteSize < size) :
    pieces.foldlM (strcat size) dest =
      if (dest ++ String.join pieces).utf8ByteSize < size then
        some (dest ++ String.join pieces)
      else none := by
  induction pieces generalizing dest with
  | nil =>
      rw [String.join_nil, String.append_empty, if_pos hdest]
      rfl
  | cons piece rest ih =>
      rw [List.foldlM_cons, String.join_cons, ← String.append_assoc]
      unfold strcat
      rw [← String.utf8ByteSize_append]
      by_cases hpiece : (dest ++ piece).utf8ByteSize < size
      · rw [if_pos hpiece]
        exact ih hpiece
      · rw [if_neg hpiece, if_neg]
        · rfl
        · rw [String.utf8ByteSize_append]
          omega

theorem join_flatMap_dot (segments : List String) :
    String.join (segments.flatMap fun segment => [".", segment]) =
      String.join (segments.map fun segment => "." ++ segment) := by
  induction segments with
  | nil => rfl
  | cons segment rest ih =>
      rw [List.flatMap_cons, List.map_cons, String.join_append, String.join_cons,
        ih, String.join_cons, String.join_cons, String.join_nil,
        String.append_empty]

theorem join_resNamePieces (hlength : 2 <= segments.length) :
    String.join (resNamePieces segments) = responseName segments := by
  match segments with
  | first :: second :: rest =>
      show String.join ([second] ++ ["."] ++ [first] ++ _ ++ _) = _
      unfold responseName
      simp only [String.join_append, String.join_cons, String.join_nil,
        String.append_empty, join_flatMap_dot, String.append_assoc]

theorem resName_eq (hlength : 2 <= segments.length) :
    resName segments =
      if (responseName segments).utf8ByteSize < resNameSize then
        some (responseName segments)
      else none := by
  unfold resName
  rw [foldlM_strcat_eq (by decide), String.empty_append,
    join_resNamePieces hlength]

theorem converts_of_fits (name : String)
    (hlength : 3 <= (strtok '.' name).length)
    (hfits : (dotted (exchanged (strtok '.' name))).utf8ByteSize < resNameSize) :
    Converts name (dotted (exchanged (strtok '.' name))) where
  returned := by
    intro w
    rw [← responseName_eq hlength]
    unfold cvtReqNameToResName
    rw [Option.map_some, Option.getD_some]
    match hsplit : strtok '.' name with
    | [] => simp [hsplit] at hlength
    | [_] => simp [hsplit] at hlength
    | first :: second :: rest => rfl
  written := by
    rw [← responseName_eq hlength] at hfits ⊢
    rw [resName_eq (by omega), if_pos hfits]

/-!
## There and back
-/

theorem utf8ByteSize_dotted_cons (segment : String) (rest : List String) :
    (dotted (segment :: rest)).utf8ByteSize =
      segment.utf8ByteSize +
        (rest.map fun later => 1 + later.utf8ByteSize).sum := by
  induction rest generalizing segment with
  | nil =>
      unfold dotted
      rw [String.intercalate_singleton]
      rfl
  | cons later rest ih =>
      have hdotted : dotted (segment :: later :: rest) =
          segment ++ String.singleton '.' ++ dotted (later :: rest) :=
        String.intercalate_cons_cons
      rw [hdotted, String.utf8ByteSize_append, String.utf8ByteSize_append, ih,
        List.map_cons, List.sum_cons]
      have hdot : (String.singleton '.').utf8ByteSize = 1 := by decide
      omega

/-- Exchanging twice leaves a name as long as exchanging once. -/
theorem utf8ByteSize_exchanged_exchanged (hlength : 3 <= segments.length) :
    (dotted (exchanged (exchanged segments))).utf8ByteSize =
      (dotted (exchanged segments)).utf8ByteSize := by
  match segments with
  | first :: second :: last :: rest =>
      simp only [exchanged, List.dropLast_concat, List.getLastD_concat,
        lastSegment_lastSegment, utf8ByteSize_dotted_cons, List.map_cons,
        List.sum_cons]
      omega

theorem getElem?_exchanged_exchanged (hlength : 3 <= segments.length) :
    (exchanged (exchanged segments))[0]? = segments[0]? ∧
      (exchanged (exchanged segments))[1]? = segments[1]? := by
  match segments with
  | first :: second :: last :: rest => exact ⟨rfl, rfl⟩

/-- Every name of three or more segments whose response fits is converted there
and back. -/
theorem convertsThereAndBack (hlength : 3 <= segments.length)
    (htokens : forall segment, segment ∈ segments -> IsToken '.' segment)
    (hfits : (dotted (exchanged segments)).utf8ByteSize < resNameSize) :
    ConvertsThereAndBack segments := by
  have hexchanged := isToken_exchanged htokens hlength
  have hsame := length_exchanged hlength
  have hagain : 3 <= (exchanged segments).length := by
    rw [hsame]
    exact hlength
  have hsplit : strtok '.' (dotted segments) = segments :=
    strtok_intercalate htokens
  have hsplit' : strtok '.' (dotted (exchanged segments)) = exchanged segments :=
    strtok_intercalate hexchanged
  have hsplit'' : strtok '.' (dotted (exchanged (exchanged segments))) =
      exchanged (exchanged segments) :=
    strtok_intercalate (isToken_exchanged hexchanged hagain)
  constructor
  · have hthere := converts_of_fits (dotted segments)
    rw [hsplit] at hthere
    exact hthere hlength hfits
  · rw [hsplit', hsame]
  · have hback := converts_of_fits (dotted (exchanged segments))
    rw [hsplit', utf8ByteSize_exchanged_exchanged hlength] at hback
    refine ⟨_, hback hagain hfits, ?_⟩
    rw [hsplit'']
    exact getElem?_exchanged_exchanged hlength

end

theorem convertsThereAndBack_mesh_requested :
    ConvertsThereAndBack ["hub", "ezm", "mesh", "requested"] := by
  apply convertsThereAndBack (by decide)
  · unfold IsToken
    decide +kernel
  · decide +kernel

end Api
end Noc
