import Mathlib.Data.List.ModifyLast
import Noc.Foundation.Search
import Noc.Mesh.Device

/-!
# Reading a topology

`topology_handler` of `core/mesh/topology/topology.c`: the mesh daemon's answer
is searched for the fields of one device after the other.  A `char *` into the
answer is what is left of it from there.
-/

namespace Noc
namespace Mesh

open Foundation

inductive PatternField where
  | mac
  | ip
  | parentMac
  | channelSelection5g
  | channelSelection2g
  deriving DecidableEq, Repr

/-- `pattern_t`; a field's text is between `start` and `stop`, and both come
behind the pattern. -/
structure Pattern where
  field : PatternField
  pattern : List Char
  start : List Char
  stop : List Char

def devicePattern : List Char := "QCA IEEE 1905.1 device:".toList
def ipPattern : List Char := "IPv4 address:".toList
def parentPattern : List Char := "Upstream Device:".toList
def radiosPattern : List Char := "Radios:".toList
def wlanPattern : List Char := "WLAN".toList

def macEntry : Pattern := ⟨.mac, devicePattern, [' '], [',']⟩
def ipEntry : Pattern := ⟨.ip, ipPattern, [' '], [' ']⟩
def parentMacEntry : Pattern := ⟨.parentMac, parentPattern, [' '], ['\n']⟩
def channelSelection5gEntry : Pattern :=
  ⟨.channelSelection5g, radiosPattern, wlanPattern, ['\n']⟩
def channelSelection2gEntry : Pattern :=
  ⟨.channelSelection2g, wlanPattern, [' '], ['\n']⟩

def devicePatternEntry : List Pattern :=
  [macEntry, ipEntry, parentMacEntry, channelSelection5gEntry,
   channelSelection2gEntry]

section

variable {entry other : Pattern}

theorem markers_of_mem (h : entry ∈ devicePatternEntry) :
    Marker entry.pattern ∧ Marker entry.start ∧ Marker entry.stop := by
  have hall : forall entry, entry ∈ devicePatternEntry ->
      Marker entry.pattern ∧ Marker entry.start ∧ Marker entry.stop := by
    decide
  exact hall entry h

/-- A field ends with one character, and no pattern begins with it. -/
theorem no_pattern_at_stop (h : entry ∈ devicePatternEntry) :
    exists c, entry.stop = [c] ∧ forall other, other ∈ devicePatternEntry ->
      forall text, ¬ other.pattern <+: c :: text := by
  have hall : forall entry, entry ∈ devicePatternEntry ->
      entry.stop.length = 1 ∧ forall other, other ∈ devicePatternEntry ->
        other.pattern ≠ [] ∧ other.pattern.head? ≠ entry.stop.head? := by
    decide
  rcases hall entry h with ⟨hlength, hheads⟩
  rcases List.length_eq_one_iff.mp hlength with ⟨c, hstop⟩
  refine ⟨c, hstop, ?_⟩
  intro other hother text hstarts
  rcases hheads other hother with ⟨hne, hhead⟩
  rcases List.exists_cons_of_ne_nil hne with ⟨first, pattern, hpattern⟩
  rw [hpattern, List.cons_prefix_cons] at hstarts
  apply hhead
  rw [hpattern, hstop, hstarts.1]
  rfl

end

/-!
## Texts
-/

def lowChar (c : Char) : Char :=
  if 'A' <= c ∧ c <= 'Z' then Char.ofNat (c.toNat + 32) else c

def upcaseToLowcase (text : List Char) : String :=
  String.ofList (text.map lowChar)

def isDigit (c : Char) : Bool :=
  '0' <= c && c <= '9'

/-- The loop over a radio line: the flag it leaves and the two indices. -/
def recordDigits (startRecord : Bool) (dataIndex : Nat) (startIndex : UInt16) :
    List Char -> Bool × UInt16 × UInt16
  | [] => (startRecord, startIndex, 0)
  | c :: rest =>
      if startRecord then
        if isDigit c then recordDigits true (dataIndex + 1) startIndex rest
        else (false, startIndex, UInt16.ofNat dataIndex)
      else if isDigit c then
        recordDigits true (dataIndex + 1) (UInt16.ofNat dataIndex) rest
      else recordDigits false (dataIndex + 1) startIndex rest

/-- The bytes between the indices.  A stop index below the start index makes a
negative size, which nothing can be copied to. -/
def channelSelection (line : List Char) (startIndex stopIndex : UInt16) :
    Option String :=
  if stopIndex < startIndex then none
  else
    some (String.ofList ((line.drop startIndex.toNat).take
      (stopIndex.toNat - startIndex.toNat)))

/-!
## State

The devices read so far, their count, and the two static flags `start_record`.
-/

structure HandlerState where
  deviceList : List DeviceInfo
  numberDevice : Nat
  startRecord5g : Bool
  startRecord2g : Bool
  deriving DecidableEq, Repr

namespace HandlerState

/-- The first device is the controller. -/
def addDevice (s : HandlerState) : HandlerState :=
  { s with
    deviceList := s.deviceList ++
      [{ role := some (if s.numberDevice = 0 then "controller" else "agent") }]
    numberDevice := s.numberDevice + 1 }

/-- Change the last device. -/
def setLast (s : HandlerState) (change : DeviceInfo -> DeviceInfo) : HandlerState :=
  { s with deviceList := s.deviceList.modifyLast change }

/-- Store a field's text; there is no result where the copy cannot be made. -/
def store (s : HandlerState) (field : PatternField) (text : List Char) :
    Option HandlerState :=
  match field with
  | .mac => some (s.setLast fun device =>
      { device with mac := some (upcaseToLowcase text) })
  | .ip => some (s.setLast fun device =>
      { device with ip := some (String.ofList text) })
  | .parentMac => some (s.setLast fun device =>
      { device with parentMac := some (upcaseToLowcase text) })
  | .channelSelection5g =>
      let (startRecord, startIndex, stopIndex) :=
        recordDigits s.startRecord5g 0 0 text
      (channelSelection text startIndex stopIndex).map fun channel =>
        { s.setLast fun device =>
            { device with channelSelection5g := some channel } with
          startRecord5g := startRecord }
  | .channelSelection2g =>
      let (startRecord, startIndex, stopIndex) :=
        recordDigits s.startRecord2g 0 0 text
      (channelSelection text startIndex stopIndex).map fun channel =>
        { s.setLast fun device =>
            { device with channelSelection2g := some channel } with
          startRecord2g := startRecord }

end HandlerState

/-!
## The loops
-/

/-- How the reading of a field ends. -/
inductive FieldOutcome where
  | returned (s : HandlerState)
  | crashed
  | reached (s : HandlerState) (checkPointer : List Char)
  deriving DecidableEq, Repr

/-- One field.  A device is made before its mac is looked for, and a start that
is not found is only noticed where one was not added to the pointer before. -/
def readField (entry : Pattern) (s : HandlerState) (checkPointer : List Char) :
    FieldOutcome :=
  match cut entry.pattern checkPointer with
  | none => .returned s
  | some (_, strPointer) =>
      let s := if entry.field = .mac then s.addDevice else s
      match cut entry.start strPointer with
      | none => if entry.field = .mac then .crashed else .returned s
      | some (_, startPointer) =>
          match cut entry.stop startPointer with
          | none => .returned s
          | some (text, behind) =>
              match s.store entry.field text with
              | none => .crashed
              | some s => .reached s (entry.stop ++ behind)

def readFields : List Pattern -> HandlerState -> List Char -> FieldOutcome
  | [], s, checkPointer => .reached s checkPointer
  | entry :: rest, s, checkPointer =>
      match readField entry s checkPointer with
      | .reached s endPointer => readFields rest s endPointer
      | ended => ended

/-!
Every round gets on in the text, so the loop ends.
-/

section

variable {entry : Pattern} {entries : List Pattern} {s s' : HandlerState}
  {checkPointer rest : List Char}

/-- A field that was read is cut out of the text, and reading goes on at what
ends it. -/
theorem text_of_reached (h : readField entry s checkPointer = .reached s' rest) :
    exists before gap text behind,
      checkPointer = before ++ (entry.pattern ++ (gap ++ (entry.start ++
        (text ++ (entry.stop ++ behind))))) ∧
      rest = entry.stop ++ behind := by
  unfold readField at h
  cases hpattern : cut entry.pattern checkPointer with
  | none =>
      simp only [hpattern] at h
      cases h
  | some parts =>
      rcases parts with ⟨before, strPointer⟩
      cases hstart : cut entry.start strPointer with
      | none =>
          simp only [hpattern, hstart] at h
          split at h <;> cases h
      | some parts =>
          rcases parts with ⟨gap, startPointer⟩
          cases hstop : cut entry.stop startPointer with
          | none =>
              simp only [hpattern, hstart, hstop] at h
              cases h
          | some parts =>
              rcases parts with ⟨text, behind⟩
              simp only [hpattern, hstart, hstop] at h
              split at h
              · cases h
              · cases h
                refine ⟨before, gap, text, behind, ?_, rfl⟩
                rw [← eq_of_cut hstop, ← eq_of_cut hstart]
                exact eq_of_cut hpattern

theorem length_of_reached (h : readField entry s checkPointer = .reached s' rest) :
    rest.length + entry.pattern.length <= checkPointer.length := by
  rcases text_of_reached h with ⟨before, gap, text, behind, htext, hrest⟩
  have hlength := congrArg List.length htext
  have hlengthRest := congrArg List.length hrest
  simp only [List.length_append] at hlength hlengthRest
  omega

theorem length_of_readFields
    (h : readFields entries s checkPointer = .reached s' rest) :
    rest.length <= checkPointer.length := by
  induction entries generalizing s checkPointer with
  | nil =>
      cases h
      exact Nat.le_refl _
  | cons entry later ih =>
      unfold readFields at h
      split at h
      · rename_i hreached
        have hfield := length_of_reached hreached
        have hlater := ih h
        omega
      · rename_i hnot
        exact absurd h (hnot _ _)

theorem length_of_round
    (h : readFields devicePatternEntry s checkPointer = .reached s' rest) :
    rest.length < checkPointer.length := by
  unfold devicePatternEntry readFields at h
  split at h
  · rename_i hreached
    have hfield := length_of_reached hreached
    have hlater := length_of_readFields h
    have hpattern : macEntry.pattern.length = 23 := rfl
    omega
  · rename_i hnot
    exact absurd h (hnot _ _)

end

/-- The rounds over the fields. -/
def topologyLoop (s : HandlerState) (checkPointer : List Char) :
    Option HandlerState :=
  match h : readFields devicePatternEntry s checkPointer with
  | .returned s => some s
  | .crashed => none
  | .reached s rest =>
      have : rest.length < checkPointer.length := length_of_round h
      topologyLoop s rest
termination_by checkPointer.length

/-- The state before a call, with what the static flags were left at. -/
def HandlerState.initial (startRecord5g startRecord2g : Bool) : HandlerState where
  deviceList := []
  numberDevice := 0
  startRecord5g := startRecord5g
  startRecord2g := startRecord2g

/-- There is no result where the daemon crashes. -/
def topologyHandler (startRecord5g startRecord2g : Bool)
    (topologyStr : Option String) : Option HandlerState :=
  let initial := HandlerState.initial startRecord5g startRecord2g
  match topologyStr with
  | none => some initial
  | some text => topologyLoop initial text.toList

theorem topologyLoop_eq (s : HandlerState) (checkPointer : List Char) :
    topologyLoop s checkPointer =
      match readFields devicePatternEntry s checkPointer with
      | .returned s => some s
      | .crashed => none
      | .reached s rest => topologyLoop s rest := by
  rw [topologyLoop]
  split <;> rename_i h <;> simp only [h]

theorem topologyLoop_of_returned {s s' : HandlerState} {checkPointer : List Char}
    (h : readFields devicePatternEntry s checkPointer = .returned s') :
    topologyLoop s checkPointer = some s' := by
  rw [topologyLoop_eq, h]

theorem topologyLoop_of_crashed {s : HandlerState} {checkPointer : List Char}
    (h : readFields devicePatternEntry s checkPointer = .crashed) :
    topologyLoop s checkPointer = none := by
  rw [topologyLoop_eq, h]

theorem topologyLoop_of_reached {s s' : HandlerState} {checkPointer rest : List Char}
    (h : readFields devicePatternEntry s checkPointer = .reached s' rest) :
    topologyLoop s checkPointer = topologyLoop s' rest := by
  rw [topologyLoop_eq, h]

theorem topologyHandler_some (startRecord5g startRecord2g : Bool) (text : String) :
    topologyHandler startRecord5g startRecord2g (some text) =
      topologyLoop (HandlerState.initial startRecord5g startRecord2g) text.toList :=
  rfl

/-!
## Rules over a call

What making a device and storing a text keep, a whole call keeps.
-/

structure Preserved (inv : HandlerState -> Prop) : Prop where
  addDevice : forall s, inv s -> inv s.addDevice
  store : forall field text s s', s.store field text = some s' -> inv s -> inv s'

/-- What holds of the state where the reading of a field ends. -/
def FieldOutcome.Leaves (inv : HandlerState -> Prop) : FieldOutcome -> Prop
  | .returned s => inv s
  | .crashed => True
  | .reached s _ => inv s

section

variable {inv : HandlerState -> Prop} {s s' : HandlerState}

theorem Preserved.readField (h : Preserved inv) (hinv : inv s) (entry : Pattern)
    (checkPointer : List Char) :
    (Mesh.readField entry s checkPointer).Leaves inv := by
  unfold Mesh.readField
  cases cut entry.pattern checkPointer with
  | none => exact hinv
  | some parts =>
      have hmade : inv (if entry.field = .mac then s.addDevice else s) := by
        split
        · exact h.addDevice s hinv
        · exact hinv
      dsimp only
      cases cut entry.start parts.2 with
      | none =>
          dsimp only
          split
          · exact trivial
          · rename_i hfield
            rw [if_neg hfield] at hmade
            exact hmade
      | some parts =>
          dsimp only
          cases cut entry.stop parts.2 with
          | none => exact hmade
          | some parts =>
              dsimp only
              split
              · exact trivial
              · rename_i hstore
                exact h.store _ _ _ _ hstore hmade

theorem Preserved.readFields (h : Preserved inv) (hinv : inv s)
    (entries : List Pattern) (checkPointer : List Char) :
    (Mesh.readFields entries s checkPointer).Leaves inv := by
  induction entries generalizing s checkPointer with
  | nil => exact hinv
  | cons entry rest ih =>
      have hfield := h.readField hinv entry checkPointer
      unfold Mesh.readFields
      split
      · rename_i hreached
        rw [hreached] at hfield
        exact ih hfield _
      · exact hfield

theorem Preserved.topologyLoop (h : Preserved inv) (hinv : inv s)
    (checkPointer : List Char)
    (hend : Mesh.topologyLoop s checkPointer = some s') : inv s' := by
  induction s, checkPointer using Mesh.topologyLoop.induct with
  | case1 s checkPointer ended hround =>
      have hleft := h.readFields hinv devicePatternEntry checkPointer
      rw [topologyLoop_of_returned hround] at hend
      rw [hround] at hleft
      cases hend
      exact hleft
  | case2 s checkPointer hround =>
      rw [topologyLoop_of_crashed hround] at hend
      cases hend
  | case3 s checkPointer next rest hround hlength ih =>
      have hleft := h.readFields hinv devicePatternEntry checkPointer
      rw [topologyLoop_of_reached hround] at hend
      rw [hround] at hleft
      exact ih hleft hend

theorem Preserved.topologyHandler (h : Preserved inv)
    (startRecord5g startRecord2g : Bool)
    (hinv : inv (HandlerState.initial startRecord5g startRecord2g))
    (topologyStr : Option String)
    (hend : Mesh.topologyHandler startRecord5g startRecord2g topologyStr = some s) :
    inv s := by
  cases topologyStr with
  | none =>
      cases hend
      exact hinv
  | some text => exact h.topologyLoop hinv text.toList hend

end

/-!
## Roles

The first device is a controller, and no other is.
-/

def roles : Nat -> List (Option String)
  | 0 => []
  | n + 1 => some "controller" :: List.replicate n (some "agent")

def RolesInOrder (s : HandlerState) : Prop :=
  s.deviceList.map DeviceInfo.role = roles s.numberDevice

theorem roles_succ (n : Nat) :
    roles (n + 1) = roles n ++ [some (if n = 0 then "controller" else "agent")] := by
  cases n with
  | zero => rfl
  | succ n => simp [roles, List.replicate_succ']

theorem map_modifyLast {α β : Type} {f : α -> α} {key : α -> β}
    (h : forall value, key (f value) = key value) (values : List α) :
    (values.modifyLast f).map key = values.map key := by
  cases values using List.reverseRecOn with
  | nil => rfl
  | append_singleton front last => simp [List.modifyLast_concat, h]

theorem preserved_rolesInOrder : Preserved RolesInOrder := by
  constructor
  · intro s hroles
    show (s.deviceList ++ [_]).map DeviceInfo.role = roles (s.numberDevice + 1)
    rw [List.map_append, hroles, roles_succ]
    rfl
  · intro field text s s' hstore hroles
    have hkept : forall change : DeviceInfo -> DeviceInfo,
        (forall device, (change device).role = device.role) ->
          RolesInOrder (s.setLast change) := by
      intro change hrole
      exact (map_modifyLast hrole s.deviceList).trans hroles
    cases field with
    | mac =>
        cases hstore
        exact hkept _ fun _ => rfl
    | ip =>
        cases hstore
        exact hkept _ fun _ => rfl
    | parentMac =>
        cases hstore
        exact hkept _ fun _ => rfl
    | channelSelection5g =>
        rcases Option.map_eq_some_iff.mp hstore with ⟨channel, _, rfl⟩
        exact hkept _ fun _ => rfl
    | channelSelection2g =>
        rcases Option.map_eq_some_iff.mp hstore with ⟨channel, _, rfl⟩
        exact hkept _ fun _ => rfl

theorem rolesInOrder_topologyHandler {startRecord5g startRecord2g : Bool}
    {topologyStr : Option String} {s : HandlerState}
    (h : topologyHandler startRecord5g startRecord2g topologyStr = some s) :
    RolesInOrder s :=
  preserved_rolesInOrder.topologyHandler startRecord5g startRecord2g rfl topologyStr h

end Mesh
end Noc
