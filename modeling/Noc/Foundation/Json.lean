import Mathlib.Data.List.Nodup

/-!
# cJSON trees

The subset of cJSON the daemon uses, over trees.  Printing and parsing are
taken to be faithful, so a stored or published document is its tree.  A NULL
item is `none`: every lookup accepts it and returns it.
-/

namespace Noc
namespace Foundation

/-- A number is given by its integral part: readers only take `valueint`. -/
inductive Json where
  | null
  | bool (value : Bool)
  | num (value : Int)
  | str (value : String)
  | arr (items : List Json)
  | obj (members : List (String × Json))
  deriving Inhabited

namespace Json

/-!
## Lookups
-/

/-- The items cJSON links below a node; an object's members count too. -/
def children : Json -> List Json
  | arr items => items
  | obj members => members.map Prod.snd
  | _ => []

/-- `cJSON_GetObjectItemCaseSensitive`: the first member with the key. -/
def getItem (json : Option Json) (key : String) : Option Json :=
  match json with
  | some (obj members) => members.lookup key
  | _ => none

/-- All of `cJSON_GetArrayItem`, up to `cJSON_GetArraySize`. -/
def arrayItems (json : Option Json) : List Json :=
  match json with
  | some tree => tree.children
  | none => []

def isString : Json -> Bool
  | str _ => true
  | _ => false

def isArray : Json -> Bool
  | arr _ => true
  | _ => false

def isObject : Json -> Bool
  | obj _ => true
  | _ => false

/-- `valueint` saturates at the ends of a C `int`. -/
def valueInt (value : Int) : Int32 :=
  Int32.ofInt (max (-2147483648) (min 2147483647 value))

theorem valueInt_toInt (n : Int32) : valueInt n.toInt = n := by
  have hle := n.toInt_lt
  have hge := n.le_toInt
  have hclamp : max (-2147483648) (min 2147483647 n.toInt) = n.toInt := by
    omega
  rw [valueInt, hclamp, Int32.ofInt_toInt]

/-- The numbers `valueint` holds unchanged. -/
def InIntRange (n : Int) : Prop :=
  -2147483648 <= n ∧ n <= 2147483647

instance (n : Int) : Decidable (InIntRange n) :=
  inferInstanceAs (Decidable (_ ∧ _))

theorem toInt_valueInt_iff (n : Int) :
    (valueInt n).toInt = n <-> InIntRange n := by
  have hle := (valueInt n).toInt_lt
  have hge := (valueInt n).le_toInt
  constructor
  · intro h
    rw [h] at hle hge
    constructor <;> omega
  · intro h
    rcases h with ⟨hlow, hhigh⟩
    have hclamp : max (-2147483648) (min 2147483647 n) = n := by
      omega
    rw [valueInt, hclamp]
    exact Int32.toInt_ofInt_of_le hlow (by omega)

/-!
## Field readers

Decoders start from zeroed memory and fill a field when its member is present
and has the kind they test for.
-/

/-- `cJSON_GetStringValue`, NULL for an item of another kind. -/
def stringValue : Option Json -> Option String
  | some (str value) => some value
  | _ => none

def numberValue : Option Json -> Option Int32
  | some (num value) => some (valueInt value)
  | _ => none

def intValue (json : Option Json) : Int32 :=
  (numberValue json).getD 0

/-- A flag is set exactly by the literal `true`. -/
def trueValue : Option Json -> Bool
  | some (bool value) => value
  | _ => false

def arrayValue : Option Json -> Option Json
  | some (arr items) => some (arr items)
  | _ => none

def objectValue : Option Json -> Option Json
  | some (obj members) => some (obj members)
  | _ => none

def readString (json : Option Json) (key : String) : Option String :=
  stringValue (getItem json key)

def readInt (json : Option Json) (key : String) : Int32 :=
  intValue (getItem json key)

def readTrue (json : Option Json) (key : String) : Bool :=
  trueValue (getItem json key)

def readArray (json : Option Json) (key : String) : Option Json :=
  arrayValue (getItem json key)

def readObject (json : Option Json) (key : String) : Option Json :=
  objectValue (getItem json key)

/-!
## Building objects

An encoder adds its members one after the other.  Adding a NULL item fails
silently, so the member is left out.
-/

def mkObject (members : List (String × Option Json)) : Json :=
  obj (members.filterMap fun member => member.2.map (member.1, ·))

/-- `cJSON_AddStringToObject` of a pointer that may be NULL. -/
def ofString (value : Option String) : Option Json :=
  value.map str

def ofInt (value : Int32) : Option Json :=
  some (num value.toInt)

def ofBool (value : Bool) : Option Json :=
  some (bool value)

@[simp] theorem getItem_mkObject_nil (key : String) :
    getItem (some (mkObject [])) key = none := rfl

@[simp] theorem getItem_mkObject_self
    (key : String) (value : Option Json) (rest : List (String × Option Json)) :
    getItem (some (mkObject ((key, value) :: rest))) key =
      value.or (getItem (some (mkObject rest)) key) := by
  cases value with
  | none =>
      simp [mkObject, getItem]
  | some tree =>
      simp [mkObject, getItem]

@[simp] theorem getItem_mkObject_of_ne
    {key other : String} (hne : key ≠ other) (value : Option Json)
    (rest : List (String × Option Json)) :
    getItem (some (mkObject ((other, value) :: rest))) key =
      getItem (some (mkObject rest)) key := by
  cases value with
  | none =>
      simp [mkObject, getItem]
  | some tree =>
      have hbeq : (key == other) = false := by
        simpa using hne
      simp [mkObject, getItem, List.lookup_cons, hbeq]

@[simp] theorem stringValue_ofString (value : Option String) :
    stringValue (ofString value) = value := by
  cases value <;> rfl

@[simp] theorem intValue_ofInt (value : Int32) :
    intValue (ofInt value) = value := by
  simp [ofInt, intValue, numberValue, valueInt_toInt]

@[simp] theorem trueValue_ofBool (value : Bool) :
    trueValue (ofBool value) = value := rfl

/-!
## Lists

A list is encoded as the array of its encoded elements and decoded item by
item, so an element codec that round-trips makes the list codec round-trip.
-/

def encodeList {α : Type} (encode : α -> Json) (values : List α) : Json :=
  arr (values.map encode)

def decodeList {α : Type} (decode : Option Json -> α) (json : Option Json) :
    List α :=
  (arrayItems json).map fun item => decode (some item)

@[simp] theorem arrayItems_none : arrayItems none = [] := rfl

@[simp] theorem decodeList_none {α : Type} (decode : Option Json -> α) :
    decodeList decode none = [] := rfl

theorem decodeList_encodeList {α : Type}
    {encode : α -> Json} {decode : Option Json -> α} {values : List α}
    (h : forall value, value ∈ values -> decode (some (encode value)) = value) :
    decodeList decode (some (encodeList encode values)) = values := by
  have hmap : (values.map encode).map (fun item => decode (some item)) =
      values := by
    rw [List.map_map]
    calc
      values.map ((fun item => decode (some item)) ∘ encode) =
          values.map id := List.map_congr_left h
      _ = values := List.map_id values
  exact hmap

/-!
An element encoder that can fail makes the list encoder fail as a whole.
-/

def encodeListM {α : Type} (encode : α -> Option Json) (values : List α) :
    Option Json :=
  (values.mapM encode).map arr

theorem mapM_eq_none_iff {α β : Type} (encode : α -> Option β)
    (values : List α) :
    values.mapM encode = none <->
      exists value, value ∈ values ∧ encode value = none := by
  induction values with
  | nil => simp
  | cons value rest ih =>
      rw [List.mapM_cons]
      cases hvalue : encode value with
      | none => simp [hvalue]
      | some tree =>
          cases hrest : rest.mapM encode with
          | none => simpa [hvalue, hrest] using ih.mp hrest
          | some trees =>
              have hnone : ¬ exists v, v ∈ rest ∧ encode v = none := by
                rw [← ih, hrest]
                simp
              simpa [hvalue] using hnone

theorem encodeListM_eq_none_iff {α : Type} (encode : α -> Option Json)
    (values : List α) :
    encodeListM encode values = none <->
      exists value, value ∈ values ∧ encode value = none := by
  unfold encodeListM
  rw [Option.map_eq_none_iff]
  exact mapM_eq_none_iff encode values

theorem map_decode_of_mapM {α β : Type} {encode : α -> Option β}
    {decode : β -> α}
    (h : forall value tree, encode value = some tree -> decode tree = value)
    {values : List α} {trees : List β}
    (htrees : values.mapM encode = some trees) :
    trees.map decode = values := by
  induction values generalizing trees with
  | nil =>
      cases htrees
      rfl
  | cons value rest ih =>
      rw [List.mapM_cons] at htrees
      cases hvalue : encode value with
      | none => simp [hvalue] at htrees
      | some tree =>
          cases hrest : rest.mapM encode with
          | none => simp [hvalue, hrest] at htrees
          | some tail =>
              rw [hvalue, hrest] at htrees
              cases htrees
              rw [List.map_cons, h value tree hvalue, ih hrest]

theorem decodeList_of_encodeListM {α : Type} {encode : α -> Option Json}
    {decode : Option Json -> α}
    (h : forall value tree, encode value = some tree ->
      decode (some tree) = value)
    {values : List α} {tree : Json}
    (htree : encodeListM encode values = some tree) :
    decodeList decode (some tree) = values := by
  unfold encodeListM at htree
  rcases Option.map_eq_some_iff.mp htree with ⟨trees, htrees, heq⟩
  subst heq
  exact map_decode_of_mapM h htrees

/-!
## Arrays of strings

`cJSON_CreateStringArray` gives up, and so leaves the member out, when the
array pointer or one of the strings is NULL.  An empty array is kept as a NULL
pointer.
-/

def createStringArray (strings : List (Option String)) : Option Json :=
  if strings = [] then none else encodeListM ofString strings

def stringArray (json : Option Json) : List (Option String) :=
  decodeList stringValue json

theorem stringArray_createStringArray_iff (strings : List (Option String)) :
    stringArray (createStringArray strings) = strings <->
      forall string, string ∈ strings -> string ≠ none := by
  unfold createStringArray
  cases hencoded : encodeListM ofString strings with
  | none =>
      rcases (encodeListM_eq_none_iff ofString strings).mp hencoded with
        ⟨string, hmem, hnull⟩
      have hne : strings ≠ [] := List.ne_nil_of_mem hmem
      have hstring : string = none := by
        simpa [ofString] using hnull
      constructor
      · intro h
        rw [if_neg hne] at h
        exact absurd h.symm hne
      · intro h
        exact absurd hstring (h string hmem)
  | some tree =>
      constructor
      · intro _ string hmem hnull
        have hnone : encodeListM ofString strings = none :=
          (encodeListM_eq_none_iff ofString strings).mpr
            ⟨string, hmem, by rw [hnull]; rfl⟩
        rw [hnone] at hencoded
        cases hencoded
      · intro _
        by_cases hempty : strings = []
        · simp [hempty, stringArray]
        · rw [if_neg hempty]
          apply decodeList_of_encodeListM _ hencoded
          intro string item hitem
          rw [← hitem, stringValue_ofString]

@[simp] theorem arrayValue_encodeList {α : Type}
    (encode : α -> Json) (values : List α) :
    arrayValue (some (encodeList encode values)) =
      some (encodeList encode values) := rfl

@[simp] theorem objectValue_mkObject
    (members : List (String × Option Json)) :
    objectValue (some (mkObject members)) = some (mkObject members) := rfl

end Json
end Foundation
end Noc
