import Mathlib.Data.List.TakeWhile
import Noc.Mesh.Device

/-!
# Devices that announce themselves

The query of `utils/app_mdns/app_mdns.c` for the devices that can be paired,
and the parser of TXT records it calls.
-/

namespace Noc
namespace Mesh

/-!
## TXT records
-/

/-- `mdns_record_txt_t`: a key and a value in the received message.  Neither
ends with a NUL: the value is followed by what stands behind it in the
message. -/
structure TxtRecord where
  key : String
  value : String
  behind : String
  deriving DecidableEq

/-- What a pointer to the value points to. -/
def TxtRecord.valueStr (record : TxtRecord) : String :=
  record.value ++ record.behind

/-- What a pointer to the key points to. -/
def TxtRecord.keyStr (record : TxtRecord) : String :=
  record.key ++ "=" ++ record.valueStr

/-- `strncmp` with the length of the second text tells them equal. -/
def strncmpEqual (str text : String) : Bool :=
  text.toList.isPrefixOf str.toList

/-- `strndup` of a value, with its length: the copy ends at a NUL. -/
def appStrndup (value : String) : String :=
  String.ofList (value.toList.takeWhile fun c => c != '\x00')

/-- A printable character that does not end a key. -/
def isKeyChar (c : Char) : Bool :=
  0x20 <= c.toNat && c.toNat <= 0x7E && c != '='

/-- One string of a TXT record; without a key it is skipped. -/
def txtRecord (strdata behind : List Char) : Option TxtRecord :=
  match strdata.takeWhile isKeyChar, strdata.dropWhile isKeyChar with
  | c :: key, '=' :: value =>
      some
        { key := String.ofList (c :: key)
          value := String.ofList value
          behind := String.ofList behind }
  | _, _ => none

/-- The strings of a TXT record, each behind a byte with its length. -/
def mdnsRecordParseTxt : Nat -> Nat -> List Char -> List TxtRecord
  | capacity + 1, length + 1, sublength :: strdata =>
      let rest := strdata.drop sublength.toNat
      match txtRecord (strdata.take sublength.toNat) rest with
      | some record =>
          record :: mdnsRecordParseTxt capacity (length - sublength.toNat) rest
      | none =>
          mdnsRecordParseTxt (capacity + 1) (length - sublength.toNat) rest
  | _, _, _ => []
  termination_by _ length => length

/-!
## The query
-/

def readTxtField (device : DeviceInfo) (record : TxtRecord) : DeviceInfo :=
  let value := some (appStrndup record.value)
  if strncmpEqual record.keyStr "hub_id" then
    { device with hubId := value }
  else if strncmpEqual record.keyStr "ezm_id" then
    { device with ezmId := value }
  else if strncmpEqual record.keyStr "ezm_version" then
    { device with ezmVersion := value }
  else if strncmpEqual record.keyStr "ezm_name" then
    { device with ezmName := value }
  else if strncmpEqual record.keyStr "mac" then
    { device with mac := value }
  else if strncmpEqual record.keyStr "ip" then
    { device with ip := value }
  else device

/-- The new entry of the list after the records; a role that is refused takes it
off the list, and the records behind are not looked at. -/
def readTxt (device : DeviceInfo) : List TxtRecord -> Option DeviceInfo
  | [] => some device
  | record :: rest =>
      if strncmpEqual record.keyStr "role" then
        if strncmpEqual record.valueStr "standalone" then
          readTxt (readTxtField
            { device with role := some (appStrndup record.value) } record) rest
        else none
      else readTxt (readTxtField device record) rest

/-- A TXT answer adds an entry to the list, unless it is taken off again. -/
def addAnswer (devices : List DeviceInfo) (txtbuffer : List TxtRecord) :
    List DeviceInfo :=
  match readTxt {} txtbuffer with
  | some device => devices ++ [device]
  | none => devices

/-- The answers to a query; of a TXT record, its length and the message from
there on.  The other types are only logged. -/
inductive MdnsAnswer where
  | txt (length : Nat) (data : List Char)
  | other

def nbTxtbuffer : Nat := 128

def queryCallback (devices : List DeviceInfo) : MdnsAnswer -> List DeviceInfo
  | .txt length data =>
      addAnswer devices (mdnsRecordParseTxt nbTxtbuffer length data)
  | .other => devices

/-- NULL when no socket opens. -/
def mdnsQueryDeviceList (numSockets : Int) (answers : List MdnsAnswer) :
    Option (List DeviceInfo) :=
  if numSockets <= 0 then none
  else some (answers.foldl queryCallback [])

/-!
## What the parser yields
-/

section

variable {record : TxtRecord} {strdata behind : List Char}

theorem keyStr_txtRecord (h : txtRecord strdata behind = some record) :
    record.keyStr.toList = strdata ++ behind := by
  unfold txtRecord at h
  split at h
  · rename_i c key value hkey hvalue
    cases h
    rw [← List.takeWhile_append_dropWhile (p := isKeyChar) (l := strdata), hkey,
      hvalue]
    simp [TxtRecord.keyStr, TxtRecord.valueStr]
  · cases h

theorem key_txtRecord (h : txtRecord strdata behind = some record) :
    record.key ≠ "" ∧ '=' ∉ record.key.toList := by
  unfold txtRecord at h
  split at h
  · rename_i c key value hkey hvalue
    cases h
    constructor
    · simp
    · rw [String.toList_ofList, ← hkey]
      intro hmem
      exact absurd (List.mem_takeWhile_imp hmem) (by decide)
  · cases h

/-- The records stand in the message as they are compared. -/
theorem mem_mdnsRecordParseTxt {capacity length : Nat} {data : List Char}
    (h : record ∈ mdnsRecordParseTxt capacity length data) :
    record.key ≠ "" ∧ '=' ∉ record.key.toList ∧
      record.keyStr.toList <:+ data := by
  induction capacity, length, data using mdnsRecordParseTxt.induct with
  | case1 capacity length sublength strdata rest found hfound ih =>
      have hrest : rest <:+ sublength :: strdata :=
        (List.drop_suffix _ _).trans (List.suffix_cons _ _)
      unfold mdnsRecordParseTxt at h
      simp only [rest] at hfound
      simp only [hfound] at h
      cases List.mem_cons.mp h with
      | inl heq =>
          rw [heq]
          have hkey := key_txtRecord hfound
          refine ⟨hkey.1, hkey.2, ?_⟩
          rw [keyStr_txtRecord hfound, List.take_append_drop]
          exact List.suffix_cons _ _
      | inr hlater =>
          rcases ih hlater with ⟨hne, hkey, hsuffix⟩
          exact ⟨hne, hkey, hsuffix.trans hrest⟩
  | case2 capacity length sublength strdata rest hnone ih =>
      have hrest : rest <:+ sublength :: strdata :=
        (List.drop_suffix _ _).trans (List.suffix_cons _ _)
      unfold mdnsRecordParseTxt at h
      simp only [rest] at hnone
      simp only [hnone] at h
      rcases ih h with ⟨hne, hkey, hsuffix⟩
      exact ⟨hne, hkey, hsuffix.trans hrest⟩
  | case3 capacity length data hnot =>
      rw [mdnsRecordParseTxt] at h
      · cases h
      · exact hnot

theorem length_mdnsRecordParseTxt (capacity length : Nat) (data : List Char) :
    (mdnsRecordParseTxt capacity length data).length <= capacity := by
  induction capacity, length, data using mdnsRecordParseTxt.induct with
  | case1 capacity length sublength strdata rest found hfound ih =>
      unfold mdnsRecordParseTxt
      simp only [rest] at hfound
      simp only [hfound]
      exact Nat.succ_le_succ ih
  | case2 capacity length sublength strdata rest hnone ih =>
      unfold mdnsRecordParseTxt
      simp only [rest] at hnone
      simp only [hnone]
      exact ih
  | case3 capacity length data hnot =>
      rw [mdnsRecordParseTxt]
      · exact Nat.zero_le _
      · exact hnot

end

end Mesh
end Noc
