import Noc.Mdns.Reception
import Noc.Mesh.RunMode

/-!
# The service file and its record

`mdns_create_publisher` writes the device into a service file, and the responder
of the device announces the `txt-record` elements of the file as the strings of one
TXT record.  The query of another device makes an entry of that record again.
-/

namespace Noc
namespace Mdns

open Foundation
open Foundation.Wire
open Mesh
open Utils

/-!
## The file
-/

inductive TxtKey where
  | role
  | field (field : TxtField)
  deriving DecidableEq

namespace TxtKey

def text : TxtKey -> String
  | role => "role"
  | .field txtField => txtField.key

def set (device : DeviceInfo) (value : Option String) : TxtKey -> DeviceInfo
  | role => { device with role := value }
  | .field txtField => txtField.set device value

theorem set_comm {key other : TxtKey} (hne : key ≠ other) (device : DeviceInfo)
    (value value' : Option String) :
    other.set (key.set device value) value' = key.set (other.set device value') value := by
  cases key with
  | role =>
      cases other with
      | role => exact absurd rfl hne
      | field second => cases second <;> rfl
  | field first =>
      cases other with
      | role => cases first <;> rfl
      | field second =>
          cases first <;> cases second <;> first
            | rfl
            | exact absurd rfl hne

end TxtKey

/-- The records of the file, in its order. -/
def publishedFields (device : DeviceInfo) : List (TxtKey × Option String) :=
  [(.field .hubId, device.hubId),
   (.field .ezmId, device.ezmId),
   (.field .ezmVersion, device.ezmVersion),
   (.field .ezmName, device.ezmName),
   (.role, device.role),
   (.field .mac, device.mac),
   (.field .ip, device.ip)]

def recordText (entry : TxtKey × Option String) : String :=
  entry.1.text ++ "=" ++ formatted entry.2

def publisherRecords (device : DeviceInfo) : List String :=
  (publishedFields device).map recordText

def serviceHead : String :=
  "<?xml version=\"v1.0.0\" standalone='no'?><!--*-nxml-*-->\n" ++
    "<!DOCTYPE service-group SYSTEM \"avahi-service.dtd\">\n" ++
    "<service-group>\n" ++
    "<name>Ezm Service</name>\n" ++
    "<service>\n" ++
    "<type>_ezm._tcp</type>\n"

def serviceFoot : String :=
  "</service>\n" ++ "</service-group>"

def txtElement (text : String) : String :=
  "<txt-record>" ++ text ++ "</txt-record>\n"

def serviceFile (records : List String) : String :=
  serviceHead ++ (String.join (records.map txtElement) ++ serviceFoot)

theorem publisherText_eq (device : DeviceInfo) :
    publisherText device = serviceFile (publisherRecords device) := by
  have hubId : "<txt-record>hub_id=" = "<txt-record>" ++ ("hub_id" ++ "=") := rfl
  have ezmId : "<txt-record>ezm_id=" = "<txt-record>" ++ ("ezm_id" ++ "=") := rfl
  have ezmVersion : "<txt-record>ezm_version=" =
      "<txt-record>" ++ ("ezm_version" ++ "=") := rfl
  have ezmName : "<txt-record>ezm_name=" = "<txt-record>" ++ ("ezm_name" ++ "=") := rfl
  have role : "<txt-record>role=" = "<txt-record>" ++ ("role" ++ "=") := rfl
  have mac : "<txt-record>mac=" = "<txt-record>" ++ ("mac" ++ "=") := rfl
  have ip : "<txt-record>ip=" = "<txt-record>" ++ ("ip" ++ "=") := rfl
  unfold publisherText serviceFile publisherRecords publishedFields serviceHead serviceFoot
  simp only [List.map_cons, List.map_nil, recordText, txtElement, TxtKey.text,
    TxtField.key, String.join_cons, String.join_nil, hubId, ezmId, ezmVersion, ezmName,
    role, mac, ip, String.append_assoc, String.empty_append]

/-- The text of an element stands for itself and fits a string of a TXT record; a
byte is one character. -/
structure Announceable (text : String) : Prop where
  short : text.toList.length <= 255
  plain : forall c, c ∈ text.toList ->
    0x20 <= c.toNat ∧ c.toNat < 0x100 ∧ c ≠ '<' ∧ c ≠ '&'

theorem append_cons_inj {c : Char} {text other rest rest' : List Char} (h : c ∉ text)
    (h' : c ∉ other) (heq : text ++ c :: rest = other ++ c :: rest') :
    text = other ∧ rest = rest' := by
  induction text generalizing other with
  | nil =>
      cases other with
      | nil => exact ⟨rfl, (List.cons.inj heq).2⟩
      | cons c' other =>
          have hhead : c = c' := (List.cons.inj heq).1
          exact absurd (hhead ▸ List.mem_cons_self) h'
  | cons c' text ih =>
      cases other with
      | nil =>
          have hhead : c' = c := (List.cons.inj heq).1
          exact absurd (hhead ▸ List.mem_cons_self) h
      | cons c'' other =>
          rcases List.cons.inj heq with ⟨rfl, htail⟩
          rcases ih (fun hmem => h (List.mem_cons_of_mem _ hmem))
            (fun hmem => h' (List.mem_cons_of_mem _ hmem)) htail with ⟨rfl, hrest⟩
          exact ⟨rfl, hrest⟩

theorem Announceable.not_mem {text : String} (h : Announceable text) :
    '<' ∉ text.toList := fun hmem => (h.plain _ hmem).2.2.1 rfl

theorem toList_txtElement_append (text : String) (rest : List Char) :
    (txtElement text).toList ++ rest =
      "<txt-record>".toList ++ (text.toList ++ '<' :: ("/txt-record>\n".toList ++ rest)) := by
  simp [txtElement]

/-- The elements can be told from the file. -/
theorem serviceFile_inj {records others : List String}
    (h : forall text, text ∈ records -> Announceable text)
    (h' : forall text, text ∈ others -> Announceable text)
    (heq : serviceFile records = serviceFile others) : records = others := by
  have hbody : (String.join (records.map txtElement)).toList ++ serviceFoot.toList =
      (String.join (others.map txtElement)).toList ++ serviceFoot.toList := by
    have hlist := congrArg String.toList heq
    simp only [serviceFile, String.toList_append] at hlist
    exact List.append_cancel_left hlist
  have hend : forall (text : String) (rest : List Char),
      (txtElement text).toList ++ rest ≠ serviceFoot.toList := by
    intro text rest hfoot
    have hsecond := congrArg (fun chars : List Char => chars[1]?) hfoot
    simp [txtElement, serviceFoot] at hsecond
  clear heq
  induction records generalizing others with
  | nil =>
      cases others with
      | nil => rfl
      | cons text rest =>
          rw [List.map_nil, List.map_cons, String.join_cons, String.toList_append,
            List.append_assoc] at hbody
          exact absurd hbody.symm (hend _ _)
  | cons text rest ih =>
      cases others with
      | nil =>
          rw [List.map_nil, List.map_cons, String.join_cons, String.toList_append,
            List.append_assoc] at hbody
          exact absurd hbody (hend _ _)
      | cons other others =>
          simp only [List.map_cons, String.join_cons, String.toList_append,
            List.append_assoc, toList_txtElement_append] at hbody
          have hcut := append_cons_inj (h text List.mem_cons_self).not_mem
            (h' other List.mem_cons_self).not_mem (List.append_cancel_left hbody)
          have hrest := ih (fun text hmem => h text (List.mem_cons_of_mem _ hmem))
            (fun text hmem => h' text (List.mem_cons_of_mem _ hmem))
            (List.append_cancel_left ((List.append_assoc _ _ _).symm.trans
              (hcut.2.trans (List.append_assoc _ _ _))))
          rw [String.toList_inj.mp hcut.1, hrest]

/-!
## The record
-/

def bytesOf (text : String) : Bytes :=
  text.toList.map fun c => UInt8.ofNat c.toNat

/-- What a responder announces for a service file: nothing without one, and of the
file of a service one TXT record with the texts of its elements, in whatever order. -/
structure Serves (body : Option Body) (txts : List (List Bytes)) : Prop where
  silent : body = none -> txts = []
  service : forall records, (forall text, text ∈ records -> Announceable text) ->
    body = some (.text (serviceFile records)) ->
      exists texts, txts = [texts] ∧ texts.Perm (records.map bytesOf)

theorem serves_serviceFile {records : List String}
    (h : forall text, text ∈ records -> Announceable text) :
    Serves (some (.text (serviceFile records))) [records.map bytesOf] where
  silent := fun hnone => by cases hnone
  service := by
    intro others hothers heq
    have hfile : serviceFile records = serviceFile others :=
      Body.text.inj (Option.some.inj heq)
    exact ⟨_, rfl, serviceFile_inj h hothers hfile ▸ List.Perm.refl _⟩

def recordOf (entry : TxtKey × Option String) : TxtRecord where
  key := entry.1.text
  value := formatted entry.2
  behind := ""

section

variable {text : String} {entry other : TxtKey × Option String} {device : DeviceInfo}

theorem toChars_bytesOf (h : Announceable text) : toChars (bytesOf text) = text.toList := by
  unfold toChars bytesOf
  rw [List.map_map, List.map_congr_left (g := id), List.map_id]
  intro c hmem
  rcases h.plain c hmem with ⟨_, hlt, _⟩
  show Char.ofNat (UInt8.ofNat c.toNat).toNat = c
  rw [UInt8.toNat_ofNat', Nat.mod_eq_of_lt hlt, Char.ofNat_toNat]

theorem isKeyChar_text (key : TxtKey) :
    forall c, c ∈ key.text.toList -> isKeyChar c = true := by
  refine List.all_eq_true.mp ?_
  cases key with
  | role => decide
  | field txtField => cases txtField <;> decide

theorem text_ne_nil (key : TxtKey) : key.text.toList ≠ [] := by
  cases key with
  | role => decide
  | field txtField => cases txtField <;> decide

theorem txtRecord_of_key {key value : List Char} (hne : key ≠ [])
    (hkey : forall c, c ∈ key -> isKeyChar c = true) (behind : List Char) :
    txtRecord (key ++ '=' :: value) behind =
      some
        { key := String.ofList key
          value := String.ofList value
          behind := String.ofList behind } := by
  have hend : isKeyChar '=' = false := by decide
  have htake : (key ++ '=' :: value).takeWhile isKeyChar = key := by
    rw [List.takeWhile_append_of_pos hkey, List.takeWhile_cons_of_neg (by simp [hend]),
      List.append_nil]
  have hdrop : (key ++ '=' :: value).dropWhile isKeyChar = '=' :: value := by
    rw [List.dropWhile_append_of_pos hkey, List.dropWhile_cons_of_neg (by simp [hend])]
  unfold txtRecord
  rw [htake, hdrop]
  cases key with
  | nil => exact absurd rfl hne
  | cons c rest => rfl

theorem txtOf_recordText (h : Announceable (recordText entry)) :
    txtOf (bytesOf (recordText entry)) = some (recordOf entry) := by
  have hsplit : (recordText entry).toList =
      entry.1.text.toList ++ '=' :: (formatted entry.2).toList := by
    unfold recordText
    rw [String.toList_append, String.toList_append, List.append_assoc]
    rfl
  unfold txtOf
  rw [toChars_bytesOf h, hsplit, txtRecord_of_key (text_ne_nil _) (isKeyChar_text _)]
  simp [recordOf]

theorem appStrndup_value (h : Announceable (recordText entry)) :
    appStrndup (formatted entry.2) = formatted entry.2 := by
  have hall : forall c, c ∈ (formatted entry.2).toList -> (c != '\x00') = true := by
    intro c hmem
    have hin : c ∈ (recordText entry).toList := by
      unfold recordText
      rw [String.toList_append]
      exact List.mem_append_right _ hmem
    rcases h.plain c hin with ⟨hprintable, _⟩
    refine bne_iff_ne.mpr ?_
    rintro rfl
    exact absurd hprintable (by decide)
  unfold appStrndup
  rw [List.takeWhile_eq_self_iff.mpr hall, String.ofList_toList]

/-!
## Reading it
-/

/-- What one record adds to the entry. -/
def readRecord (device : DeviceInfo) (record : TxtRecord) : DeviceInfo :=
  readTxtField (withRole device record) record

theorem keyStarts_recordOf (text : String) :
    keyStarts text (recordOf entry) = text.toList.isPrefixOf entry.1.text.toList := rfl

theorem not_role_field (txtField : TxtField) :
    "role".toList.isPrefixOf (TxtKey.field txtField).text.toList = false := by
  cases txtField <;> decide

theorem readRecord_recordOf (device : DeviceInfo) :
    readRecord device (recordOf entry) =
      entry.1.set device (some (appStrndup (formatted entry.2))) := by
  have hcompared : (fun field : TxtField =>
      strncmpEqual (recordOf entry).keyStr field.key) =
        fun field => field.key.toList.isPrefixOf entry.1.text.toList :=
    funext fun field => strncmpEqual_keyStr (key_unbroken field)
  unfold readRecord withRole
  rw [readTxtField_eq, hcompared, keyStarts_recordOf]
  rcases entry with ⟨key, value⟩
  cases key with
  | role =>
      have hfind : (TxtField.all.find? fun field =>
          field.key.toList.isPrefixOf TxtKey.role.text.toList) = none := by decide
      have hstarts : "role".toList.isPrefixOf TxtKey.role.text.toList = true := by decide
      simp only [hfind, hstarts, if_true]
      rfl
  | field txtField =>
      have hfind : (TxtField.all.find? fun field =>
          field.key.toList.isPrefixOf (TxtKey.field txtField).text.toList) =
            some txtField := by
        cases txtField <;> decide
      simp only [hfind, not_role_field, Bool.false_eq_true, if_false]
      rfl

theorem refuses_recordOf (hrole : entry.1 = .role -> entry.2 = some "standalone") :
    refuses (recordOf entry) = false := by
  rcases entry with ⟨key, value⟩
  cases key with
  | role =>
      have hvalue : value = some "standalone" := hrole rfl
      rw [hvalue]
      decide
  | field txtField =>
      unfold refuses
      rw [keyStarts_recordOf, not_role_field, Bool.false_and]

theorem readTxt_eq_foldl {answer : List TxtRecord}
    (h : forall record, record ∈ answer -> refuses record = false) (device : DeviceInfo) :
    readTxt device answer = some (answer.foldl readRecord device) := by
  induction answer generalizing device with
  | nil => rfl
  | cons record rest ih =>
      rw [readTxt_cons, h record List.mem_cons_self, if_neg Bool.false_ne_true]
      exact ih (fun other hmem => h other (List.mem_cons_of_mem _ hmem)) _

/-- Records of different keys can be read in either order. -/
theorem readRecord_comm (hne : entry.1 ≠ other.1) (device : DeviceInfo) :
    readRecord (readRecord device (recordOf entry)) (recordOf other) =
      readRecord (readRecord device (recordOf other)) (recordOf entry) := by
  simp only [readRecord_recordOf]
  exact TxtKey.set_comm hne _ _ _

/-- The entry a query makes of a device. -/
def listedAs (device : DeviceInfo) : DeviceInfo where
  hubId := some (formatted device.hubId)
  ezmId := some (formatted device.ezmId)
  ezmVersion := some (formatted device.ezmVersion)
  ezmName := some (formatted device.ezmName)
  role := some (formatted device.role)
  mac := some (formatted device.mac)
  ip := some (formatted device.ip)

theorem key_inj (hmem : entry ∈ publishedFields device)
    (hother : other ∈ publishedFields device) (hkey : entry.1 = other.1) :
    entry = other := by
  have hnodup : ((publishedFields device).map Prod.fst).Nodup := by
    show ([.field .hubId, .field .ezmId, .field .ezmVersion, .field .ezmName, .role,
      .field .mac, .field .ip] : List TxtKey).Nodup
    decide
  exact List.inj_on_of_nodup_map hnodup hmem hother hkey

theorem role_mem_publishedFields (device : DeviceInfo) :
    (.role, device.role) ∈ publishedFields device := by
  simp [publishedFields]

theorem foldl_publishedFields (h : forall text, text ∈ publisherRecords device ->
      Announceable text) :
    ((publishedFields device).map recordOf).foldl readRecord {} = listedAs device := by
  have hvalue : forall entry, entry ∈ publishedFields device ->
      appStrndup (formatted entry.2) = formatted entry.2 := fun entry hmem =>
    appStrndup_value (h _ (List.mem_map_of_mem hmem))
  have hread : forall (device' : DeviceInfo) entry, entry ∈ publishedFields device ->
      readRecord device' (recordOf entry) =
        entry.1.set device' (some (formatted entry.2)) := by
    intro device' entry hmem
    rw [readRecord_recordOf, hvalue entry hmem]
  rw [List.foldl_map, List.foldl_ext _ _ _ hread]
  rfl

/-- In whatever order the texts are announced, the query makes the same entry. -/
theorem announced_of_perm {texts : List Bytes} (hrole : device.role = some "standalone")
    (h : forall text, text ∈ publisherRecords device -> Announceable text)
    (hperm : texts.Perm ((publisherRecords device).map bytesOf)) :
    announced texts = some (listedAs device) := by
  have hrecords : ((publisherRecords device).map bytesOf).filterMap txtOf =
      (publishedFields device).map recordOf := by
    unfold publisherRecords
    rw [List.map_map, List.filterMap_map, ← List.filterMap_eq_map]
    refine List.filterMap_congr fun entry hmem => ?_
    exact txtOf_recordText (h _ (List.mem_map_of_mem hmem))
  have hread : (texts.filterMap txtOf).Perm ((publishedFields device).map recordOf) :=
    hrecords ▸ hperm.filterMap txtOf
  have hlength : (texts.filterMap txtOf).length <= nbTxtbuffer := by
    rw [hread.length_eq]
    show 7 <= 128
    decide
  have hentries : forall record, record ∈ texts.filterMap txtOf ->
      exists entry, entry ∈ publishedFields device ∧ recordOf entry = record :=
    fun record hmem => List.mem_map.mp (hread.mem_iff.mp hmem)
  unfold announced
  rw [List.take_of_length_le hlength, readTxt_eq_foldl]
  · rw [hread.foldl_eq', foldl_publishedFields h]
    intro record hmem other hother device'
    rcases hentries record hmem with ⟨entry, hentry, rfl⟩
    rcases hentries other hother with ⟨entry', hentry', rfl⟩
    by_cases hkey : entry.1 = entry'.1
    · rw [key_inj hentry hentry' hkey]
    · exact readRecord_comm hkey device'
  · intro record hmem
    rcases hentries record hmem with ⟨entry, hentry, rfl⟩
    refine refuses_recordOf fun hrecord => ?_
    rw [key_inj hentry (role_mem_publishedFields device) hrecord]
    exact hrole

/-- The role of the record is settled. -/
theorem settled_published (hrole : device.role = some "standalone")
    (h : forall text, text ∈ publisherRecords device -> Announceable text)
    {text : Bytes} (hmem : text ∈ (publisherRecords device).map bytesOf)
    {record : TxtRecord} (hrecord : txtOf text = some record)
    (hstarts : keyStarts "role" record = true) : Settled record.value := by
  unfold publisherRecords at hmem
  rw [List.map_map] at hmem
  rcases List.mem_map.mp hmem with ⟨entry, hentry, rfl⟩
  have hread := txtOf_recordText (h _ (List.mem_map_of_mem hentry))
  rw [Function.comp_apply, hread] at hrecord
  cases hrecord
  rcases entry with ⟨key, value⟩
  cases key with
  | role =>
      rw [key_inj hentry (role_mem_publishedFields device) rfl, hrole]
      exact fun _ => rfl
  | field txtField =>
      rw [keyStarts_recordOf, not_role_field] at hstarts
      cases hstarts

end

end Mdns
end Noc
