import Noc.Mesh.AppMdns

/-!
# Standalone devices among the answers

The list for a pairing is to hold the devices that announce themselves as
standalone.  `query_callback` adds an entry for each TXT answer, and takes it
off again when it comes across a role that does not start with `standalone`.
-/

namespace Noc
namespace Mesh

/-!
## What an answer announces
-/

inductive TxtField where
  | hubId
  | ezmId
  | ezmVersion
  | ezmName
  | mac
  | ip
  deriving DecidableEq

namespace TxtField

def key : TxtField -> String
  | hubId => "hub_id"
  | ezmId => "ezm_id"
  | ezmVersion => "ezm_version"
  | ezmName => "ezm_name"
  | mac => "mac"
  | ip => "ip"

def get (device : DeviceInfo) : TxtField -> Option String
  | hubId => device.hubId
  | ezmId => device.ezmId
  | ezmVersion => device.ezmVersion
  | ezmName => device.ezmName
  | mac => device.mac
  | ip => device.ip

def set (device : DeviceInfo) (value : Option String) : TxtField -> DeviceInfo
  | hubId => { device with hubId := value }
  | ezmId => { device with ezmId := value }
  | ezmVersion => { device with ezmVersion := value }
  | ezmName => { device with ezmName := value }
  | mac => { device with mac := value }
  | ip => { device with ip := value }

/-- The fields in the order their keys are compared. -/
def all : List TxtField := [hubId, ezmId, ezmVersion, ezmName, mac, ip]

theorem mem_all (field : TxtField) : field ∈ all := by
  cases field <;> decide

theorem get_set (device : DeviceInfo) (value : Option String)
    (field other : TxtField) :
    get (set device value other) field =
      if field = other then value else get device field := by
  cases field <;> cases other <;> rfl

end TxtField

/-- The answer has a role, and standalone is the only one. -/
def IsStandalone (answer : List TxtRecord) : Prop :=
  (exists record, record ∈ answer ∧ record.key = "role") ∧
    forall record, record ∈ answer -> record.key = "role" ->
      record.value = "standalone"

instance (answer : List TxtRecord) : Decidable (IsStandalone answer) :=
  inferInstanceAs (Decidable (_ ∧ _))

/-- The field is the value of a record with exactly its key, and NULL when there
is none. -/
def TakenFrom (answer : List TxtRecord) (key : String) :
    Option String -> Prop
  | some value => exists record, record ∈ answer ∧ record.key = key ∧
      record.value = value
  | none => forall record, record ∈ answer -> record.key ≠ key

def Announces (answer : List TxtRecord) (device : DeviceInfo) : Prop :=
  forall field : TxtField, TakenFrom answer field.key (field.get device)

/-- The list after the answers. -/
def collected (answers : List (List TxtRecord)) : List DeviceInfo :=
  answers.foldl addAnswer []

/-- One device for each standalone answer, in the order of arrival; the other
answers leave the list as it is. -/
structure CollectsStandalone (answers : List (List TxtRecord)) : Prop where
  listed : List.Forall₂ Announces
    (answers.filter fun answer => IsStandalone answer) (collected answers)
  unchanged : forall before answer after, answers = before ++ answer :: after ->
    ¬ IsStandalone answer -> collected (before ++ [answer]) = collected before

def keyStarts (text : String) (record : TxtRecord) : Bool :=
  text.toList.isPrefixOf record.key.toList

/-- A role that takes the entry off the list. -/
def refuses (record : TxtRecord) : Bool :=
  keyStarts "role" record && !strncmpEqual record.valueStr "standalone"

/-- The last record whose key starts with a text. -/
def lastStarting (text : String) (answer : List TxtRecord) : Option TxtRecord :=
  (answer.filter (keyStarts text)).getLast?

/-- The last record whose key starts with the field's has the value of a record
with exactly that key. -/
def Exact (answer : List TxtRecord) (field : TxtField) : Prop :=
  forall last, lastStarting field.key answer = some last ->
    exists record, record ∈ answer ∧ record.key = field.key ∧
      record.value = appStrndup last.value

/-- No role of a standalone answer refuses it, and its fields are exact; any
other answer is refused. -/
def Clear (answer : List TxtRecord) : Prop :=
  if IsStandalone answer then
    answer.any refuses = false ∧ forall field, Exact answer field
  else answer.any refuses = true

section

variable {record : TxtRecord} {answer rest : List TxtRecord}
variable {answers : List (List TxtRecord)}
variable {device result : DeviceInfo} {field other : TxtField}

/-!
## Keys
-/

/-- The comparison with a text does not get past the `=` behind the key. -/
theorem strncmpEqual_keyStr {text : String} (htext : '=' ∉ text.toList) :
    strncmpEqual record.keyStr text = keyStarts text record := by
  unfold strncmpEqual keyStarts TxtRecord.keyStr
  rw [Bool.eq_iff_iff, List.isPrefixOf_iff_prefix, List.isPrefixOf_iff_prefix,
    String.toList_append, String.toList_append, List.append_assoc]
  constructor
  · intro h
    cases List.prefix_or_prefix_of_prefix h (List.prefix_append _ _) with
    | inl hkey => exact hkey
    | inr htail =>
        rcases htail with ⟨tail, hsplit⟩
        rw [← hsplit, List.prefix_append_right_inj] at h
        cases tail with
        | nil =>
            have hsame : record.key.toList = text.toList :=
              (List.append_nil _).symm.trans hsplit
            exact hsame ▸ List.prefix_refl _
        | cons c tail =>
            have hc : c = '=' := (List.cons_prefix_cons.mp h).1
            rw [← hsplit, hc] at htext
            exact absurd (List.mem_append_right _ List.mem_cons_self) htext
  · intro h
    exact h.trans (List.prefix_append _ _)

/-- A key starts with the key of one field at most. -/
theorem field_unique (h : keyStarts field.key record = true)
    (hother : keyStarts other.key record = true) : field = other := by
  unfold keyStarts at h hother
  rw [List.isPrefixOf_iff_prefix] at h hother
  have hprefix := List.prefix_or_prefix_of_prefix h hother
  revert hprefix
  cases field <;> cases other <;> decide +kernel

theorem key_unbroken (field : TxtField) : '=' ∉ field.key.toList := by
  cases field <;> decide +kernel

/-- The chain of comparisons ends at the first field the key starts with. -/
theorem readTxtField_eq (device : DeviceInfo) (record : TxtRecord) :
    readTxtField device record =
      match TxtField.all.find?
          (fun field => strncmpEqual record.keyStr field.key) with
      | some field => field.set device (some (appStrndup record.value))
      | none => device := by
  unfold readTxtField TxtField.all
  simp only [List.find?_cons, List.find?_nil, TxtField.key]
  cases strncmpEqual record.keyStr "hub_id"
  case true => rfl
  cases strncmpEqual record.keyStr "ezm_id"
  case true => rfl
  cases strncmpEqual record.keyStr "ezm_version"
  case true => rfl
  cases strncmpEqual record.keyStr "ezm_name"
  case true => rfl
  cases strncmpEqual record.keyStr "mac"
  case true => rfl
  cases strncmpEqual record.keyStr "ip" <;> rfl

theorem get_readTxtField (device : DeviceInfo) (record : TxtRecord)
    (field : TxtField) :
    field.get (readTxtField device record) =
      if keyStarts field.key record then some (appStrndup record.value)
      else field.get device := by
  have hcompared : (fun field : TxtField => strncmpEqual record.keyStr field.key) =
      fun field => keyStarts field.key record :=
    funext fun field => strncmpEqual_keyStr (key_unbroken field)
  rw [readTxtField_eq, hcompared]
  cases hfind : TxtField.all.find? fun field => keyStarts field.key record with
  | none =>
      have hnot := List.find?_eq_none.mp hfind field field.mem_all
      rw [if_neg hnot]
  | some found =>
      have hfound : keyStarts found.key record = true :=
        List.find?_some
          (p := fun field : TxtField => keyStarts field.key record) hfind
      show field.get (found.set device (some (appStrndup record.value))) = _
      rw [TxtField.get_set]
      by_cases hsame : field = found
      · rw [if_pos hsame, if_pos (by rw [hsame]; exact hfound)]
      · rw [if_neg hsame, if_neg fun hstarts => hsame (field_unique hstarts hfound)]

/-!
## One answer
-/

/-- The entry with the role of a record that has one. -/
def withRole (device : DeviceInfo) (record : TxtRecord) : DeviceInfo :=
  if keyStarts "role" record then
    { device with role := some (appStrndup record.value) }
  else device

theorem get_withRole (device : DeviceInfo) (record : TxtRecord)
    (field : TxtField) :
    field.get (withRole device record) = field.get device := by
  unfold withRole
  cases keyStarts "role" record with
  | false => rfl
  | true => cases field <;> rfl

theorem readTxt_cons (device : DeviceInfo) (record : TxtRecord)
    (rest : List TxtRecord) :
    readTxt device (record :: rest) =
      if refuses record then none
      else readTxt (readTxtField (withRole device record) record) rest := by
  have hrole : strncmpEqual record.keyStr "role" = keyStarts "role" record :=
    strncmpEqual_keyStr (by decide +kernel)
  unfold refuses withRole
  rw [readTxt, hrole]
  cases keyStarts "role" record with
  | false => rfl
  | true => cases strncmpEqual record.valueStr "standalone" <;> rfl

theorem readTxt_eq_none_iff (device : DeviceInfo) :
    readTxt device answer = none <-> answer.any refuses = true := by
  induction answer generalizing device with
  | nil =>
      exact iff_of_false (Option.some_ne_none device) Bool.false_ne_true
  | cons record rest ih =>
      rw [readTxt_cons, List.any_cons]
      cases refuses record with
      | true => exact iff_of_true rfl rfl
      | false =>
          rw [if_neg Bool.false_ne_true, Bool.false_or]
          exact ih _

theorem lastStarting_cons (text : String) (record : TxtRecord)
    (rest : List TxtRecord) :
    lastStarting text (record :: rest) =
      (lastStarting text rest).or
        (if keyStarts text record then some record else none) := by
  unfold lastStarting
  cases hstarts : keyStarts text record with
  | false =>
      rw [List.filter_cons_of_neg (by rw [hstarts]; exact Bool.false_ne_true),
        if_neg Bool.false_ne_true, Option.or_none]
  | true =>
      rw [List.filter_cons_of_pos hstarts, List.getLast?_cons, if_pos rfl]
      cases (rest.filter (keyStarts text)).getLast? <;> rfl

/-- A field comes from the last record whose key starts with its own. -/
theorem get_readTxt (h : readTxt device answer = some result)
    (field : TxtField) :
    field.get result =
      ((lastStarting field.key answer).map fun last =>
        appStrndup last.value).or (field.get device) := by
  induction answer generalizing device with
  | nil =>
      cases h
      rfl
  | cons record rest ih =>
      rw [readTxt_cons] at h
      split at h
      · cases h
      · rw [ih h, get_readTxtField, get_withRole, lastStarting_cons]
        cases lastStarting field.key rest with
        | some last => rfl
        | none => cases keyStarts field.key record <;> rfl

theorem keyStarts_self (hkey : record.key = field.key) :
    keyStarts field.key record = true := by
  unfold keyStarts
  rw [hkey]
  exact List.isPrefixOf_iff_prefix.mpr (List.prefix_refl _)

theorem lastStarting_eq_none_iff {text : String} :
    lastStarting text answer = none <->
      forall record, record ∈ answer -> keyStarts text record = false := by
  unfold lastStarting
  rw [List.getLast?_eq_none_iff, List.filter_eq_nil_iff]
  simp only [Bool.not_eq_true]

theorem takenFrom_iff (h : readTxt {} answer = some result) (field : TxtField) :
    TakenFrom answer field.key (field.get result) <-> Exact answer field := by
  have hget := get_readTxt h field
  have hnull : field.get {} = none := by
    cases field <;> rfl
  rw [hnull, Option.or_none] at hget
  unfold Exact
  rw [hget]
  cases hlast : lastStarting field.key answer with
  | none =>
      apply iff_of_true
      · intro record hrecord hkey
        have hnot := lastStarting_eq_none_iff.mp hlast record hrecord
        rw [keyStarts_self hkey] at hnot
        cases hnot
      · intro last hsome
        cases hsome
  | some last =>
      constructor
      · intro htaken other hother
        cases hother
        exact htaken
      · intro hexact
        exact hexact last rfl

/-- An answer adds a device it announces exactly when it is clear. -/
theorem exists_announces_iff :
    (exists device, readTxt {} answer = some device ∧ Announces answer device) <->
      answer.any refuses = false ∧ forall field, Exact answer field := by
  rw [← Bool.not_eq_true, ← readTxt_eq_none_iff {},
    ← Ne, Option.ne_none_iff_exists']
  constructor
  · intro h
    rcases h with ⟨device, hread, hannounces⟩
    exact ⟨⟨device, hread⟩, fun field =>
      (takenFrom_iff hread field).mp (hannounces field)⟩
  · intro h
    rcases h.1 with ⟨device, hread⟩
    exact ⟨device, hread, fun field =>
      (takenFrom_iff hread field).mpr (h.2 field)⟩

/-!
## All answers
-/

section

variable {α β : Type} {f : α -> Option β} {values : List α}

/-- A list goes together with what it is mapped to, value by value, when every
value is mapped to one. -/
theorem forall₂_filterMap_iff {rel : α -> β -> Prop} :
    List.Forall₂ rel values (values.filterMap f) <->
      forall value, value ∈ values -> exists image, f value = some image ∧
        rel value image := by
  induction values with
  | nil => exact iff_of_true List.Forall₂.nil fun value hvalue => by cases hvalue
  | cons value rest ih =>
      rw [List.forall_mem_cons, ← ih]
      cases himage : f value with
      | none =>
          rw [List.filterMap_cons_none himage]
          apply iff_of_false
          · intro h
            have hlength := h.length_eq
            have hle := List.length_filterMap_le f rest
            rw [List.length_cons] at hlength
            omega
          · intro h
            rcases h.1 with ⟨image, heq, _⟩
            cases heq
      | some image =>
          rw [List.filterMap_cons_some himage, List.forall₂_cons]
          simp only [Option.some_inj, exists_eq_left']

theorem filterMap_filter_of_none {p : α -> Bool}
    (h : forall value, value ∈ values -> p value = false -> f value = none) :
    (values.filter p).filterMap f = values.filterMap f := by
  induction values with
  | nil => rfl
  | cons value rest ih =>
      have hrest := ih fun other hother => h other (List.mem_cons_of_mem value hother)
      cases hvalue : p value with
      | true =>
          rw [List.filter_cons_of_pos hvalue, List.filterMap_cons,
            List.filterMap_cons, hrest]
      | false =>
          rw [List.filter_cons_of_neg (by rw [hvalue]; exact Bool.false_ne_true),
            List.filterMap_cons_none (h value List.mem_cons_self hvalue), hrest]

end

theorem addAnswer_eq (devices : List DeviceInfo) (answer : List TxtRecord) :
    addAnswer devices answer = devices ++ (readTxt {} answer).toList := by
  unfold addAnswer
  cases readTxt {} answer with
  | none => exact (List.append_nil devices).symm
  | some device => rfl

theorem foldl_addAnswer (devices : List DeviceInfo) :
    answers.foldl addAnswer devices =
      devices ++ answers.filterMap (readTxt {}) := by
  induction answers generalizing devices with
  | nil => exact (List.append_nil devices).symm
  | cons answer rest ih =>
      rw [List.foldl_cons, ih, addAnswer_eq, List.append_assoc,
        List.filterMap_cons]
      cases readTxt {} answer <;> rfl

theorem collected_eq (answers : List (List TxtRecord)) :
    collected answers = answers.filterMap (readTxt {}) :=
  foldl_addAnswer []

theorem collected_snoc_eq_iff (before : List (List TxtRecord)) :
    collected (before ++ [answer]) = collected before <->
      answer.any refuses = true := by
  rw [collected_eq, collected_eq, List.filterMap_append, List.append_right_eq_self,
    ← readTxt_eq_none_iff {}]
  cases hread : readTxt {} answer with
  | none => exact iff_of_true (List.filterMap_cons_none hread) rfl
  | some device =>
      rw [List.filterMap_cons_some hread]
      exact iff_of_false (List.cons_ne_nil _ _) (Option.some_ne_none device)

/-- The answers that are not standalone are all refused. -/
theorem unchanged_iff :
    (forall before answer after, answers = before ++ answer :: after ->
      ¬ IsStandalone answer ->
        collected (before ++ [answer]) = collected before) <->
    forall answer, answer ∈ answers -> ¬ IsStandalone answer ->
      answer.any refuses = true := by
  constructor
  · intro h answer hanswer hother
    rcases List.append_of_mem hanswer with ⟨before, after, hsplit⟩
    exact (collected_snoc_eq_iff before).mp (h before answer after hsplit hother)
  · intro h before answer after hsplit hother
    have hanswer : answer ∈ answers := by
      rw [hsplit]
      exact List.mem_append_right before List.mem_cons_self
    exact (collected_snoc_eq_iff before).mpr (h answer hanswer hother)

/-- The list holds one device for each standalone answer, and the others leave
it alone, exactly when every answer is clear. -/
theorem collectsStandalone_iff (answers : List (List TxtRecord)) :
    CollectsStandalone answers <->
      forall answer, answer ∈ answers -> Clear answer := by
  have hlisted : (forall answer, answer ∈ answers -> ¬ IsStandalone answer ->
      answer.any refuses = true) ->
      (List.Forall₂ Announces (answers.filter fun answer => IsStandalone answer)
        (collected answers) <->
      forall answer, answer ∈ answers -> IsStandalone answer ->
        answer.any refuses = false ∧ forall field, Exact answer field) := by
    intro hothers
    have hnone : forall answer, answer ∈ answers ->
        decide (IsStandalone answer) = false -> readTxt {} answer = none := by
      intro answer hanswer hother
      exact (readTxt_eq_none_iff {}).mpr
        (hothers answer hanswer (of_decide_eq_false hother))
    rw [collected_eq, ← filterMap_filter_of_none hnone, forall₂_filterMap_iff]
    simp only [List.mem_filter, decide_eq_true_eq, exists_announces_iff, and_imp]
  constructor
  · intro h answer hanswer
    have hothers := unchanged_iff.mp h.unchanged
    unfold Clear
    by_cases hstandalone : IsStandalone answer
    · rw [if_pos hstandalone]
      exact (hlisted hothers).mp h.listed answer hanswer hstandalone
    · rw [if_neg hstandalone]
      exact hothers answer hanswer hstandalone
  · intro h
    have hothers : forall answer, answer ∈ answers -> ¬ IsStandalone answer ->
        answer.any refuses = true := by
      intro answer hanswer hother
      have hclear := h answer hanswer
      unfold Clear at hclear
      rw [if_neg hother] at hclear
      exact hclear
    constructor
    · apply (hlisted hothers).mpr
      intro answer hanswer hstandalone
      have hclear := h answer hanswer
      unfold Clear at hclear
      rw [if_pos hstandalone] at hclear
      exact hclear
    · exact unchanged_iff.mpr hothers

/-- The parsed TXT answers of a query. -/
def txtAnswers (received : List MdnsAnswer) : List (List TxtRecord) :=
  received.filterMap fun
    | .txt length data => some (mdnsRecordParseTxt nbTxtbuffer length data)
    | .other => none

theorem mdnsQueryDeviceList_eq {numSockets : Int} (hsockets : 0 < numSockets)
    (received : List MdnsAnswer) :
    mdnsQueryDeviceList numSockets received =
      some (collected (txtAnswers received)) := by
  have hfold : forall devices, received.foldl queryCallback devices =
      (txtAnswers received).foldl addAnswer devices := by
    unfold txtAnswers
    induction received with
    | nil => exact fun _ => rfl
    | cons answer rest ih =>
        intro devices
        cases answer with
        | txt length data => exact ih _
        | other => exact ih devices
  unfold mdnsQueryDeviceList collected
  rw [if_neg (by omega), hfold]

end

/-!
## An answer without a role
-/

def roleless : List TxtRecord :=
  [{ key := "ezm_id", value := "ezm_9", behind := "" }]

/-- It is listed. -/
theorem not_collectsStandalone_of_roleless :
    ¬ CollectsStandalone [roleless] := by
  intro h
  have hother : ¬ IsStandalone roleless := by decide +kernel
  have hrefused := (collected_snoc_eq_iff []).mp
    (h.unchanged [] roleless [] rfl hother)
  exact absurd hrefused (by decide +kernel)

end Mesh
end Noc
