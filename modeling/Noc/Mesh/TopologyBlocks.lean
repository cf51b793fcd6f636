import Mathlib.Data.List.TakeWhile
import Noc.Mesh.TopologyHandler

/-!
# A topology of whole blocks

What the mesh daemon prints is one block for each device.  The pointer of
`topology_handler` then stops at the end of each block's last line, and every
device is read from its own block.
-/

namespace Noc
namespace Mesh

open Foundation

/-!
## Radio lines
-/

def firstDigitRun (text : List Char) : List Char :=
  (text.dropWhile fun c => !isDigit c).takeWhile isDigit

/-- The rest of a radio line; some digits in it end within the line. -/
structure RadioLine where
  text : List Char
  inLine : '\n' ∉ text
  short : text.length < 65536
  digits : exists d c, isDigit d = true ∧ isDigit c = false ∧ [d, c] <:+: text

section

variable {text front run rest back : List Char} {d c : Char}

/-- The first digits of a line, when some digits of it end within it. -/
theorem exists_run (hd : isDigit d = true) (hc : isDigit c = false)
    (hoccurs : [d, c] <:+: text) :
    exists front first run last back,
      text = front ++ first :: (run ++ last :: back) ∧
      (forall x, x ∈ front -> isDigit x = false) ∧ isDigit first = true ∧
      (forall x, x ∈ run -> isDigit x = true) ∧ isDigit last = false := by
  induction text with
  | nil => simp at hoccurs
  | cons x rest ih =>
      cases hx : isDigit x with
      | false =>
          have hlater : [d, c] <:+: rest := by
            cases List.infix_cons_iff.mp hoccurs with
            | inl hstarts =>
                rw [List.cons_prefix_cons] at hstarts
                rw [← hstarts.1, hd] at hx
                cases hx
            | inr hlater => exact hlater
          rcases ih hlater with ⟨front, first, run, last, back, rfl, hfront, hrest⟩
          refine ⟨x :: front, first, run, last, back, rfl, ?_, hrest⟩
          intro y hy
          cases List.mem_cons.mp hy with
          | inl heq =>
              rw [heq]
              exact hx
          | inr hmem => exact hfront y hmem
      | true =>
          have hsplit := List.takeWhile_append_dropWhile (p := isDigit) (l := rest)
          cases htail : rest.dropWhile isDigit with
          | nil =>
              -- Then the line is all digits.
              have hcMem : c ∈ x :: rest := hoccurs.subset (by simp)
              rw [List.dropWhile_eq_nil_iff] at htail
              cases List.mem_cons.mp hcMem with
              | inl heq =>
                  rw [heq, hx] at hc
                  cases hc
              | inr hmem =>
                  rw [htail c hmem] at hc
                  cases hc
          | cons last back =>
              have hlast : isDigit last = false := by
                have hhead := List.head?_dropWhile_not isDigit rest
                rw [htail] at hhead
                simpa using hhead
              rw [htail] at hsplit
              refine ⟨[], x, rest.takeWhile isDigit, last, back, ?_, ?_, hx, ?_, hlast⟩
              · rw [hsplit]
                rfl
              · intro y hy
                cases hy
              · intro y hy
                exact List.mem_takeWhile_imp hy

theorem firstDigitRun_of_split (hfront : forall x, x ∈ front -> isDigit x = false)
    (hd : isDigit d = true) (hrun : forall x, x ∈ run -> isDigit x = true)
    (hc : isDigit c = false) :
    firstDigitRun (front ++ d :: (run ++ c :: back)) = d :: run := by
  have hskip : forall x, x ∈ front -> (!isDigit x) = true := by
    intro x hx
    rw [hfront x hx]
    rfl
  unfold firstDigitRun
  rw [List.dropWhile_append_of_pos hskip, List.dropWhile_cons_of_neg (by simp [hd]),
    List.takeWhile_cons_of_pos hd, List.takeWhile_append_of_pos hrun,
    List.takeWhile_cons_of_neg (by simp [hc]), List.append_nil]

theorem recordDigits_skip (hfront : forall x, x ∈ front -> isDigit x = false)
    (dataIndex : Nat) (startIndex : UInt16) (rest : List Char) :
    recordDigits false dataIndex startIndex (front ++ rest) =
      recordDigits false (dataIndex + front.length) startIndex rest := by
  induction front generalizing dataIndex with
  | nil => rfl
  | cons x front ih =>
      have hlater := ih (fun y hy => hfront y (List.mem_cons_of_mem x hy))
        (dataIndex + 1)
      rw [List.cons_append, recordDigits, if_neg Bool.false_ne_true,
        hfront x List.mem_cons_self, if_neg Bool.false_ne_true, hlater,
        List.length_cons, Nat.add_assoc, Nat.add_comm 1]

theorem recordDigits_record (hrun : forall x, x ∈ run -> isDigit x = true)
    (dataIndex : Nat) (startIndex : UInt16) (rest : List Char) :
    recordDigits true dataIndex startIndex (run ++ rest) =
      recordDigits true (dataIndex + run.length) startIndex rest := by
  induction run generalizing dataIndex with
  | nil => rfl
  | cons x run ih =>
      have hlater := ih (fun y hy => hrun y (List.mem_cons_of_mem x hy))
        (dataIndex + 1)
      rw [List.cons_append, recordDigits, if_pos rfl, hrun x List.mem_cons_self,
        if_pos rfl, hlater, List.length_cons, Nat.add_assoc, Nat.add_comm 1]

theorem recordDigits_of_split (hfront : forall x, x ∈ front -> isDigit x = false)
    (hd : isDigit d = true) (hrun : forall x, x ∈ run -> isDigit x = true)
    (hc : isDigit c = false) :
    recordDigits false 0 0 (front ++ d :: (run ++ c :: back)) =
      (false, UInt16.ofNat front.length,
        UInt16.ofNat (front.length + (d :: run).length)) := by
  rw [recordDigits_skip hfront, recordDigits, if_neg Bool.false_ne_true, hd,
    if_pos rfl, recordDigits_record hrun, recordDigits, if_pos rfl, hc,
    if_neg Bool.false_ne_true, Nat.zero_add, List.length_cons]
  congr 3
  omega

theorem channelSelection_ofNat {start stop : Nat} (hle : start <= stop)
    (hshort : stop < 65536) (line : List Char) :
    channelSelection line (UInt16.ofNat start) (UInt16.ofNat stop) =
      some (String.ofList ((line.drop start).take (stop - start))) := by
  have hstop : (UInt16.ofNat stop).toNat = stop := UInt16.toNat_ofNat_of_lt' hshort
  have hstart : (UInt16.ofNat start).toNat = start :=
    UInt16.toNat_ofNat_of_lt' (Nat.lt_of_le_of_lt hle hshort)
  have hnot : ¬ UInt16.ofNat stop < UInt16.ofNat start := by
    rw [UInt16.lt_iff_toNat_lt, hstop, hstart]
    omega
  unfold channelSelection
  rw [if_neg hnot, hstop, hstart]

end

/-- The scan of a radio line: the flag is left as it was, and what is stored are
the first digits. -/
theorem RadioLine.scan (line : RadioLine) :
    exists startIndex stopIndex,
      recordDigits false 0 0 line.text = (false, startIndex, stopIndex) ∧
      channelSelection line.text startIndex stopIndex =
        some (String.ofList (firstDigitRun line.text)) := by
  rcases line.digits with ⟨d, c, hd, hc, hoccurs⟩
  rcases exists_run hd hc hoccurs with
    ⟨front, first, run, last, back, htext, hfront, hfirst, hrun, hlast⟩
  have hshort := line.short
  rw [htext] at hshort ⊢
  simp only [List.length_append, List.length_cons] at hshort
  refine ⟨_, _, recordDigits_of_split hfront hfirst hrun hlast, ?_⟩
  rw [channelSelection_ofNat (Nat.le_add_right _ _) (by rw [List.length_cons]; omega),
    firstDigitRun_of_split hfront hfirst hrun hlast, Nat.add_sub_cancel_left,
    List.drop_left, ← List.cons_append, List.take_left]

/-!
## One field
-/

/-- A field in the text: something may come between its pattern and its start. -/
def Pattern.print (entry : Pattern) (gap text : List Char) : List Char :=
  entry.pattern ++ (gap ++ (entry.start ++ (text ++ entry.stop)))

/-- A field is found where it was put. -/
theorem readField_of_print {entry : Pattern} {before gap text : List Char}
    {s s' : HandlerState} (hentry : entry ∈ devicePatternEntry)
    (hbefore : ¬ entry.pattern <:+: before) (hgap : ¬ entry.start <:+: gap)
    (htext : ¬ entry.stop <:+: text)
    (hstore : (if entry.field = .mac then s.addDevice else s).store entry.field text =
      some s') (behind : List Char) :
    readField entry s (before ++ (entry.print gap text ++ behind)) =
      .reached s' (entry.stop ++ behind) := by
  rcases markers_of_mem hentry with ⟨hpattern, hstart, hstop⟩
  unfold readField Pattern.print
  simp only [List.append_assoc]
  rw [cut_of_marker hpattern hbefore]
  dsimp only
  rw [cut_of_marker hstart hgap]
  dsimp only
  rw [cut_of_marker hstop htext]
  dsimp only
  rw [hstore]

/-- None of the five patterns occurs in the text. -/
def Unmarked (text : List Char) : Prop :=
  forall entry, entry ∈ devicePatternEntry -> ¬ entry.pattern <:+: text

/-- What is between the parts of a block. -/
structure Filler where
  text : List Char
  unmarked : Unmarked text

instance (text : List Char) : Decidable (Unmarked text) :=
  inferInstanceAs (Decidable (forall entry, entry ∈ devicePatternEntry ->
    ¬ entry.pattern <:+: text))

/-- The stop a field ends with begins no pattern. -/
theorem Filler.not_infix_stop_append (filler : Filler) {entry other : Pattern}
    (hentry : entry ∈ devicePatternEntry) (hother : other ∈ devicePatternEntry) :
    ¬ entry.pattern <:+: other.stop ++ filler.text := by
  rcases no_pattern_at_stop hother with ⟨c, hstop, hnone⟩
  rw [hstop, List.singleton_append, List.infix_cons_iff, not_or]
  exact ⟨hnone entry hentry filler.text, filler.unmarked entry hentry⟩

/-!
## Blocks
-/

/-- What is printed of one device. -/
structure Block where
  lead : Filler
  mac : List Char
  macEnd : Filler
  ip : List Char
  ipEnd : Filler
  parent : List Char
  parentEnd : Filler
  radios : Filler
  line5g : RadioLine
  lineEnd : Filler
  label2g : List Char
  line2g : RadioLine
  mac_comma : ',' ∉ mac
  ip_space : ' ' ∉ ip
  parent_newline : '\n' ∉ parent
  label_space : ' ' ∉ label2g

namespace Block

def text (block : Block) : List Char :=
  block.lead.text ++ macEntry.print [] block.mac ++
    block.macEnd.text ++ ipEntry.print [] block.ip ++
    block.ipEnd.text ++ parentMacEntry.print [] block.parent ++
    block.parentEnd.text ++
      channelSelection5gEntry.print block.radios.text block.line5g.text ++
    block.lineEnd.text ++
      channelSelection2gEntry.print block.label2g block.line2g.text

def device (block : Block) (role : String) : DeviceInfo where
  role := some role
  mac := some (upcaseToLowcase block.mac)
  ip := some (String.ofList block.ip)
  parentMac := some (upcaseToLowcase block.parent)
  channelSelection5g := some (String.ofList (firstDigitRun block.line5g.text))
  channelSelection2g := some (String.ofList (firstDigitRun block.line2g.text))

end Block

/-!
## One block
-/

/-- The state where a device is the last one and neither scan is open. -/
def HandlerState.ending (devices : List DeviceInfo) (device : DeviceInfo) :
    HandlerState :=
  ⟨devices ++ [device], devices.length + 1, false, false⟩

section

variable {devices : List DeviceInfo} {device : DeviceInfo}

theorem HandlerState.setLast_ending (change : DeviceInfo -> DeviceInfo) :
    (HandlerState.ending devices device).setLast change =
      HandlerState.ending devices (change device) := by
  simp [HandlerState.setLast, HandlerState.ending, List.modifyLast_concat]

/-- A mac is stored in the device that was made for it. -/
theorem store_mac (text : List Char) :
    (HandlerState.addDevice ⟨devices, devices.length, false, false⟩).store .mac text =
      some (HandlerState.ending devices
        { role := some (if devices.length = 0 then "controller" else "agent")
          mac := some (upcaseToLowcase text) }) :=
  congrArg some (HandlerState.setLast_ending _)

theorem store_ip (text : List Char) :
    (HandlerState.ending devices device).store .ip text =
      some (HandlerState.ending devices
        { device with ip := some (String.ofList text) }) :=
  congrArg some (HandlerState.setLast_ending _)

theorem store_parentMac (text : List Char) :
    (HandlerState.ending devices device).store .parentMac text =
      some (HandlerState.ending devices
        { device with parentMac := some (upcaseToLowcase text) }) :=
  congrArg some (HandlerState.setLast_ending _)

theorem store_channelSelection5g (line : RadioLine) :
    (HandlerState.ending devices device).store .channelSelection5g line.text =
      some (HandlerState.ending devices
        { device with
          channelSelection5g := some (String.ofList (firstDigitRun line.text)) }) := by
  rcases line.scan with ⟨startIndex, stopIndex, hscan, hchannel⟩
  have hscan' : recordDigits (HandlerState.ending devices device).startRecord5g 0 0
      line.text = (false, startIndex, stopIndex) := hscan
  unfold HandlerState.store
  dsimp only
  rw [hscan']
  dsimp only
  rw [hchannel, Option.map_some, HandlerState.setLast_ending]
  rfl

theorem store_channelSelection2g (line : RadioLine) :
    (HandlerState.ending devices device).store .channelSelection2g line.text =
      some (HandlerState.ending devices
        { device with
          channelSelection2g := some (String.ofList (firstDigitRun line.text)) }) := by
  rcases line.scan with ⟨startIndex, stopIndex, hscan, hchannel⟩
  have hscan' : recordDigits (HandlerState.ending devices device).startRecord2g 0 0
      line.text = (false, startIndex, stopIndex) := hscan
  unfold HandlerState.store
  dsimp only
  rw [hscan']
  dsimp only
  rw [hchannel, Option.map_some, HandlerState.setLast_ending]
  rfl

theorem readFields_cons_of_reached {entry : Pattern} {entries : List Pattern}
    {s s' : HandlerState} {checkPointer rest : List Char}
    (h : readField entry s checkPointer = .reached s' rest) :
    readFields (entry :: entries) s checkPointer = readFields entries s' rest := by
  rw [readFields, h]

theorem not_infix_singleton {c : Char} {text : List Char} (h : c ∉ text) :
    ¬ [c] <:+: text := by
  rw [List.singleton_infix_iff]
  exact h

/-- The mac makes a device. -/
theorem readField_mac {before mac : List Char} (hbefore : ¬ devicePattern <:+: before)
    (hmac : ',' ∉ mac) (behind : List Char) :
    readField macEntry ⟨devices, devices.length, false, false⟩
        (before ++ (macEntry.print [] mac ++ behind)) =
      .reached (HandlerState.ending devices
          { role := some (if devices.length = 0 then "controller" else "agent")
            mac := some (upcaseToLowcase mac) })
        (macEntry.stop ++ behind) := by
  have hentry : macEntry ∈ devicePatternEntry := by simp [devicePatternEntry]
  have hempty : ¬ [' '] <:+: ([] : List Char) := by decide
  apply readField_of_print hentry hbefore hempty (not_infix_singleton hmac)
  have hfield : macEntry.field = .mac := rfl
  rw [if_pos hfield]
  exact store_mac mac

/-- The fields behind the mac, each from the stop of the one before it. -/
theorem readField_behind {entry other : Pattern} {gap text : List Char}
    {device' : DeviceInfo} (hentry : entry ∈ devicePatternEntry)
    (hother : other ∈ devicePatternEntry) (hfield : entry.field ≠ .mac)
    (hgap : ¬ entry.start <:+: gap) (htext : ¬ entry.stop <:+: text)
    (hstore : (HandlerState.ending devices device).store entry.field text =
      some (HandlerState.ending devices device')) (filler : Filler)
    (behind : List Char) :
    readField entry (HandlerState.ending devices device)
        (other.stop ++ (filler.text ++ (entry.print gap text ++ behind))) =
      .reached (HandlerState.ending devices device') (entry.stop ++ behind) := by
  rw [← List.append_assoc]
  apply readField_of_print hentry (filler.not_infix_stop_append hentry hother) hgap
    htext
  rw [if_neg hfield]
  exact hstore

/-- One round reads one block, from wherever the pointer was left before it. -/
theorem readFields_block (devices : List DeviceInfo) {before : List Char}
    {block : Block} (hbefore : ¬ devicePattern <:+: before ++ block.lead.text) (later : List Char) :
    readFields devicePatternEntry ⟨devices, devices.length, false, false⟩
        (before ++ (block.text ++ later)) =
      .reached (HandlerState.ending devices
          (block.device (if devices.length = 0 then "controller" else "agent")))
        ('\n' :: later) := by
  have hempty : ¬ [' '] <:+: ([] : List Char) := by decide
  have hmacMem : macEntry ∈ devicePatternEntry := by simp [devicePatternEntry]
  have hipMem : ipEntry ∈ devicePatternEntry := by simp [devicePatternEntry]
  have hparentMem : parentMacEntry ∈ devicePatternEntry := by
    simp [devicePatternEntry]
  have h5gMem : channelSelection5gEntry ∈ devicePatternEntry := by
    simp [devicePatternEntry]
  have h2gMem : channelSelection2gEntry ∈ devicePatternEntry := by
    simp [devicePatternEntry]
  have htext : before ++ (block.text ++ later) =
      (before ++ block.lead.text) ++ (macEntry.print [] block.mac ++
        (block.macEnd.text ++ (ipEntry.print [] block.ip ++
        (block.ipEnd.text ++ (parentMacEntry.print [] block.parent ++
        (block.parentEnd.text ++
          (channelSelection5gEntry.print block.radios.text block.line5g.text ++
        (block.lineEnd.text ++
          (channelSelection2gEntry.print block.label2g block.line2g.text ++
            later))))))))) := by
    simp only [Block.text, List.append_assoc]
  rw [htext, devicePatternEntry]
  rw [readFields_cons_of_reached (readField_mac hbefore block.mac_comma _),
    readFields_cons_of_reached (readField_behind hipMem hmacMem (by decide) hempty
      (not_infix_singleton block.ip_space) (store_ip block.ip) block.macEnd _),
    readFields_cons_of_reached (readField_behind hparentMem hipMem (by decide) hempty
      (not_infix_singleton block.parent_newline) (store_parentMac block.parent)
      block.ipEnd _),
    readFields_cons_of_reached (readField_behind h5gMem hparentMem (by decide)
      (block.radios.unmarked _ h2gMem) (not_infix_singleton block.line5g.inLine)
      (store_channelSelection5g block.line5g) block.parentEnd _),
    readFields_cons_of_reached (readField_behind h2gMem h5gMem (by decide)
      (not_infix_singleton block.label_space)
      (not_infix_singleton block.line2g.inLine)
      (store_channelSelection2g block.line2g) block.lineEnd _)]
  rfl

end

/-!
## All blocks
-/

theorem readFields_of_unmarked {text : List Char} (h : ¬ devicePattern <:+: text)
    (s : HandlerState) : readFields devicePatternEntry s text = .returned s := by
  have hcut : cut macEntry.pattern text = none := cut_eq_none_iff.mpr h
  unfold devicePatternEntry readFields readField
  rw [hcut]

/-- The first block is the controller's, the others are the agents'. -/
def blockDevices : List Block -> List DeviceInfo
  | [] => []
  | first :: agents =>
      first.device "controller" :: agents.map fun block => block.device "agent"

theorem not_infix_newline_cons (filler : Filler) :
    ¬ devicePattern <:+: ['\n'] ++ filler.text := by
  have hmac : macEntry ∈ devicePatternEntry := by simp [devicePatternEntry]
  have h2g : channelSelection2gEntry ∈ devicePatternEntry := by
    simp [devicePatternEntry]
  exact filler.not_infix_stop_append hmac h2g

theorem topologyLoop_agents (blocks : List Block) (trailing : Filler)
    (devices : List DeviceInfo) (hdevices : devices.length ≠ 0) :
    topologyLoop ⟨devices, devices.length, false, false⟩
        ('\n' :: (blocks.flatMap Block.text ++ trailing.text)) =
      some ⟨devices ++ blocks.map (fun block => block.device "agent"),
        devices.length + blocks.length, false, false⟩ := by
  induction blocks generalizing devices with
  | nil =>
      have hround := readFields_of_unmarked (not_infix_newline_cons trailing)
        ⟨devices, devices.length, false, false⟩
      rw [List.map_nil, List.append_nil]
      exact topologyLoop_of_returned hround
  | cons block rest ih =>
      have hround := readFields_block devices (not_infix_newline_cons block.lead)
        (rest.flatMap Block.text ++ trailing.text)
      rw [if_neg hdevices] at hround
      have hlength :
          (devices ++ [block.device "agent"]).length = devices.length + 1 := by
        simp
      have hrest := ih (devices ++ [block.device "agent"]) (by simp)
      rw [hlength] at hrest
      rw [List.flatMap_cons, List.append_assoc, ← List.singleton_append,
        topologyLoop_of_reached hround]
      refine hrest.trans ?_
      simp [Nat.add_assoc, Nat.add_comm 1]

/-- A text of blocks gives back the devices it was made of. -/
theorem topologyHandler_blocks (blocks : List Block) (trailing : Filler) :
    topologyHandler false false
        (some (String.ofList (blocks.flatMap Block.text ++ trailing.text))) =
      some ⟨blockDevices blocks, blocks.length, false, false⟩ := by
  rw [topologyHandler_some, String.toList_ofList]
  cases blocks with
  | nil =>
      have hround := readFields_of_unmarked
        (trailing.unmarked macEntry (by simp [devicePatternEntry]))
        (HandlerState.initial false false)
      exact topologyLoop_of_returned hround
  | cons block rest =>
      have hlead : ¬ devicePattern <:+: [] ++ block.lead.text :=
        block.lead.unmarked macEntry (by simp [devicePatternEntry])
      have hround := readFields_block [] hlead
        (rest.flatMap Block.text ++ trailing.text)
      have hrest := topologyLoop_agents rest trailing [block.device "controller"]
        (by simp)
      rw [List.flatMap_cons, List.append_assoc]
      refine (topologyLoop_of_reached hround).trans (hrest.trans ?_)
      simp [blockDevices, Nat.add_comm]

/-!
## A gateway's block
-/

def gatewayBlock : Block where
  lead := ⟨[], by decide⟩
  mac := "02:00:00:00:00:0A".toList
  macEnd := ⟨['\n'], by decide⟩
  ip := "192.168.1.1".toList
  ipEnd := ⟨['\n'], by decide⟩
  parent := "none".toList
  parentEnd := ⟨[], by decide⟩
  radios := ⟨['\n'], by decide⟩
  line5g := ⟨": 36 ".toList, by decide, by decide, '6', ' ', by decide⟩
  lineEnd := ⟨[], by decide⟩
  label2g := [':']
  line2g := ⟨"6 ".toList, by decide, by decide, '6', ' ', by decide⟩
  mac_comma := by decide
  ip_space := by decide
  parent_newline := by decide
  label_space := by decide

example : gatewayBlock.text =
    ("QCA IEEE 1905.1 device: 02:00:00:00:00:0A,\n".toList ++
      "IPv4 address: 192.168.1.1 \n".toList ++ "Upstream Device: none\n".toList ++
      "Radios:\nWLAN: 36 \nWLAN: 6 \n".toList) := by
  decide +kernel

def gatewayTold : DeviceInfo := gatewayBlock.device "controller"

def gatewayAnswer : String := String.ofList gatewayBlock.text

/-- The gateway's block is read, and the rest after it. -/
theorem topologyLoop_gatewayBlock (rest : List Char) :
    topologyLoop (HandlerState.initial false false) (gatewayBlock.text ++ rest) =
      topologyLoop ⟨[gatewayTold], 1, false, false⟩ ('\n' :: rest) := by
  have hlead : ¬ devicePattern <:+: [] ++ gatewayBlock.lead.text := by decide
  exact topologyLoop_of_reached (readFields_block [] hlead rest)

theorem topologyHandler_gatewayAnswer :
    topologyHandler false false (some gatewayAnswer) =
      some ⟨[gatewayTold], 1, false, false⟩ := by
  have hnone : ¬ devicePattern <:+: ['\n'] := by decide
  have hround := topologyLoop_gatewayBlock []
  rw [List.append_nil] at hround
  rw [topologyHandler_some, gatewayAnswer, String.toList_ofList, hround]
  exact topologyLoop_of_returned (readFields_of_unmarked hnone _)

/-!
## A gateway with two agents
-/

def agentBlock (mac ip : List Char) (hmac : ',' ∉ mac) (hip : ' ' ∉ ip) : Block :=
  { gatewayBlock with
    mac := mac
    ip := ip
    parent := "br-lan".toList
    mac_comma := hmac
    ip_space := hip
    parent_newline := by decide }

def agentBlocks : List Block :=
  [agentBlock "02:00:00:00:00:0B".toList "192.168.1.2".toList (by decide) (by decide),
   agentBlock "02:00:00:00:00:0C".toList "192.168.1.3".toList (by decide) (by decide)]

def agentsTold : List DeviceInfo :=
  agentBlocks.map fun block => block.device "agent"

def meshAnswer : String :=
  String.ofList (gatewayBlock.text ++ agentBlocks.flatMap Block.text)

theorem topologyHandler_meshAnswer :
    topologyHandler false false (some meshAnswer) =
      some ⟨gatewayTold :: agentsTold, 3, false, false⟩ := by
  have hagents := topologyLoop_agents agentBlocks ⟨[], by decide⟩ [gatewayTold]
    Nat.one_ne_zero
  rw [List.append_nil] at hagents
  rw [topologyHandler_some, meshAnswer, String.toList_ofList, topologyLoop_gatewayBlock]
  exact hagents

end Mesh
end Noc
