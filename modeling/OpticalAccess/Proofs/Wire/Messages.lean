import OpticalAccess.Proofs.Wire.Fields
import OpticalAccess.Service

/-!
# Messages survive the wire

A message is read back as it was written. What is read from two messages of a type, one behind the
other, is their merger: lists go on, and of the other fields the later value counts unless it is
blank.
-/

namespace OpticalAccess

/-! ### Mergers -/

/-- The later of two values, unless it is blank. -/
def later [DecidableEq α] (blank earlier late : α) : α := if late = blank then earlier else late

@[simp] theorem later_blank [DecidableEq α] (blank late : α) : later blank blank late = late := by
  unfold later
  split
  · rename_i same
    exact same.symm
  · rfl

def Envelope.merged (a b : Envelope) : Envelope :=
  ⟨later "" a.id b.id, later [] a.payload b.payload⟩

def DeviceInfo.merged (a b : DeviceInfo) : DeviceInfo :=
  ⟨later 0 a.nniPort b.nniPort, a.uniPorts ++ b.uniPorts⟩

def FlowRule.merged (a b : FlowRule) : FlowRule where
  id := later 0 a.id b.id
  tableId := later 0 a.tableId b.tableId
  priority := later 0 a.priority b.priority
  cookie := later 0 a.cookie b.cookie
  matchFields := later [] a.matchFields b.matchFields
  instructions := later [] a.instructions b.instructions

def FlowTable.merged (a b : FlowTable) : FlowTable := ⟨later 0 a.port b.port, a.flows ++ b.flows⟩

def PacketCounter.merged (a b : PacketCounter) : PacketCounter :=
  ⟨later "" a.name b.name, later 0 a.value b.value⟩

def PortMetrics.merged (a b : PortMetrics) : PortMetrics :=
  ⟨later "" a.portName b.portName, a.packets ++ b.packets⟩

def Metrics.merged (a b : Metrics) : Metrics := ⟨later "" a.device b.device, a.ports ++ b.ports⟩

namespace Wire

/-! ### Values of fields -/

theorem toNat32_eq_zero {x : UInt32} : x.toNat = 0 ↔ x = 0 := by
  rw [← UInt32.toNat_inj, UInt32.toNat_zero]

theorem toNat64_eq_zero {x : UInt64} : x.toNat = 0 ↔ x = 0 := by
  rw [← UInt64.toNat_inj, UInt64.toNat_zero]

theorem word_lt (n : Int) : word n < wordBound := by
  unfold word wordBound
  omega

theorem word_int32 (x : Int32) : Int32.ofNat (word x.toInt) = x := by
  rw [← Int32.toInt_inj, Int32.toInt_ofNat']
  have low := x.le_toInt
  have high := x.toInt_lt
  simp only [word, Int.bmod_def, Int32.size]
  omega

theorem word_int64 (x : Int64) : Int64.ofNat (word x.toInt) = x := by
  rw [← Int64.toInt_inj, Int64.toInt_ofNat']
  have low := x.le_toInt
  have high := x.toInt_lt
  simp only [word, Int.bmod_def, Int64.size]
  omega

theorem word_int32_eq_zero {x : Int32} : word x.toInt = 0 ↔ x = 0 := by
  constructor
  · intro zero
    rw [← word_int32 x, zero]
    rfl
  · rintro rfl
    rfl

theorem word_int64_eq_zero {x : Int64} : word x.toInt = 0 ↔ x = 0 := by
  constructor
  · intro zero
    rw [← word_int64 x, zero]
    rfl
  · rintro rfl
    rfl

theorem loop_eq_data (bytes : ByteArray) (i : Nat) (before : List UInt8) :
    ByteArray.toList.loop bytes i before = before.reverse ++ bytes.data.toList.drop i := by
  induction i, before using ByteArray.toList.loop.induct bytes with
  | case1 i before inside ih =>
    have inside' : i < bytes.data.toList.length := inside
    have byte : bytes.get! i = bytes.data.toList[i] := getElem!_pos bytes.data i inside
    rw [ByteArray.toList.loop, if_pos inside, ih, List.drop_eq_getElem_cons inside', byte,
      List.reverse_cons, List.append_assoc, List.singleton_append]
  | case2 i before beyond =>
    have short : bytes.data.toList.length ≤ i := Nat.not_lt.mp beyond
    rw [ByteArray.toList.loop, if_neg beyond, List.drop_of_length_le short, List.append_nil]

theorem toList_eq_data (bytes : ByteArray) : bytes.toList = bytes.data.toList :=
  loop_eq_data bytes 0 []

theorem fromUTF8?_toUTF8 (s : String) :
    String.fromUTF8? s.toUTF8.toList.toByteArray = some s := by
  have bytes : s.toUTF8.toList.toByteArray = s.toUTF8 := by
    rw [toList_eq_data]
    exact ByteArray.ext (Array.ext' List.toList_data_toByteArray)
  rw [bytes, String.fromUTF8?, String.toUTF8_eq_toByteArray, dif_pos s.isValidUTF8]
  rfl

theorem toUTF8_toList_eq_nil {s : String} : s.toUTF8.toList = [] ↔ s = "" := by
  constructor
  · intro empty
    have read := fromUTF8?_toUTF8 s
    rw [empty] at read
    have blank := fromUTF8?_toUTF8 ""
    rw [show "".toUTF8.toList = [] from ByteArray.toList_empty] at blank
    exact Option.some.inj (read.symm.trans blank)
  · rintro rfl
    exact ByteArray.toList_empty

/-! ### Fields that can be sent -/

def Value.Plain : Value → Prop
  | .varint n => n < wordBound
  | .delimited _ => True
  | _ => False

/-- A field as messages have it. How long its bytes are does not matter here. -/
structure Field.Plain (f : Field) : Prop where
  first : 1 ≤ f.number
  last : f.number < 0x20000000
  value : f.value.Plain

/-- Every text, row of bytes and message in a message has a length that 64 bits can tell. -/
def Short [Message α] (a : α) : Prop :=
  ∀ number content, ⟨number, .delimited content⟩ ∈ Message.fields a → content.length < wordBound

theorem short_of_length [Message α] {a : α} (short : (encode a).length < wordBound) : Short a := by
  intro number content member
  have part := List.sublist_flatten_of_mem (List.mem_map_of_mem (f := Field.bytes) member)
  rw [← List.flatMap_def] at part
  have whole := part.length_le
  simp only [Field.bytes, List.length_append] at whole
  unfold encode at short
  omega

section

variable {number : Nat} (first : 1 ≤ number) (last : number < 0x20000000)
include first last

theorem plain_numberField {n : Nat} (fits : n < wordBound) :
    ∀ f ∈ numberField number n, f.Plain := by
  unfold numberField
  split
  · simp
  · have plain : Field.Plain ⟨number, .varint n⟩ := ⟨first, last, fits⟩
    simpa using plain

theorem plain_bytesField (content : Bytes) : ∀ f ∈ bytesField number content, f.Plain := by
  unfold bytesField
  split
  · simp
  · have plain : Field.Plain ⟨number, .delimited content⟩ := ⟨first, last, trivial⟩
    simpa using plain

theorem plain_messageFields [Message α] (values : List α) :
    ∀ f ∈ messageFields number values, f.Plain := by
  intro f member
  obtain ⟨value, -, rfl⟩ := List.mem_map.mp member
  exact ⟨first, last, trivial⟩

end

/-! ### Taking fields in -/

section

variable [Message α] (limit number : Nat) (put : β → α) {old value : β}

/-- A number is taken into its field, unless it stands for a blank and is not sent at all. -/
theorem foldlM_numberField [DecidableEq β] {n : Nat} {blank : β} (unsent : n = 0 ↔ value = blank)
    (ofNumber : Nat → β) (read : ofNumber n = value)
    (merge : Message.merge limit (put old) ⟨number, .varint n⟩ = some (put (ofNumber n))) :
    (numberField number n).foldlM (Message.merge limit) (put old) =
      some (put (later blank old value)) := by
  unfold numberField later
  by_cases zero : n = 0
  · rw [if_pos zero, if_pos (unsent.mp zero)]
    rfl
  · rw [if_neg zero, if_neg (mt unsent.mpr zero), List.foldlM_cons, merge, read]
    rfl

theorem foldlM_bytesField [DecidableEq β] (content : Bytes) {blank : β}
    (unsent : content = [] ↔ value = blank)
    (merge : content ≠ [] →
      Message.merge limit (put old) ⟨number, .delimited content⟩ = some (put value)) :
    (bytesField number content).foldlM (Message.merge limit) (put old) =
      some (put (later blank old value)) := by
  unfold bytesField later
  by_cases empty : content = []
  · rw [if_pos (List.isEmpty_iff.mpr empty), if_pos (unsent.mp empty)]
    rfl
  · rw [if_neg (mt List.isEmpty_iff.mp empty), if_neg (mt unsent.mpr empty), List.foldlM_cons,
      merge empty]
    rfl

theorem foldlM_textField (put : String → α) {old : String} (text : String)
    (merge : ∀ v, Message.merge limit (put old) ⟨number, v⟩ = v.text?.map put) :
    (textField number text).foldlM (Message.merge limit) (put old) =
      some (put (later "" old text)) := by
  refine foldlM_bytesField limit number put _ toUTF8_toList_eq_nil fun _ => ?_
  rw [merge, Value.text?, Value.bytes?, Option.bind_some, fromUTF8?_toUTF8, Option.map_some]

theorem foldlM_messageFields [Message γ] (put : List γ → α) (old : List γ) {values : List γ}
    (merge : ∀ before v, Message.merge limit (put before) ⟨number, v⟩ =
      (v.message? limit).map fun value => put (before ++ [value]))
    (read : ∀ value ∈ values, decodeWithin (limit - 1) (encode value) = some value) :
    (messageFields number values).foldlM (Message.merge limit) (put old) =
      some (put (old ++ values)) := by
  unfold messageFields
  induction values generalizing old with
  | nil => simp
  | cons value rest ih =>
    obtain ⟨here, others⟩ := List.forall_mem_cons.mp read
    rw [List.map_cons, List.foldlM_cons, merge, Value.message?, Value.bytes?, Option.bind_some,
      here, Option.map_some]
    simpa using ih (old ++ [value]) others

theorem foldlM_numbersField [DecidableEq β] (put : List β → α) {old : List β} (values : List β)
    (toNumber : β → Nat) (ofNumber : Nat → β) (fit : ∀ value, toNumber value < wordBound)
    (read : ∀ value, ofNumber (toNumber value) = value)
    (merge : ∀ v, Message.merge limit (put old) ⟨number, v⟩ =
      v.numbers?.map fun ns => put (old ++ ns.map ofNumber)) :
    (numbersField number (values.map toNumber)).foldlM (Message.merge limit) (put old) =
      some (put (old ++ values)) := by
  have unsent : (values.map toNumber).flatMap varint = [] ↔ values = [] := by
    cases values <;> simp [varint_ne_nil]
  have same : (values.map toNumber).map ofNumber = values := by
    simp [Function.comp_def, read]
  have taken : (numbersField number (values.map toNumber)).foldlM (Message.merge limit)
      (put (old ++ [])) = some (put (old ++ later [] [] values)) :=
    foldlM_bytesField limit number (fun more => put (old ++ more)) _ unsent fun _ => by
      rw [List.append_nil, merge, Value.numbers?, readVarints_varints (by simp [fit]),
        Option.map_some, same]
  rwa [List.append_nil, later_blank] at taken

end

/-! ### Messages -/

/-- The fields of a message can be sent, and are taken into any other message of its type. -/
structure Lawful (α : Type) [Message α] (merged : α → α → α) : Prop where
  blank : ∀ a, merged Message.blank a = a
  plain : ∀ a : α, ∀ f ∈ Message.fields a, f.Plain
  merge : ∀ limit a b, Short b →
    (Message.fields b).foldlM (Message.merge limit) a = some (merged a b)

namespace Lawful

variable [Message α] {merged : α → α → α} (lawful : Lawful α merged)
include lawful

theorem sendable {a : α} (short : Short a) : ∀ f ∈ Message.fields a, f.Sendable := by
  intro f member
  obtain ⟨first, last, value⟩ := lawful.plain a f member
  obtain ⟨number, content⟩ := f
  refine ⟨first, last, ?_⟩
  cases content with
  | varint n => exact value
  | delimited content => exact short number content member
  | fixed64 | group | fixed32 => exact value.elim

theorem decodeWithin_encode (limit : Nat) {a : α} (short : Short a) :
    decodeWithin limit (encode a) = some a := by
  have read := readFields_bytes limit (lawful.sendable short) []
  have nothing : readFields limit [] = some [] := by simp [readFields]
  rw [List.append_nil, nothing, Option.map_some, List.append_nil] at read
  rw [decodeWithin, encode, read, Option.bind_some, lawful.merge limit _ a short, lawful.blank]

theorem decode_append {a b : α} (short : Short a) (short' : Short b) :
    decode (encode a ++ encode b) = some (merged a b) := by
  have first := readFields_bytes nesting (lawful.sendable short)
  have second := readFields_bytes nesting (lawful.sendable short') []
  have nothing : readFields nesting [] = some [] := by simp [readFields]
  rw [List.append_nil, nothing, Option.map_some, List.append_nil] at second
  rw [decode, decodeWithin, encode, encode, first, second, Option.map_some, Option.bind_some,
    List.foldlM_append, lawful.merge nesting _ a short, lawful.blank]
  exact lawful.merge nesting a b short'

/-- The messages of a list in a message are read back, each by itself. -/
theorem decodeWithin_member [Message β] {values : List α} {b : β} (limit number : Nat)
    (sent : messageFields number values ⊆ Message.fields b) (short : Short b) :
    ∀ value ∈ values, decodeWithin limit (encode value) = some value := by
  intro value member
  have field := sent (List.mem_map_of_mem member)
  exact lawful.decodeWithin_encode limit (short_of_length (short _ _ field))

end Lawful

theorem lawful_envelope : Lawful Envelope Envelope.merged where
  blank a := by simp [Envelope.merged, Message.blank]
  plain a := by
    simp only [Message.fields, textField, List.forall_mem_append]
    exact ⟨plain_bytesField (by decide) (by decide) _, plain_bytesField (by decide) (by decide) _⟩
  merge limit a b _ := by
    have id (e : Envelope) := foldlM_textField limit 1
      (fun id => { e with id }) b.id fun _ => rfl
    have payload (e : Envelope) := foldlM_bytesField limit 2
      (fun payload => { e with payload }) b.payload Iff.rfl fun _ => rfl
    simp only [Message.fields, List.foldlM_append, id, payload, Option.bind_eq_bind,
      Option.bind_some]
    rfl

theorem lawful_deviceInfo : Lawful DeviceInfo DeviceInfo.merged where
  blank a := by simp [DeviceInfo.merged, Message.blank]
  plain a := by
    simp only [Message.fields, numbersField, List.forall_mem_append]
    exact ⟨plain_numberField (by decide) (by decide) (word_lt _),
      plain_bytesField (by decide) (by decide) _⟩
  merge limit a b _ := by
    have nniPort (i : DeviceInfo) := foldlM_numberField limit 1
      (fun nniPort => { i with nniPort }) word_int32_eq_zero Int32.ofNat (word_int32 b.nniPort) rfl
    have uniPorts (i : DeviceInfo) := foldlM_numbersField limit 2
      (fun uniPorts => { i with uniPorts }) b.uniPorts (fun port => word port.toInt)
      Int32.ofNat (fun _ => word_lt _) word_int32 fun _ => rfl
    simp only [Message.fields, List.foldlM_append, nniPort, uniPorts, Option.bind_eq_bind,
      Option.bind_some]
    rfl

theorem lawful_flowRule : Lawful FlowRule FlowRule.merged where
  blank a := by simp [FlowRule.merged, Message.blank]
  plain a := by
    have id := a.id.toNat_lt
    have tableId := a.tableId.toNat_lt
    have priority := a.priority.toNat_lt
    have cookie := a.cookie.toNat_lt
    simp only [Message.fields, List.forall_mem_append]
    refine ⟨⟨⟨⟨⟨?_, ?_⟩, ?_⟩, ?_⟩, plain_bytesField (by decide) (by decide) _⟩,
      plain_bytesField (by decide) (by decide) _⟩
    all_goals exact plain_numberField (by decide) (by decide) (by unfold wordBound; omega)
  merge limit a b _ := by
    have id (r : FlowRule) := foldlM_numberField limit 1
      (fun id => { r with id }) toNat64_eq_zero UInt64.ofNat (UInt64.ofNat_toNat (x := b.id)) rfl
    have tableId (r : FlowRule) := foldlM_numberField limit 2
      (fun tableId => { r with tableId }) toNat32_eq_zero UInt32.ofNat
      (UInt32.ofNat_toNat (x := b.tableId)) rfl
    have priority (r : FlowRule) := foldlM_numberField limit 3
      (fun priority => { r with priority }) toNat32_eq_zero UInt32.ofNat
      (UInt32.ofNat_toNat (x := b.priority)) rfl
    have cookie (r : FlowRule) := foldlM_numberField limit 4
      (fun cookie => { r with cookie }) toNat64_eq_zero UInt64.ofNat
      (UInt64.ofNat_toNat (x := b.cookie)) rfl
    have matchFields (r : FlowRule) := foldlM_bytesField limit 5
      (fun matchFields => { r with matchFields }) b.matchFields Iff.rfl fun _ => rfl
    have instructions (r : FlowRule) := foldlM_bytesField limit 6
      (fun instructions => { r with instructions }) b.instructions Iff.rfl fun _ => rfl
    simp only [Message.fields, List.foldlM_append, id, tableId, priority, cookie, matchFields,
      instructions, Option.bind_eq_bind, Option.bind_some]
    rfl

theorem lawful_flowTable : Lawful FlowTable FlowTable.merged where
  blank a := by simp [FlowTable.merged, Message.blank]
  plain a := by
    simp only [Message.fields, List.forall_mem_append]
    exact ⟨plain_numberField (by decide) (by decide) (word_lt _),
      plain_messageFields (by decide) (by decide) _⟩
  merge limit a b short := by
    have port (t : FlowTable) := foldlM_numberField limit 1
      (fun port => { t with port }) word_int32_eq_zero Int32.ofNat (word_int32 b.port) rfl
    have read := lawful_flowRule.decodeWithin_member (limit - 1) 2
      (List.subset_append_right _ _) short
    have flows (t : FlowTable) := foldlM_messageFields limit 2
      (fun flows => { t with flows }) t.flows (fun _ _ => rfl) read
    simp only [Message.fields, List.foldlM_append, port, flows, Option.bind_eq_bind,
      Option.bind_some]
    rfl

theorem lawful_packetCounter : Lawful PacketCounter PacketCounter.merged where
  blank a := by simp [PacketCounter.merged, Message.blank]
  plain a := by
    simp only [Message.fields, textField, List.forall_mem_append]
    exact ⟨plain_bytesField (by decide) (by decide) _,
      plain_numberField (by decide) (by decide) (word_lt _)⟩
  merge limit a b _ := by
    have name (c : PacketCounter) := foldlM_textField limit 1
      (fun name => { c with name }) b.name fun _ => rfl
    have value (c : PacketCounter) := foldlM_numberField limit 2
      (fun value => { c with value }) word_int64_eq_zero Int64.ofNat (word_int64 b.value) rfl
    simp only [Message.fields, List.foldlM_append, name, value, Option.bind_eq_bind,
      Option.bind_some]
    rfl

theorem lawful_portMetrics : Lawful PortMetrics PortMetrics.merged where
  blank a := by simp [PortMetrics.merged, Message.blank]
  plain a := by
    simp only [Message.fields, textField, List.forall_mem_append]
    exact ⟨plain_bytesField (by decide) (by decide) _,
      plain_messageFields (by decide) (by decide) _⟩
  merge limit a b short := by
    have portName (m : PortMetrics) := foldlM_textField limit 1
      (fun portName => { m with portName }) b.portName fun _ => rfl
    have read := lawful_packetCounter.decodeWithin_member (limit - 1) 2
      (List.subset_append_right _ _) short
    have packets (m : PortMetrics) := foldlM_messageFields limit 2
      (fun packets => { m with packets }) m.packets (fun _ _ => rfl) read
    simp only [Message.fields, List.foldlM_append, portName, packets, Option.bind_eq_bind,
      Option.bind_some]
    rfl

theorem lawful_metrics : Lawful Metrics Metrics.merged where
  blank a := by simp [Metrics.merged, Message.blank]
  plain a := by
    simp only [Message.fields, textField, List.forall_mem_append]
    exact ⟨plain_bytesField (by decide) (by decide) _,
      plain_messageFields (by decide) (by decide) _⟩
  merge limit a b short := by
    have device (m : Metrics) := foldlM_textField limit 1
      (fun device => { m with device }) b.device fun _ => rfl
    have read := lawful_portMetrics.decodeWithin_member (limit - 1) 2
      (List.subset_append_right _ _) short
    have ports (m : Metrics) := foldlM_messageFields limit 2
      (fun ports => { m with ports }) m.ports (fun _ _ => rfl) read
    simp only [Message.fields, List.foldlM_append, device, ports, Option.bind_eq_bind,
      Option.bind_some]
    rfl

end Wire

/-! ### Messages in bodies -/

namespace Service

theorem blockLength_length {n : Nat} (counted : n < 0x100000000) :
    blockLength (UInt8.ofNat (n / 0x1000000)) (UInt8.ofNat (n / 0x10000)) (UInt8.ofNat (n / 0x100))
      (UInt8.ofNat n) = n := by
  simp only [blockLength, UInt8.toNat_ofNat']
  omega

/-- A message that is sent alone in a body is the request, unless it is longer than the limit. -/
theorem request_block [Wire.Message α] {limit : Nat} {content : Bytes} {message : α}
    (allowed : content.length ≤ limit) (counted : content.length < 0x100000000)
    (read : Wire.decode content = some message) :
    request limit (block content) = .ok message := by
  have all : messages limit (block content) = .ok [message] := by
    simp only [block]
    rw [messages, blockLength_length counted]
    have nothing : messages (α := α) limit [] = .ok [] := by rw [messages]
    simp [Nat.not_lt.mpr allowed, read, nothing, Except.map]
  rw [request, all]
  rfl

end Service

namespace Wire

/--
What is written of a message is read as that message, and what is written of two, one behind the
other, as their merger. Lengths on the wire have 64 bits, so that nothing longer can be written.
-/
def Lossless [Message α] (merged : α → α → α) : Prop :=
  ∀ a b : α, Short a → Short b →
    decode (encode a) = some a ∧ decode (encode a ++ encode b) = some (merged a b)

theorem Lawful.lossless [Message α] {merged : α → α → α} (lawful : Lawful α merged) :
    Lossless merged := fun _ _ short short' =>
  ⟨lawful.decodeWithin_encode nesting short, lawful.decode_append short short'⟩

/--
No message loses anything on the wire, whatever its type. A flow table that is sent within the
limits is dispatched as it was sent, rule by rule.
-/
theorem messages_survive_the_wire :
    Lossless Envelope.merged ∧ Lossless DeviceInfo.merged ∧ Lossless FlowRule.merged ∧
      Lossless FlowTable.merged ∧ Lossless PacketCounter.merged ∧ Lossless PortMetrics.merged ∧
      Lossless Metrics.merged ∧
      ∀ (table : FlowTable) (limit : Nat) (stream : String), (encode table).length ≤ limit →
        (encode table).length < 0x100000000 →
        Service.operation limit stream (Service.block (encode table)) .updateFlowTable =
          .ok (.dispatch table) := by
  refine ⟨lawful_envelope.lossless, lawful_deviceInfo.lossless, lawful_flowRule.lossless,
    lawful_flowTable.lossless, lawful_packetCounter.lossless, lawful_portMetrics.lossless,
    lawful_metrics.lossless, fun table limit stream allowed counted => ?_⟩
  have short : (encode table).length < wordBound := by unfold wordBound; omega
  have read := lawful_flowTable.decodeWithin_encode nesting (short_of_length short)
  rw [Service.operation, Service.request_block allowed counted read]
  rfl

theorem messages_survive_the_wire_tables :
    let a : FlowTable := ⟨-1, [⟨7, 1, 2, 3, [0xff], []⟩]⟩
    let b : FlowTable := ⟨0, [⟨0, 0, 0, 0, [], []⟩, ⟨0xffffffffffffffff, 0, 0, 0, [], [8]⟩]⟩
    let both : FlowTable := ⟨-1, [⟨7, 1, 2, 3, [0xff], []⟩, ⟨0, 0, 0, 0, [], []⟩,
      ⟨0xffffffffffffffff, 0, 0, 0, [], [8]⟩]⟩
    Short a ∧ Short b ∧ decode (encode a ++ encode b) = some both := by
  intro a b both
  have length : (encode a).length = 24 ∧ (encode b).length = 18 := by decide +kernel
  have short : Short a := short_of_length (by rw [length.1]; decide)
  have short' : Short b := short_of_length (by rw [length.2]; decide)
  exact ⟨short, short', (messages_survive_the_wire.2.2.2.1 a b short short').2⟩

end Wire
end OpticalAccess
