import OpticalAccess.Message
import OpticalAccess.Wire.Field

/-!
# Messages on the wire

Each message names its fields in the order of their numbers. A field that holds zero or nothing is
not written; numbers of a list share one field; messages of a list have a field each. A reader takes
fields in any order, keeps the last value of a single field, gathers lists and skips the fields that
it does not know.
-/

namespace OpticalAccess.Wire

def nesting : Nat := 100

/-- A type of values that are written as fields and put together from fields. -/
class Message (α : Type) where
  blank : α
  /-- Takes one field into a value; none if the field does not hold what its number calls for. -/
  merge : (limit : Nat) → α → Field → Option α
  fields : α → List Field

def encode [Message α] (a : α) : Bytes := (Message.fields a).flatMap Field.bytes

/-- Reads a value in which at most `limit` further messages and groups are nested. -/
def decodeWithin [Message α] (limit : Nat) (bytes : Bytes) : Option α :=
  (readFields limit bytes).bind (·.foldlM (Message.merge limit) Message.blank)

def decode [Message α] (bytes : Bytes) : Option α := decodeWithin nesting bytes

/-! ### Values of fields -/

def word (n : Int) : Nat := (n % 0x10000000000000000).toNat

def Value.number? : Value → Option Nat
  | varint n => some n
  | _ => none

def Value.bytes? : Value → Option Bytes
  | delimited content => some content
  | _ => none

def Value.text? (v : Value) : Option String :=
  v.bytes?.bind fun content => String.fromUTF8? content.toByteArray

def readVarints (bytes : Bytes) : Option (List Nat) :=
  if bytes.isEmpty then some []
  else
    match _h : readVarint bytes with
    | none => none
    | some (n, rest) => (readVarints rest).map (n :: ·)
termination_by bytes.length
decreasing_by exact length_readVarint _h

/-- The numbers of a list, in one field or alone. -/
def Value.numbers? : Value → Option (List Nat)
  | varint n => some [n]
  | delimited content => readVarints content
  | _ => none

def Value.message? [Message α] (limit : Nat) (v : Value) : Option α :=
  v.bytes?.bind (decodeWithin (limit - 1))

def numberField (number n : Nat) : List Field := if n = 0 then [] else [⟨number, .varint n⟩]

def bytesField (number : Nat) (content : Bytes) : List Field :=
  if content.isEmpty then [] else [⟨number, .delimited content⟩]

def textField (number : Nat) (text : String) : List Field :=
  bytesField number text.toUTF8.toList

def numbersField (number : Nat) (ns : List Nat) : List Field :=
  bytesField number (ns.flatMap varint)

def messageFields [Message α] (number : Nat) (values : List α) : List Field :=
  values.map fun value => ⟨number, .delimited (encode value)⟩

/-! ### Messages -/

instance : Message Unit where
  blank := ()
  merge _ _ _ := some ()
  fields _ := []

instance : Message Envelope where
  blank := ⟨"", []⟩
  merge _ e f :=
    match f.number with
    | 1 => f.value.text?.map fun id => { e with id }
    | 2 => f.value.bytes?.map fun payload => { e with payload }
    | _ => some e
  fields e := textField 1 e.id ++ bytesField 2 e.payload

instance : Message DeviceInfo where
  blank := ⟨0, []⟩
  merge _ i f :=
    match f.number with
    | 1 => f.value.number?.map fun n => { i with nniPort := Int32.ofNat n }
    | 2 => f.value.numbers?.map fun ns => { i with uniPorts := i.uniPorts ++ ns.map Int32.ofNat }
    | _ => some i
  fields i :=
    numberField 1 (word i.nniPort.toInt) ++ numbersField 2 (i.uniPorts.map (word ·.toInt))

instance : Message FlowRule where
  blank := ⟨0, 0, 0, 0, [], []⟩
  merge _ r f :=
    match f.number with
    | 1 => f.value.number?.map fun n => { r with id := UInt64.ofNat n }
    | 2 => f.value.number?.map fun n => { r with tableId := UInt32.ofNat n }
    | 3 => f.value.number?.map fun n => { r with priority := UInt32.ofNat n }
    | 4 => f.value.number?.map fun n => { r with cookie := UInt64.ofNat n }
    | 5 => f.value.bytes?.map fun matchFields => { r with matchFields }
    | 6 => f.value.bytes?.map fun instructions => { r with instructions }
    | _ => some r
  fields r :=
    numberField 1 r.id.toNat ++ numberField 2 r.tableId.toNat ++ numberField 3 r.priority.toNat ++
      numberField 4 r.cookie.toNat ++ bytesField 5 r.matchFields ++ bytesField 6 r.instructions

instance : Message FlowTable where
  blank := ⟨0, []⟩
  merge limit t f :=
    match f.number with
    | 1 => f.value.number?.map fun n => { t with port := Int32.ofNat n }
    | 2 => (f.value.message? limit).map fun rule => { t with flows := t.flows ++ [rule] }
    | _ => some t
  fields t := numberField 1 (word t.port.toInt) ++ messageFields 2 t.flows

instance : Message PacketCounter where
  blank := ⟨"", 0⟩
  merge _ c f :=
    match f.number with
    | 1 => f.value.text?.map fun name => { c with name }
    | 2 => f.value.number?.map fun n => { c with value := Int64.ofNat n }
    | _ => some c
  fields c := textField 1 c.name ++ numberField 2 (word c.value.toInt)

instance : Message PortMetrics where
  blank := ⟨"", []⟩
  merge limit m f :=
    match f.number with
    | 1 => f.value.text?.map fun portName => { m with portName }
    | 2 => (f.value.message? limit).map fun counter => { m with packets := m.packets ++ [counter] }
    | _ => some m
  fields m := textField 1 m.portName ++ messageFields 2 m.packets

instance : Message Metrics where
  blank := ⟨"", []⟩
  merge limit m f :=
    match f.number with
    | 1 => f.value.text?.map fun device => { m with device }
    | 2 => (f.value.message? limit).map fun port => { m with ports := m.ports ++ [port] }
    | _ => some m
  fields m := textField 1 m.device ++ messageFields 2 m.ports

end OpticalAccess.Wire
