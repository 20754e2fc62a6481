import OpticalAccess.Config.Basic
import OpticalAccess.Json5.Record

/-!
# Reading configurations

A configuration is a JSON5 document. Reading it has three stages with errors of their own: the
document is well-formed, its values are those of a configuration, and the configuration is accepted.
-/

namespace OpticalAccess

open Json5 (Node Key Slot)

/-! ### Parts of a configuration -/

namespace Role

def ofLabel (place : Position) (s : String) : Except Fault Role :=
  if s = "terminal" then .ok terminal
  else if s = "subscriber" then .ok subscriber
  else .error ⟨.unknownVariant s ["terminal", "subscriber"], place⟩

/-- A role is named by a text, or by the first key of an object. -/
def ofNode : Node → Except Fault Role
  | .text site pieces => do ofLabel site.place (← Json5.textOf site.place pieces)
  | .object site members =>
    match members with
    | [] => .error ⟨.emptyVariant, site.place⟩
    | (key, _) :: _ => do ofLabel key.place (← key.text)
  | n => .error ⟨.noVariant, n.place⟩

end Role

def portOf (n : Node) : Except Fault UInt16 :=
  (n.asInteger 0 0xFFFF).map fun i => UInt16.ofNat i.toNat

def sizeOf64 (n : Node) : Except Fault UInt64 :=
  (n.asInteger 0 0xFFFFFFFFFFFFFFFF).map fun i => UInt64.ofNat i.toNat

def uniPortOf (n : Node) : Except Fault Int32 :=
  (n.asInteger (-0x80000000) 0x7FFFFFFF).map Int32.ofInt

def slot (name : String) (required : Bool) (get : σ → Option α) (set : σ → α → σ)
    (read : Node → Except Fault α) : Slot σ where
  name
  required
  filled draft := (get draft).isSome
  fill draft n := (read n).map (set draft)

namespace DeviceConfig

structure Draft where
  role : Option Role := none
  name : Option String := none
  address : Option String := none
  port : Option UInt16 := none

def slots : List (Slot Draft) :=
  [slot "role" true Draft.role (fun d role => { d with role }) Role.ofNode,
    slot "name" true Draft.name (fun d name => { d with name }) Node.asText,
    slot "address" true Draft.address (fun d address => { d with address }) Node.asText,
    slot "port" true Draft.port (fun d port => { d with port }) portOf]

def Draft.config (d : Draft) : DeviceConfig where
  role := d.role.getD .terminal
  name := d.name.getD ""
  location := ⟨d.address.getD "", d.port.getD 0⟩

def ofNode (n : Node) : Except Fault DeviceConfig :=
  (Slot.read "struct DeviceConfig" slots {} n).map Draft.config

end DeviceConfig

namespace Child

structure Draft where
  uniPort : Option Int32 := none
  address : Option String := none
  port : Option UInt16 := none

def slots : List (Slot Draft) :=
  [slot "uni_port" true Draft.uniPort (fun d uniPort => { d with uniPort }) uniPortOf,
    slot "address" true Draft.address (fun d address => { d with address }) Node.asText,
    slot "port" true Draft.port (fun d port => { d with port }) portOf]

def Draft.child (d : Draft) : Child where
  uniPort := d.uniPort.getD 0
  location := ⟨d.address.getD "", d.port.getD 0⟩

def ofNode (n : Node) : Except Fault Child :=
  (Slot.read "struct ChildConfig" slots {} n).map Draft.child

end Child

namespace ServerTls

structure Draft where
  certificate : Option String := none
  key : Option String := none

def slots : List (Slot Draft) :=
  [slot "certificate" true Draft.certificate (fun d certificate => { d with certificate })
      Node.asText,
    slot "key" true Draft.key (fun d key => { d with key }) Node.asText]

def Draft.config (d : Draft) : ServerTls := ⟨d.certificate.getD "", d.key.getD ""⟩

def ofNode (n : Node) : Except Fault ServerTls :=
  (Slot.read "struct ServerTlsConfig" slots {} n).map Draft.config

end ServerTls

namespace RouterConfig

structure Draft where
  statsFanoutConcurrency : Option UInt64 := none
  relayBuffer : Option UInt64 := none
  connectTimeoutMs : Option UInt64 := none
  callTimeoutMs : Option UInt64 := none

def slots : List (Slot Draft) :=
  [slot "stats_fanout_concurrency" false Draft.statsFanoutConcurrency
      (fun d n => { d with statsFanoutConcurrency := n }) sizeOf64,
    slot "relay_buffer" false Draft.relayBuffer (fun d n => { d with relayBuffer := n }) sizeOf64,
    slot "connect_timeout_ms" false Draft.connectTimeoutMs
      (fun d n => { d with connectTimeoutMs := n }) sizeOf64,
    slot "call_timeout_ms" false Draft.callTimeoutMs (fun d n => { d with callTimeoutMs := n })
      sizeOf64]

def Draft.config (d : Draft) : RouterConfig :=
  let standard : RouterConfig := {}
  { statsFanoutConcurrency := d.statsFanoutConcurrency.getD standard.statsFanoutConcurrency
    relayBuffer := d.relayBuffer.getD standard.relayBuffer
    connectTimeoutMs := d.connectTimeoutMs.getD standard.connectTimeoutMs
    callTimeoutMs := d.callTimeoutMs.getD standard.callTimeoutMs }

def ofNode (n : Node) : Except Fault RouterConfig :=
  (Slot.read "struct RouterConfig" slots {} n).map Draft.config

end RouterConfig

namespace ChildTransport

def modeOf (n : Node) : Except Fault Mode := do
  match n with
  | .text site pieces =>
    match Mode.ofLabel (← Json5.textOf site.place pieces) with
    | .ok mode => return mode
    | .error problem => throw ⟨problem, site.place⟩
  | n => n.mismatch "variant identifier"

/-- Finds the mode among the members of an object; the others keep their order. -/
def splitMembers (place : Position) (mode : Option Mode) :
    List (Key × Node) → Except Fault (Option Mode × List (String × Content))
  | [] => .ok (mode, [])
  | (key, n) :: rest => do
    let name ← key.text
    if name = "mode" then
      if mode.isSome then throw ⟨.duplicateField name, place⟩
      splitMembers place (some (← modeOf n)) rest
    else
      let c ← n.content
      let (mode, members) ← splitMembers place mode rest
      return (mode, (name, c) :: members)

/--
Reads a transport. The fields of the mode are looked at when the whole value has been read; what is
wrong with them is reported at `enclosing`, the place of the configuration.
-/
def ofNode (enclosing : Position) (n : Node) : Except Fault ChildTransport := do
  let (mode, parts) ← match n with
    | .object site members => do
      let (mode, members) ← splitMembers site.place none members
      pure (mode, Content.map members)
    | .array _ items =>
      match items with
      | [] => pure (none, Content.sequence [])
      | first :: rest => do
        let mode ← modeOf first
        pure (some mode, Content.sequence (← Node.contents rest))
    | n => n.mismatch typeName
  match mode with
  | none => throw ⟨.missingField "mode", n.place⟩
  | some mode =>
    match ofParts mode parts with
    | .ok transport => return transport
    | .error problem => throw ⟨problem, enclosing⟩

end ChildTransport

/-! ### The configuration -/

namespace Config

structure Draft where
  device : Option DeviceConfig := none
  children : Option (List Child) := none
  childTransport : Option ChildTransport := none
  serverTls : Option (Option ServerTls) := none
  router : Option RouterConfig := none
  outgoingQueueSize : Option UInt64 := none

def childrenOf (n : Node) : Except Fault (List Child) := do (← n.asSequence).mapM Child.ofNode

/-- Null stands for no certificate. -/
def serverTlsOf : Node → Except Fault (Option ServerTls)
  | .null _ => .ok none
  | n => (ServerTls.ofNode n).map some

def slots (place : Position) : List (Slot Draft) :=
  [slot "device" true Draft.device (fun d device => { d with device }) DeviceConfig.ofNode,
    slot "children" false Draft.children (fun d children => { d with children }) childrenOf,
    slot "child_transport" true Draft.childTransport
      (fun d childTransport => { d with childTransport }) (ChildTransport.ofNode place),
    slot "server_tls" false Draft.serverTls
      (fun d serverTls => { d with serverTls := some serverTls }) serverTlsOf,
    slot "router" false Draft.router (fun d router => { d with router }) RouterConfig.ofNode,
    slot "outgoing_queue_size" false Draft.outgoingQueueSize
      (fun d n => { d with outgoingQueueSize := n }) sizeOf64]

def Draft.config (d : Draft) : Config where
  device := d.device.getD (DeviceConfig.Draft.config {})
  children := d.children.getD []
  childTransport := d.childTransport.getD .plaintext
  serverTls := d.serverTls.getD none
  router := d.router.getD {}
  outgoingQueueSize := d.outgoingQueueSize.getD 1024

def ofNode (n : Node) : Except Fault Config :=
  (Slot.read "struct Config" (slots n.place) {} n).map Draft.config

inductive Error where
  /-- No JSON5, as far as some place was read. -/
  | malformed (place : Position)
  | fault (fault : Fault)
  | invalid (reason : Invalid)
  deriving DecidableEq, Repr

/-- Whether reading breaks off without an answer: a number begins inside a character. -/
def Error.breaksOff : Error → Bool
  | fault ⟨.number .torn, _⟩ => true
  | _ => false

def parse (s : String) : Except Error Config :=
  match Node.parse s with
  | .error place => .error (.malformed place)
  | .ok n =>
    match ofNode n with
    | .error fault => .error (.fault fault)
    | .ok c =>
      match c.check with
      | .error reason => .error (.invalid reason)
      | .ok () => .ok c

end Config
end OpticalAccess
