import OpticalAccess.Network.Step

/-!
# Services

A controller reaches a router over a connection by the path of a method and a body of messages. Each
message stands behind a header: a flag that is zero, for no compression, and the length in four
bytes.
-/

namespace OpticalAccess.Service

inductive Method where
  | sendFrame
  | receiveFrames
  | deviceInfo
  | updateFlowTable
  | stats
  deriving DecidableEq, Repr

namespace Method

def all : List Method := [sendFrame, receiveFrames, deviceInfo, updateFlowTable, stats]

def name : Method → String
  | sendFrame => "SendFrame"
  | receiveFrames => "ReceiveFrames"
  | deviceInfo => "GetDeviceInfo"
  | updateFlowTable => "UpdateFlowTable"
  | stats => "GetStats"

def path (m : Method) : String := "/ponsim.PonSim/" ++ m.name

/-- The method that a target names; a query or a fragment behind its path does not matter. -/
def ofTarget? (target : String) : Option Method :=
  all.find? fun m => m.path.toList = target.toList.takeWhile fun c => c ≠ '?' && c ≠ '#'

end Method

/-! ### Bodies -/

/-- The longest message that is read if nothing else is said. -/
def defaultLimit : Nat := 4 * 1024 * 1024

def block (content : Bytes) : Bytes :=
  let n := content.length
  0 :: UInt8.ofNat (n / 0x1000000) :: UInt8.ofNat (n / 0x10000) :: UInt8.ofNat (n / 0x100) ::
    UInt8.ofNat n :: content

def blockLength (a b c d : UInt8) : Nat :=
  ((a.toNat * 256 + b.toNat) * 256 + c.toNat) * 256 + d.toNat

/--
The messages of a body, none longer than the limit. A header with which the body ends announces
nothing.
-/
def messages [Wire.Message α] (limit : Nat) : Bytes → Except Code (List α)
  | [] => .ok []
  | flag :: a :: b :: c :: d :: rest =>
    let length := blockLength a b c d
    if flag ≠ 0 then .error .internal
    else if limit < length then .error .outOfRange
    else if rest.length < length then
      if rest.isEmpty then .ok [] else .error .internal
    else
      match Wire.decode (rest.take length) with
      | none => .error .internal
      | some message => (messages limit (rest.drop length)).map (message :: ·)
  | _ => .error .internal
termination_by body => body.length
decreasing_by simp only [List.length_drop, List.length_cons]; omega

/-- The first message of a body; without one there is no request. -/
def request [Wire.Message α] (limit : Nat) (body : Bytes) : Except Code α := do
  match ← messages limit body with
  | [] => throw .internal
  | message :: _ => return message

/-- What a method does with a body. A stream is opened under the name that is given. -/
def operation (limit : Nat) (stream : String) (body : Bytes) : Method → Except Code Network.NodeOp
  | .sendFrame => (request limit body).map fun (e : Envelope) => .sendFrame e.payload
  | .receiveFrames => (request limit body).map fun () => .openStream stream
  | .deviceInfo => (request limit body).map fun () => .info
  | .updateFlowTable => (request limit body).map .dispatch
  | .stats => (request limit body).map fun () => .stats

/-! ### Replies -/

structure Reply where
  content : Bytes := []
  /-- None while the call goes on. -/
  code : Option Code
  deriving DecidableEq

def Reply.failed (code : Code) : Reply := { code := some code }

def Reply.one [Wire.Message α] (a : α) : Reply := ⟨block (Wire.encode a), some .ok⟩

/-- The reply that carries an answer; other answers than these belong to no method. -/
def replyOf : Network.Answer → Reply
  | .done => .one ()
  | .info info => .one info
  | .outcome _ => .one ()
  | .metrics metrics _ => .one metrics
  | _ => .failed .internal

/-- Reads a stream up to its end, or until nothing more comes of it; `reads` times at most. -/
def readStream (stream : String) : (reads : Nat) → Network → Traced (Reply × Network)
  | 0, w => return ({ code := none }, w)
  | reads + 1, w => do
    let (answer, w) ← w.step (.read stream)
    match answer with
    | some (.read (some (.item (.frame e)))) =>
      let (reply, w) ← readStream stream reads w
      return ({ reply with content := block (Wire.encode e) ++ reply.content }, w)
    | some (.read (some (.item (.status s)))) => return (.failed s.code, w)
    | some (.read (some .ended)) => return (.failed .ok, w)
    | _ => return ({ code := none }, w)

def waiting (w : Network) (node : String) : Nat :=
  match w.node? node with
  | none => 0
  | some n =>
    match n.device.machine with
    | .terminal t => t.queue.payloads.length
    | .subscriber _ => 0

def call (w : Network) (node stream : String) (limit : Nat) (target : String) (body : Bytes) :
    Traced (Reply × Network) := do
  match Method.ofTarget? target with
  | none => return (.failed .unimplemented, w)
  | some method =>
    match operation limit stream body method with
    | .error code => return (.failed code, w)
    | .ok op =>
      let reads := waiting w node + 2
      let (answer, w) ← w.step (.node node op)
      if method = .receiveFrames then readStream stream reads w
      else return (((answer.map replyOf).getD (.failed .internal)), w)

end OpticalAccess.Service
