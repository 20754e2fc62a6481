import OpticalAccess.Network.Basic

/-!
# Operations on a network

What controllers, children and operators do to a network, one thing at a time. After each operation
everything that can move on does so.
-/

namespace OpticalAccess.Network

inductive NodeOp where
  | sendFrame (payload : Bytes)
  | forward (port : Int32) (payload : Bytes)
  | install (flows : List FlowRule)
  | inject (port : Int32) (payload : Bytes)
  | closeIngress
  | info
  | dispatch (table : FlowTable)
  | stats
  | metrics
  | identity
  | openStream (stream : String)

inductive Op where
  | node (name : String) (op : NodeOp)
  | read (stream : String)
  | drop (stream : String)
  | reach (host : String) (reach : Reach)

inductive Answer where
  | done
  | device (result : Except DeviceError Unit)
  | unsupported
  | capacity
  | info (info : DeviceInfo)
  | outcome (outcome : Outcome)
  /-- Counters, and the most calls that were in flight at once. -/
  | metrics (metrics : Metrics) (peak : Nat)
  | identity (role : Role) (location : Location)
  /-- None if there is no such stream. -/
  | read (result : Option Stream.Read)
  | dropped (found : Bool)

def sessionAt? (w : Network) (name : String) (call : Nat) : Option Session :=
  (w.node? name).bind fun n => n.sessions.find? (·.call = call)

/-- The session behind the name of a stream, and its node. -/
def session? (w : Network) (stream : String) : Option (String × Session) :=
  (w.streams.lookup stream).bind fun (name, call) => (w.sessionAt? name call).map (name, ·)

def setSession (w : Network) (name : String) (session : Session) : Network :=
  w.modify name fun n =>
    { n with sessions := n.sessions.map fun s => if s.call = session.call then session else s }

def leave (w : Network) (name : String) (session : Session) : Traced Network :=
  (w.setSession name { session with stream := session.stream.drop }).settle name

/-- Opens a stream; an older one of the same name is dropped once the new relay has started. -/
def openStream (w : Network) (node : Node) (stream : String) : Traced Network := do
  let older := w.streams.lookup stream
  let session ← Session.start node.device w.opened node.settings.relayBuffer
  let streams := (stream, node.name, w.opened) :: w.streams.filter (·.1 ≠ stream)
  let w := { w with streams, opened := w.opened + 1 }
  let w := w.modify node.name fun n => { n with sessions := n.sessions ++ [session] }
  let w ← w.settle node.name
  match older.bind fun (name, call) => (w.sessionAt? name call).map (name, ·) with
  | some (name, session) => w.leave name session
  | none => return w

/-- Most calls in flight as far as they are seen: connections leave none at work. -/
def seenPeak (w : Network) (peak : Nat) : Nat :=
  match w.links with
  | .direct => peak
  | .dialled _ => 0

def nodeStep (w : Network) (n : Node) : NodeOp → Traced (Answer × Network)
  | .sendFrame payload => do
    Router.accept n.device ⟨payload⟩
    return (.done, w.setDevice n.name (← Router.deliver n.device ⟨payload⟩))
  | .forward port payload => do
    let (result, device) ← n.device.forward port ⟨payload⟩
    return (.device result, w.setDevice n.name device)
  | .install flows => do
    let (result, device) ← n.device.install flows
    return (.device result, w.setDevice n.name device)
  | .inject port payload => do
    if n.closed then return (.unsupported, w)
    match n.device.machine with
    | .subscriber _ => return (.unsupported, w)
    | .terminal t =>
      let (result, t) ← t.forward port ⟨payload⟩
      return (.device result, w.setDevice n.name { n.device with machine := .terminal t })
  | .closeIngress => do
    if n.closed then return (.unsupported, w)
    match n.device.machine with
    | .subscriber _ => return (.unsupported, w)
    | .terminal t =>
      return (.done, w.setDevice n.name { n.device with machine := .terminal t.closeIngress })
  | .info => return (.info (← Router.deviceInfo n.device), w)
  | .dispatch table => do
    let (outcome, w) ← serveFlows (w.connectorOf n.name) n table w
    return (.outcome outcome, w)
  | .stats => do
    let (metrics, peak, w) ← serveStats (w.connectorOf n.name) n inOrder w
    return (.metrics metrics (w.seenPeak peak), w)
  | .metrics => return (.metrics n.device.metrics 0, w)
  | .identity => return (.identity n.device.role n.device.location, w)
  | .openStream stream => do
    if IngressQueue.validCapacity (max 1 n.settings.relayBuffer) then
      return (.done, ← w.openStream n stream)
    else return (.capacity, w)

/-- One operation. None if there is no such node. -/
def step (w : Network) : Op → Traced (Option Answer × Network)
  | .node name op => do
    match w.node? name with
    | none => return (none, w)
    | some n =>
      let (answer, w) ← w.nodeStep n op
      return (some answer, ← w.settle name)
  | .read stream => do
    match w.session? stream with
    | none => return (some (.read none), w)
    | some (name, session) =>
      let (result, stream) := session.stream.read
      let w ← (w.setSession name { session with stream }).settle name
      return (some (.read (some result)), w)
  | .drop stream => do
    match w.session? stream with
    | none => return (some (.dropped false), w)
    | some (name, session) =>
      let w := { w with streams := w.streams.filter (·.1 ≠ stream) }
      return (some (.dropped true), ← w.leave name session)
  | .reach host reach => return (some .done, w.setReach host reach)

end OpticalAccess.Network
