import OpticalAccess.Device.Basic
import OpticalAccess.Remote.Connector
import OpticalAccess.Router.Fanout

/-!
# Routers

A router serves the calls of a controller or of a parent for one device. Flow tables go to the
device or to one child, requests for counters to every child. What becomes of them is logged; the
caller learns only that its request was taken.
-/

namespace OpticalAccess

structure Settings where
  /-- How many children may be asked for their counters at once. -/
  statsFanout : Nat := 4
  /-- The frames that a stream buffers. -/
  relayBuffer : Nat := 64
  deriving DecidableEq, Repr

namespace Router

/-! ### Frames -/

/-- Takes a frame of the controller; it is delivered apart from that. -/
def accept (d : Device) (frame : Frame) : Traced Unit :=
  Traced.emit (.frameReceived d.location frame.describe)

def deliver (d : Device) (frame : Frame) : Traced Device := do
  let (result, d) ← d.forward egressPort frame
  match result with
  | .ok () => Traced.emit (.frameForwarded d.location)
  | .error error => Traced.emit (.frameForwardFailed d.location error)
  return d

/-! ### Ports -/

def sortPorts (ports : List Int32) : List Int32 := ports.mergeSort fun a b => a ≤ b

/-- The ports of a device: those of its children, the uplink aside. -/
def info (d : Device) : DeviceInfo :=
  ⟨uplinkPort, sortPorts (d.childPorts.filter (· ≠ uplinkPort))⟩

def deviceInfo (d : Device) : Traced DeviceInfo := do
  Traced.emit (.deviceInfo d.location d.role (info d))
  return info d

/-! ### Flow tables -/

/-- Where a flow table belongs. -/
inductive Target where
  | device
  | child (location : Location)
  | unknown
  deriving DecidableEq, Repr

/-- A subscriber takes every table; a terminal takes those for its uplink and passes others on. -/
def target (d : Device) (port : Int32) : Target :=
  match d.role with
  | .subscriber => .device
  | .terminal =>
    if port = uplinkPort then .device
    else
      match d.childLocation? port with
      | some location => .child location
      | none => .unknown

def installed : Except DeviceError Unit → Outcome
  | .ok () => .applied
  | .error error => .rejected error.message

def forwarded : Except CallError α → Outcome
  | .ok _ => .applied
  | .error error => .targetUnreachable error.message

def convey (C : Connector ω) (d : Device) (table : FlowTable) (w : ω) :
    Traced (Outcome × Device × ω) := do
  match target d table.port with
  | .device =>
    let (result, d) ← d.install table.flows
    return (installed result, d, w)
  | .child location =>
    let (result, w) ← C.updateFlowTable location table w
    return (forwarded result, d, w)
  | .unknown => return (.targetUnknown, d, w)

/-- Brings a table to its target and logs what became of it. -/
def dispatch (C : Connector ω) (d : Device) (table : FlowTable) (w : ω) :
    Traced (Outcome × Device × ω) := do
  Traced.emit (.flowUpdateStarted d.location d.role table.port (FlowRule.idText table.flows))
  let (outcome, d, w) ← convey C d table w
  Traced.emit (.dispatched .flows d.location table.port outcome)
  Traced.emit (.flowUpdateDone d.location table.port outcome)
  return (outcome, d, w)

/-! ### Counters -/

/-- The children that are asked for their counters: the listed ports that have a location. -/
def statsCalls (d : Device) : List (Int32 × Location) :=
  d.childPorts.filterMap fun port => (d.childLocation? port).map (port, ·)

/-- Asks one child for its counters, which are logged and then left alone. -/
def askChild (C : Connector ω) (d : Device) (call : Int32 × Location) (w : ω) : Traced ω := do
  let (port, child) := call
  let (result, w) ← C.getStats child w
  match result with
  | .ok metrics =>
    Traced.emit (.childStatsReceived d.location child metrics)
    Traced.emit (.dispatched .stats d.location port .applied)
  | .error error =>
    Traced.emit (.dispatched .stats d.location port (.targetUnreachable error.message))
  return w

/--
Asks all children, in flight calls coming back as `order` says, and then answers the counters of the
device that `own` finds in the world; a subscriber asks nobody and answers no counters.
-/
def collectStats (C : Connector ω) (s : Settings) (order : Fanout (Int32 × Location) → Nat)
    (own : ω → Device) (w : ω) : Traced (Metrics × Nat × ω) := do
  let d := own w
  Traced.emit (.statsStarted d.location d.role)
  let (w, f) ← (Fanout.new s.statsFanout (statsCalls d)).run order (askChild C d) w
  let metrics := match d.role with
    | .terminal => (own w).metrics
    | .subscriber => Metrics.none
  Traced.emit (.statsDone d.location metrics)
  return (metrics, f.peak, w)

end Router
end OpticalAccess
