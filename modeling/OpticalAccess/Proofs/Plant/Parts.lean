import OpticalAccess.Proofs.Headend.Counting
import OpticalAccess.Proofs.Logging.Relays

/-!
# Work in parts

A router and a device do their work without a break only as far as the next point at which they may
have to wait. Here the work is cut at these points. Each piece of work is, done part by part and
with nothing in between, what it is as a whole.
-/

namespace OpticalAccess

/-! ### Forwards on a device -/

/-- What a subscriber does with a frame besides logging it. -/
def Subscriber.enter (s : Subscriber) (port : Int32) (frame : Frame) : Subscriber :=
  { s with counters := s.counters.count (sideOf port) .rx frame.length }

namespace Device

/--
A forward that is called, with what it is called with. It is logged at once, and waits for the
counters afterwards; if forwarding is out of order, it fails before.
-/
def call (d : Device) (port : Int32) (frame : Frame) : Traced Passage := do
  match d.forwardFault with
  | some fault => return ⟨port, frame, .done (.error fault)⟩
  | none =>
    Traced.emit (.forwarding d.role d.location port frame.describe)
    return ⟨port, frame, .begun port frame⟩

/-- One step of a forward that has been logged. On a subscriber there is only one. -/
def stepForward (d : Device) (f : Forward) : Traced (Forward × Device) := do
  match d.machine, f with
  | .terminal t, .begun port frame =>
    let (next, t) := t.enter port frame
    return (next, { d with machine := .terminal t })
  | .terminal t, f =>
    let (next, t) ← t.step f
    return (next, { d with machine := .terminal t })
  | .subscriber s, .begun port frame =>
    return (.done (.ok ()), { d with machine := .subscriber (s.enter port frame) })
  | .subscriber _, f => return (f, d)

theorem stepForward_done (d : Device) (result : Except DeviceError Unit) :
    d.stepForward (.done result) = pure (.done result, d) := by
  obtain ⟨machine, forwardFault, installFault, view?⟩ := d
  cases machine <;> rfl

/-- Apart from the log, a forward on a terminal is stepped as the terminal steps it. -/
theorem stepForward_terminal (t : Terminal) (f : Forward)
    (forwardFault installFault : Option DeviceError) (view? : Option ChildView) (v : Verbosity) :
    (stepForward ⟨.terminal t, forwardFault, installFault, view?⟩ f).value v =
      (((t.step f).value v).1,
        ⟨.terminal ((t.step f).value v).2, forwardFault, installFault, view?⟩) := by
  cases f with
  | begun port frame =>
    rw [Terminal.step_begun]
    rfl
  | _ => rfl

/-- A forward is called and takes three steps at most. -/
theorem forward_parts (d : Device) (port : Int32) (frame : Frame) :
    d.forward port frame = do
      let passage ← d.call port frame
      let (f, d) ← d.stepForward passage.forward
      let (f, d) ← d.stepForward f
      let (f, d) ← d.stepForward f
      return (f.result, d) := by
  obtain ⟨machine, forwardFault, installFault, view?⟩ := d
  cases forwardFault with
  | some fault => simp [forward, call, stepForward_done, Forward.result]
  | none =>
    cases machine with
    | terminal t =>
      simp only [forward, call, Terminal.forward, Terminal.step_begun, role, location, bind_assoc,
        pure_bind]
      refine bind_congr fun _ => ?_
      simp only [stepForward, Terminal.enter, pure_bind]
      split
      · rfl
      · cases t.registry.find? port with
        | none => rfl
        | some child =>
          simp only [Terminal.step]
          cases offered : t.queue.offer frame.payload with
          | mk answer queue => cases answer <;> simp
    | subscriber s => simp [forward, call, stepForward, Forward.result, Subscriber.forward,
        Subscriber.enter, role, location]

end Device

/-! ### Frames of the controller -/

/-- How far the task is that delivers a frame of the controller. -/
inductive Delivery where
  /-- The task has not run yet. -/
  | waiting
  /-- A forward is called, and is as far as this. -/
  | forwarding (passage : Passage)
  /-- What became of the frame is logged. -/
  | ended (result : Except DeviceError Unit)

namespace Router

/-- Logs what became of a frame of the controller. -/
def delivered (d : Device) : Except DeviceError Unit → Traced Unit
  | .ok () => Traced.emit (.frameForwarded d.location)
  | .error error => Traced.emit (.frameForwardFailed d.location error)

/-- One step of the task that delivers a frame. -/
def stepDelivery (d : Device) (frame : Frame) : Delivery → Traced (Delivery × Device)
  | .waiting => return (.forwarding (← d.call egressPort frame), d)
  | .forwarding ⟨port, carried, forward⟩ => do
    match forward with
    | .done result =>
      delivered d result
      return (.ended result, d)
    | forward =>
      let (forward, d) ← d.stepForward forward
      return (.forwarding ⟨port, carried, forward⟩, d)
  | .ended result => return (.ended result, d)

theorem deliver_parts (d : Device) (frame : Frame) :
    deliver d frame = do
      let (stage, d) ← stepDelivery d frame .waiting
      let (stage, d) ← stepDelivery d frame stage
      let (_, d) ← stepDelivery d frame stage
      return d := by
  obtain ⟨machine, forwardFault, installFault, view?⟩ := d
  cases forwardFault with
  | some fault => simp [deliver, stepDelivery, Device.forward, Device.call, delivered]
  | none =>
    cases machine with
    | terminal t =>
      simp [deliver, stepDelivery, Device.forward, Device.call, Device.stepForward, delivered,
        Terminal.forward, Terminal.step, Terminal.enter, Forward.result, Device.role,
        Device.location]
    | subscriber s =>
      simp [deliver, stepDelivery, Device.forward, Device.call, Device.stepForward, delivered,
        Subscriber.forward, Subscriber.enter, Device.role, Device.location]

/-! ### Requests -/

def dispatchBegun (d : Device) (table : FlowTable) : Traced Unit :=
  Traced.emit (.flowUpdateStarted d.location d.role table.port (FlowRule.idText table.flows))

/-- Logs what became of a flow table. -/
def dispatchEnded (d : Device) (port : Int32) (outcome : Outcome) : Traced Unit := do
  Traced.emit (.dispatched .flows d.location port outcome)
  Traced.emit (.flowUpdateDone d.location port outcome)

theorem dispatch_parts (C : Connector ω) (d : Device) (table : FlowTable) (w : ω) :
    dispatch C d table w = do
      dispatchBegun d table
      let (outcome, d, w) ← convey C d table w
      dispatchEnded d table.port outcome
      return (outcome, d, w) := by
  simp [dispatch, dispatchBegun, dispatchEnded]

/-- Logs what a child answered to a request for counters. -/
def childAnswered (d : Device) (port : Int32) (child : Location) :
    Except CallError Metrics → Traced Unit
  | .ok metrics => do
    Traced.emit (.childStatsReceived d.location child metrics)
    Traced.emit (.dispatched .stats d.location port .applied)
  | .error error =>
    Traced.emit (.dispatched .stats d.location port (.targetUnreachable error.message))

theorem askChild_parts (C : Connector ω) (d : Device) (call : Int32 × Location) (w : ω) :
    askChild C d call w = do
      let (result, w) ← C.getStats call.2 w
      childAnswered d call.1 call.2 result
      return w := by
  unfold askChild
  refine bind_congr fun answer => ?_
  obtain ⟨result, w⟩ := answer
  cases result <;> simp [childAnswered]

/-- The counters that a router answers: a subscriber shows none. -/
def shownMetrics (d : Device) : Metrics :=
  match d.role with
  | .terminal => d.metrics
  | .subscriber => Metrics.none

end Router

/-! ### Calls to children -/

namespace Links

/-- What a call logs before it is on its way, and the error if it does not get that far. -/
def opening (links : Links) (child : Location) : Traced (Option CallError) := do
  match links with
  | .direct => return none
  | .dialled dialer =>
    Traced.emit (.connectStarted child.host dialer.tls.isSome)
    return (dialer.endpointFault? child).map (.invalidEndpoint child.host)

/-- What a call logs when it has failed. -/
def failing (links : Links) (request : Request) (child : Location) (error : CallError) :
    Traced Unit := do
  match links with
  | .direct => return ()
  | .dialled _ =>
    match error with
    | .connect host fault => Traced.emit (.connectFailed host fault)
    | _ => pure ()
    Traced.emit (.callFailed request child.host error)

end Links

namespace Dialer

/-- What is behind an address answers, or fails the call. -/
def answered (d : Dialer) (location : Location) (w : ω) :
    Peer ω α → Traced (Except CallError α × ω)
  | .absent => return (.error (.connect location.host .transport), w)
  | .silent => return (.error (.timeout location.host (1000 * d.callTimeoutMs)), w)
  | .serving answer => do
    let (result, w) ← answer w
    return (result.mapError (.rpc location.host), w)

/-- A call, put together from what it does before, at and after its peer. -/
def callInParts (d : Dialer) (request : Request) (location : Location) (peer : Peer ω α) (w : ω) :
    Traced (Except CallError α × ω) := do
  let links := Links.dialled d
  let (result, w) ← match ← links.opening location with
    | some error => pure (.error error, w)
    | none => d.answered location w peer
  match result with
  | .ok value => return (.ok value, w)
  | .error error =>
    links.failing request location error
    return (.error error, w)

theorem call_parts (d : Dialer) (request : Request) (location : Location) (peer : Peer ω α)
    (w : ω) : d.call request location peer w = d.callInParts request location peer w := by
  unfold call callInParts attempt Links.opening
  cases fault : d.endpointFault? location with
  | some fault => simp [fault, Links.failing]
  | none =>
    cases peer with
    | absent => simp [fault, answered, Links.failing]
    | silent => simp [fault, answered, Links.failing]
    | serving answer =>
      simp only [fault, answered, bind_assoc, pure_bind, Option.map_none]
      refine bind_congr fun _ => bind_congr fun answer => ?_
      obtain ⟨result, w⟩ := answer
      cases result <;> rfl

end Dialer
end OpticalAccess
