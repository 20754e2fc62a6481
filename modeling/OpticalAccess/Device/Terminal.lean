import OpticalAccess.IngressQueue.Basic
import OpticalAccess.Log.Traced
import OpticalAccess.Registry

/-!
# The simulated terminal

Frames from the controller enter on the egress port and leave towards the children. Frames from the
port of a child are counted the other way round and queued for the controller. A forward has steps
of its own, between which other work on the terminal may happen.
-/

namespace OpticalAccess

structure Terminal where
  location : Location
  registry : Registry
  flows : List FlowRule := []
  counters : Counters := {}
  queue : IngressQueue Nat

/-- A forward, by what is left to do. -/
inductive Forward where
  | begun (port : Int32) (frame : Frame)
  /-- Counted on the side of the children, and not yet queued. -/
  | queueing (port : Int32) (frame : Frame)
  /-- Queued, and not yet counted on the side of the controller. -/
  | counting (length : Nat)
  | done (result : Except DeviceError Unit)

/-- What a forward answers; one that is not done has not failed. -/
def Forward.result : Forward → Except DeviceError Unit
  | done result => result
  | _ => .ok ()

namespace Terminal

/-- A terminal whose queue has room for at least one frame. -/
def new (location : Location) (registry : Registry) (queueSize : Nat) : Terminal where
  location
  registry
  queue := .empty (max 1 queueSize)

/--
One step of a forward. The first one logs the frame and counts it besides: in between nothing is
looked at that others could change, and what they count meanwhile adds up in any order.
-/
def step (t : Terminal) : Forward → Traced (Forward × Terminal)
  | .begun port frame => do
    Traced.emit (.forwarding .terminal t.location port frame.describe)
    if port = egressPort then
      let counters := (t.counters.count .nni .rx frame.length).count .pon .tx frame.length
      return (.done (.ok ()), { t with counters })
    match t.registry.find? port with
    | none => return (.done (.error (.portNotFound port)), t)
    | some _ =>
      return (.queueing port frame, { t with counters := t.counters.count .pon .rx frame.length })
  | .queueing port frame => do
    match t.queue.offer frame.payload with
    | (.accepted, queue) => return (.counting frame.length, { t with queue })
    | (.full, _) =>
      Traced.emit (.ingressDropped t.location port)
      return (.done (.error .queueFull), t)
    | (.closed, _) => return (.done (.error .channelClosed), t)
  | .counting length =>
    return (.done (.ok ()), { t with counters := t.counters.count .nni .tx length })
  | .done result => return (.done result, t)

/-- A forward from its beginning to its end. -/
def forward (t : Terminal) (port : Int32) (frame : Frame) :
    Traced (Except DeviceError Unit × Terminal) := do
  let (f, t) ← t.step (.begun port frame)
  let (f, t) ← t.step f
  let (f, t) ← t.step f
  return (f.result, t)

def install (t : Terminal) (flows : List FlowRule) : Traced Terminal := do
  Traced.emit (.flowsInstalled .terminal t.location flows.length)
  return { t with flows }

/-- No more frames come from the children. -/
def closeIngress (t : Terminal) : Terminal := { t with queue := t.queue.close }

def metrics (t : Terminal) : Metrics := t.counters.metrics t.location.address

end Terminal
end OpticalAccess
