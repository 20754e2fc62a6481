import OpticalAccess.Device.Basic
import OpticalAccess.Relay.Sinks

/-!
# Streaming sessions

A session is a stream to a controller with the relay that feeds it. When the relay ends with an
error, the controller is told by a status at the end of the stream.
-/

namespace OpticalAccess

structure Session where
  call : Nat
  phase : Relay.Phase
  stream : Stream

namespace Session

/-- Opens a stream on a device; its relay has not moved yet. -/
def start (d : Device) (call buffer : Nat) : Traced Session := do
  return ⟨call, ← Relay.begin d.role d.location, { capacity := max 1 buffer }⟩

/-- Ends the stream of a relay that has ended, once there is room for a status. -/
def report (s : Session) : Session :=
  match s.phase with
  | .ended (.ok ()) => { s with stream := s.stream.finish }
  | .ended (.error error) =>
    match s.stream.write (.status error.status) with
    | (.full, _) => s
    | (_, stream) => { s with stream := stream.finish }
  | _ => s

def advance (s : Session) (d : Device) : Traced (Session × Device) := do
  if !s.stream.writing then return (s, d)
  match d.machine with
  | .subscriber _ => return (s.report, d)
  | .terminal t =>
    let after ←
      Relay.run t.location.address Relay.streamSink s.call ⟨t.queue, s.stream, s.phase⟩
    let d := { d with machine := .terminal { t with queue := after.queue } }
    return ({ s with phase := after.phase, stream := after.sink }.report, d)

def isLive (s : Session) : Bool := s.stream.writing || s.stream.reading

/-- Lets every session run once, in order. -/
def advanceAll : List Session → Device → Traced (List Session × Device)
  | [], d => return ([], d)
  | s :: rest, d => do
    let (s, d) ← s.advance d
    let (rest, d) ← advanceAll rest d
    return (s :: rest, d)

/-- Lets sessions run `rounds` times. -/
def settleWithin : (rounds : Nat) → List Session → Device → Traced (List Session × Device)
  | 0, sessions, d => return (sessions, d)
  | rounds + 1, sessions, d => do
    let (sessions, d) ← advanceAll sessions d
    settleWithin rounds sessions d

/--
Lets sessions run until all have to wait. In each round the first in the queue's line gets its turn,
so that as many rounds as there are sessions are enough.
-/
def settle (sessions : List Session) (d : Device) : Traced (List Session × Device) := do
  let (sessions, d) ← settleWithin (sessions.length + 1) sessions d
  return (sessions.filter isLive, d)

end Session
end OpticalAccess
