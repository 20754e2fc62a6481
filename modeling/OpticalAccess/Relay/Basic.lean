import OpticalAccess.IngressQueue.Basic
import OpticalAccess.Log.Traced

/-!
# Relays

A relay moves frames from the ingress queue of a terminal to a sink, one at a time. Before each
frame it looks whether the sink is closed. A relay that has begun on a terminal ends with an error
only; one on a subscriber has nothing to do.
-/

namespace OpticalAccess.Relay

/-- What becomes of a frame that is written to a sink in state `σ`. -/
inductive Write (σ : Type) where
  | accepted (sink : σ)
  | refused (error : RelayError)
  | blocked

structure Sink (σ : Type) where
  /-- Whether no further write can succeed. -/
  closed : σ → Bool
  write : Envelope → σ → Write σ

inductive Phase where
  /-- About to ask for a frame. -/
  | ready
  /-- In the queue's line. -/
  | waiting
  /-- Holds a frame that is not yet written. -/
  | holding (payload : Bytes)
  | ended (result : Except RelayError Unit)

structure State (ρ σ : Type) where
  queue : IngressQueue ρ
  sink : σ
  phase : Phase

variable {ρ σ : Type} [DecidableEq ρ]

/-- The phase in which a relay begins, and what it logs. -/
def begin (role : Role) (device : Location) : Traced Phase := do
  match role with
  | .terminal =>
    Traced.emit (.relayStarted device.address)
    return .ready
  | .subscriber =>
    Traced.emit (.relayNotTerminal device)
    return .ended (.ok ())

/-- Takes up what the queue answered. -/
def receive (device : String) (sink : σ) :
    IngressQueue.Answer × IngressQueue ρ → Traced (State ρ σ)
  | (.payload payload, queue) => do
    Traced.emit (.relayReceived device (Frame.describe ⟨payload⟩))
    return ⟨queue, sink, .holding payload⟩
  | (.closed, queue) => do
    Traced.emit (.relaySourceClosed device)
    return ⟨queue, sink, .ended (.error .sourceClosed)⟩
  | (.pending, queue) => return ⟨queue, sink, .waiting⟩

def leave (device : String) (queue : IngressQueue ρ) (sink : σ) : Traced (State ρ σ) := do
  Traced.emit (.relayStreamClosed device)
  return ⟨queue, sink, .ended (.error .streamClosed)⟩

/-- One step of the relay behind `call`; none if it has to wait or has ended. -/
def step (device : String) (S : Sink σ) (call : ρ) (s : State ρ σ) :
    Traced (Option (State ρ σ)) := do
  match s.phase with
  | .ready =>
    if S.closed s.sink then return some (← leave device s.queue s.sink)
    return some (← receive device s.sink (s.queue.start call))
  | .waiting =>
    if S.closed s.sink then return some (← leave device (s.queue.cancel call) s.sink)
    match s.queue.poll call with
    | (.pending, _) => return none
    | answer => return some (← receive device s.sink answer)
  | .holding payload =>
    match S.write ⟨device, payload⟩ s.sink with
    | .accepted sink =>
      Traced.emit (.relaySent device (Frame.describe ⟨payload⟩))
      return some { s with sink, phase := .ready }
    | .refused error =>
      Traced.emit (.relaySendFailed device error)
      return some { s with phase := .ended (.error error) }
    | .blocked => return none
  | .ended _ => return none

/-- Steps until the relay has to wait or has ended, `fuel` times at most. -/
def runWithin (device : String) (S : Sink σ) (call : ρ) :
    (fuel : Nat) → State ρ σ → Traced (State ρ σ)
  | 0, s => return s
  | fuel + 1, s => do
    match ← step device S call s with
    | none => return s
    | some s => runWithin device S call fuel s

/-- Enough steps for every frame in the queue, one in hand and the end. -/
def bound (queue : IngressQueue ρ) : Nat := 2 * queue.payloads.length + 4

/-- Runs a relay until it has to wait or has ended. -/
def run (device : String) (S : Sink σ) (call : ρ) (s : State ρ σ) : Traced (State ρ σ) :=
  runWithin device S call (bound s.queue) s

end OpticalAccess.Relay
