import OpticalAccess.Relay.Basic
import OpticalAccess.Stream

/-!
# Sinks

A relay writes to a stream. A scripted sink stands for a consumer that is known beforehand: it
refuses the write with a given number, and it closes once it has a given number of frames.
-/

namespace OpticalAccess.Relay

def streamSink : Sink Stream where
  closed s := !s.reading
  write e s :=
    match s.write (.frame e) with
    | (.accepted, s) => .accepted s
    | (.full, _) => .blocked
    | (.closed, _) => .refused .streamClosed

structure Script where
  /-- The write that fails, counted from zero, and the reason. -/
  failure : Option (Nat × String) := none
  closeAfter : Option Nat := none
  written : List Envelope := []

def scriptSink : Sink Script where
  closed s := s.closeAfter.any (· ≤ s.written.length)
  write e s :=
    let accepted : Write Script := .accepted { s with written := s.written ++ [e] }
    match s.failure with
    | some (index, reason) =>
      if s.written.length = index then .refused (.streamWrite reason) else accepted
    | none => accepted

/-- The queue of a device that holds some payloads; a subscriber has an empty one. -/
def queueOf (role : Role) (payloads : List Bytes) (isOpen : Bool) : IngressQueue Unit :=
  match role with
  | .terminal => ⟨max 1 payloads.length, payloads, isOpen, []⟩
  | .subscriber => .empty 1

/-- Runs a relay on a device of the given role, alone, over payloads that are in its queue. -/
def overPayloads (role : Role) (device : Location) (S : Sink σ) (sink : σ)
    (payloads : List Bytes) (isOpen : Bool) : Traced (State Unit σ) := do
  run device.address S () ⟨queueOf role payloads isOpen, sink, ← begin role device⟩

end OpticalAccess.Relay
