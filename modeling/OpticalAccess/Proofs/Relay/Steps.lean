import OpticalAccess.Proofs.Logging.Basic
import OpticalAccess.Relay.Sinks

/-!
# The steps of a relay that is alone

A relay that nobody else disturbs goes its way step by step, until it has ended or has to wait. What
it logs on the way is known outright, and so is every state that it comes through.
-/

namespace OpticalAccess.Relay

variable {ρ σ : Type}

/-! ### Attempts -/

/-- The payload that a relay holds: it is off the queue and not yet written. -/
def Phase.held : Phase → List Bytes
  | holding payload => [payload]
  | _ => []

/-- The writes that a relay attempts in the states that it comes through. -/
def attempts (device : String) (states : List (State ρ σ)) : List Envelope :=
  (states.flatMap fun s => s.phase.held).map (Envelope.mk device)

theorem attempts_cons (device : String) (s : State ρ σ) (states : List (State ρ σ)) :
    attempts device (s :: states) =
      s.phase.held.map (Envelope.mk device) ++ attempts device states :=
  List.map_append

variable [DecidableEq ρ]

/-! ### Single steps -/

theorem begin_terminal (device : Location) :
    begin .terminal device = .ofEvents [.relayStarted device.address] .ready :=
  Traced.emit_pure _ _

theorem begin_subscriber (device : Location) :
    begin .subscriber device = .ofEvents [.relayNotTerminal device] (.ended (.ok ())) :=
  Traced.emit_pure _ _

section Steps
variable (device : String) {S : Sink σ} (call : ρ) {capacity : Nat} {sink : σ} {isOpen : Bool}

theorem step_leave {queue : IngressQueue ρ} (closed : S.closed sink = true) :
    step device S call ⟨queue, sink, .ready⟩ =
      .ofEvents [.relayStreamClosed device]
        (some ⟨queue, sink, .ended (.error .streamClosed)⟩) := by
  simp only [step, closed, ↓reduceIte, leave, Traced.emit_pure, Traced.ofEvents_pure]

theorem step_take (listening : S.closed sink = false) (payload : Bytes) (rest : List Bytes) :
    step device S call ⟨⟨capacity, payload :: rest, isOpen, []⟩, sink, .ready⟩ =
      .ofEvents [.relayReceived device (Frame.describe ⟨payload⟩)]
        (some ⟨⟨capacity, rest, isOpen, []⟩, sink, .holding payload⟩) := by
  simp only [step, listening, Bool.false_eq_true, ↓reduceIte, IngressQueue.start, IngressQueue.poll,
    List.nil_append, receive, Traced.emit_pure, Traced.ofEvents_pure]

theorem step_finish (listening : S.closed sink = false) :
    step device S call ⟨⟨capacity, [], false, []⟩, sink, .ready⟩ =
      .ofEvents [.relaySourceClosed device]
        (some ⟨⟨capacity, [], false, []⟩, sink, .ended (.error .sourceClosed)⟩) := by
  simp only [step, listening, Bool.false_eq_true, ↓reduceIte, IngressQueue.start, IngressQueue.poll,
    List.nil_append, receive, Traced.emit_pure, Traced.ofEvents_pure]

theorem step_wait (listening : S.closed sink = false) :
    step device S call ⟨⟨capacity, [], true, []⟩, sink, .ready⟩ =
      .ofEvents [] (some ⟨⟨capacity, [], true, [call]⟩, sink, .waiting⟩) := by
  simp only [step, listening, Bool.false_eq_true, ↓reduceIte, IngressQueue.start, IngressQueue.poll,
    List.nil_append, receive]
  rfl

theorem step_waiting (listening : S.closed sink = false) :
    step device S call ⟨⟨capacity, [], true, [call]⟩, sink, .waiting⟩ = .ofEvents [] none := by
  simp only [step, listening, Bool.false_eq_true, ↓reduceIte, IngressQueue.poll]
  rfl

theorem step_pass {queue : IngressQueue ρ} {payload : Bytes} {after : σ}
    (accepted : S.write ⟨device, payload⟩ sink = .accepted after) :
    step device S call ⟨queue, sink, .holding payload⟩ =
      .ofEvents [.relaySent device (Frame.describe ⟨payload⟩)] (some ⟨queue, after, .ready⟩) := by
  simp only [step, accepted, Traced.emit_pure]

theorem step_fail {queue : IngressQueue ρ} {payload : Bytes} {error : RelayError}
    (refused : S.write ⟨device, payload⟩ sink = .refused error) :
    step device S call ⟨queue, sink, .holding payload⟩ =
      .ofEvents [.relaySendFailed device error] (some ⟨queue, sink, .ended (.error error)⟩) := by
  simp only [step, refused, Traced.emit_pure]

theorem step_ended (queue : IngressQueue ρ) (result : Except RelayError Unit) :
    step device S call ⟨queue, sink, .ended result⟩ = .ofEvents [] none := rfl

end Steps

/-! ### Ways -/

/--
The way of a relay from a state until it cannot move: what it logs, the states that it comes through
and the last of them.
-/
inductive Way (device : String) (S : Sink σ) (call : ρ) :
    State ρ σ → List Event → List (State ρ σ) → State ρ σ → Prop where
  | stop {s : State ρ σ} (stuck : step device S call s = .ofEvents [] none) :
      Way device S call s [] [s] s
  | go {s next last : State ρ σ} {now later : List Event} {states : List (State ρ σ)}
      (moved : step device S call s = .ofEvents now (some next))
      (way : Way device S call next later states last) :
      Way device S call s (now ++ later) (s :: states) last

variable {device : String} {S : Sink σ} {call : ρ} {s last : State ρ σ} {log : List Event}
  {states : List (State ρ σ)}

/-- At the end of its way a relay has ended or has to wait. -/
theorem Way.stuck (way : Way device S call s log states last) :
    step device S call last = .ofEvents [] none := by
  induction way with
  | stop stuck => exact stuck
  | go _ _ ih => exact ih

/-- A relay that runs for long enough goes its whole way. -/
theorem Way.runWithin (way : Way device S call s log states last) {fuel : Nat}
    (enough : states.length ≤ fuel) : runWithin device S call fuel s = .ofEvents log last := by
  induction way generalizing fuel with
  | stop stuck =>
    cases fuel with
    | zero => cases enough
    | succ fuel =>
      rw [Relay.runWithin, stuck]
      rfl
  | go moved way ih =>
    cases fuel with
    | zero => cases enough
    | succ fuel =>
      rw [Relay.runWithin, moved]
      exact Traced.ofEvents_bind (ih (Nat.le_of_succ_le_succ enough))

theorem Way.run (way : Way device S call s log states last)
    (enough : states.length ≤ bound s.queue) : run device S call s = .ofEvents log last :=
  way.runWithin enough

end OpticalAccess.Relay
