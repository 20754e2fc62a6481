import OpticalAccess.Proofs.Headend.Steps
import OpticalAccess.Proofs.Provisioning

/-!
# Frames from children

A frame from the port of a child is counted on the side of the children and queued for the
controller. The egress port is not kept free of children, though: behind it, frames of a child are
taken for frames of the controller. They are acknowledged, and no controller is offered them.
-/

namespace OpticalAccess

namespace Terminal

/-- What a terminal makes of a frame from a child: it queues it, or it has no place for it. -/
inductive Ingress (t : Terminal) (frame : Frame) : Except DeviceError Unit × Terminal → Prop where
  | queued (producer : t.queue.isOpen = true) (room : t.queue.payloads.length < t.queue.capacity) :
      Ingress t frame (.ok (), { t with
        counters := (t.counters.count .pon .rx frame.length).count .nni .tx frame.length
        queue := { t.queue with payloads := t.queue.payloads ++ [frame.payload] } })
  | unavailable (reason : String)
      (blocked : t.queue.isOpen = false ∨ t.queue.capacity ≤ t.queue.payloads.length) :
      Ingress t frame (.error (.unavailable reason), { t with
        counters := t.counters.count .pon .rx frame.length })

/-- What a terminal makes of a frame from the controller: it is through with it at once. -/
def sent (t : Terminal) (frame : Frame) : Except DeviceError Unit × Terminal :=
  (.ok (), { t with
    counters := (t.counters.count .nni .rx frame.length).count .pon .tx frame.length })

theorem Ingress.offered {t after : Terminal} {frame : Frame} (h : Ingress t frame (.ok (), after)) :
    after.queue.payloads = t.queue.payloads ++ [frame.payload] := by
  cases h
  rfl

theorem not_ingress_sent (t : Terminal) (frame : Frame) : ¬ Ingress t frame (t.sent frame) := by
  intro ingress
  have longer := congrArg List.length ingress.offered
  simp at longer

theorem forward_egress (t : Terminal) (frame : Frame) (v : Verbosity) :
    (t.forward egressPort frame).value v = t.sent frame := by
  simp [forward, step, Forward.result, sent]

theorem forward_ingress {t : Terminal} {port : Int32} {child : Location}
    (found : t.registry.find? port = some child) (apart : port ≠ egressPort) (frame : Frame)
    (v : Verbosity) : Ingress t frame ((t.forward port frame).value v) := by
  have offered := t.queue.offer_offered frame.payload
  cases outcome : t.queue.offer frame.payload with
  | mk offer queue =>
    rw [outcome] at offered
    cases offered with
    | accepted producer room =>
      have queued : Ingress t frame _ := .queued producer room
      simpa [forward, step, apart, found, outcome, Forward.result] using queued
    | full _ full =>
      have dropped : Ingress t frame _ := .unavailable "outgoing queue full" (.inr full)
      simpa [forward, step, apart, found, outcome, Forward.result, DeviceError.queueFull]
        using dropped
    | closed gone =>
      have refused : Ingress t frame _ := .unavailable "outgoing channel closed" (.inl gone)
      simpa [forward, step, apart, found, outcome, Forward.result, DeviceError.channelClosed]
        using refused

theorem step_registry (t : Terminal) (f : Forward) (v : Verbosity) :
    ((t.step f).value v).2.registry = t.registry := by
  have goes := t.step_goes f v
  generalize (t.step f).value v = outcome at goes
  obtain ⟨next, after⟩ := outcome
  cases goes <;> rfl

end Terminal

namespace Headend

theorem step_registry (v : Verbosity) (h : Headend) (act : Act) :
    (h.step v act).1.terminal.registry = h.terminal.registry := by
  cases act with
  | arrive | closeIngress => rfl
  | install flows => simp [step, Terminal.install]
  | forward index =>
    cases found : h.forwards[index]? with
    | none => simp only [step, found]
    | some f =>
      simp only [step, found]
      exact h.terminal.step_registry f v
  | openStream =>
    simp only [step]
    split <;> rfl
  | session index m =>
    cases found : h.sessions[index]? with
    | none => simp only [step, found]
    | some s => simp only [step, found]

theorem run_registry (v : Verbosity) (h : Headend) (acts : List Act) :
    (h.run v acts).1.terminal.registry = h.terminal.registry := by
  induction acts generalizing h with
  | nil => rfl
  | cons act rest ih => exact (ih (h.step v act).1).trans (step_registry v h act)

/--
A frame from the port of a provisioned child is handled as one from a child exactly if this port is
not the egress port. From there it is acknowledged like a frame of the controller, and the queue
does not get it. This holds whatever has happened on the terminal before.
-/
theorem child_frame_ingress_iff {children : List Child} {registry : Registry}
    (accepted : Registry.ofChildren children = .ok registry) {child : Child}
    (member : child ∈ children) (v : Verbosity) (location : Location) (queueSize : Nat)
    (settings : Settings) (acts : List Act) (frame : Frame) :
    let t := ((new location registry queueSize settings).run v acts).1.terminal
    let outcome := (t.forward child.uniPort frame).value v
    (t.Ingress frame outcome ↔ child.uniPort ≠ egressPort) ∧
      (child.uniPort = egressPort → outcome = t.sent frame) := by
  intro t outcome
  have provisioned : child ∈ registry.children := by
    rw [Registry.ofChildren_children accepted]
    exact member
  obtain ⟨behind, found⟩ := Registry.find?_of_mem provisioned
  have same : t.registry = registry :=
    run_registry v (new location registry queueSize settings) acts
  rw [← same] at found
  have swallowed : child.uniPort = egressPort → outcome = t.sent frame := by
    intro egress
    simp only [outcome, egress]
    exact t.forward_egress frame v
  refine ⟨⟨fun ingress egress => ?_, fun apart => ?_⟩, swallowed⟩
  · rw [swallowed egress] at ingress
    exact t.not_ingress_sent frame ingress
  · exact Terminal.forward_ingress found apart frame v

theorem child_frame_ingress_iff_first :
    let child : Child := ⟨1, ⟨"onu", 1⟩⟩
    let registry : Registry := ⟨[child], by decide, by decide⟩
    Registry.ofChildren [child] = .ok registry ∧
      let t := (new ⟨"olt", 1⟩ registry 4 {}).terminal
      t.Ingress ⟨[7]⟩ ((t.forward 1 ⟨[7]⟩).value (.upTo .info)) := by
  intro child registry
  have accepted : Registry.ofChildren [child] = .ok registry := rfl
  refine ⟨accepted, ?_⟩
  exact (child_frame_ingress_iff accepted (List.mem_singleton_self child) _ _ _ _ [] _).1.mpr
    (by decide)

/-- A child is accepted behind the egress port, and the first frame from there is swallowed. -/
theorem egress_child_frame_swallowed :
    let child : Child := ⟨2, ⟨"onu", 2⟩⟩
    ∃ registry, Registry.ofChildren [child] = .ok registry ∧
      Config.check { device := ⟨.terminal, "olt", ⟨"olt", 1⟩⟩, children := [child]
                     childTransport := .plaintext } = .ok () ∧
      let t := (new ⟨"olt", 1⟩ registry 16 {}).terminal
      let outcome := (t.forward 2 ⟨[7]⟩).value (.upTo .info)
      outcome.1 = .ok () ∧ outcome.2.queue.payloads = [] ∧
        outcome.2.counters.get .pon .rx .upTo64 = 0 ∧
        outcome.2.counters.get .nni .rx .upTo64 = 1 ∧
        outcome.2.counters.get .pon .tx .upTo64 = 1 ∧ ¬ t.Ingress ⟨[7]⟩ outcome := by
  intro child
  have accepted : Registry.ofChildren [child] = .ok ⟨[child], by decide, by decide⟩ := rfl
  refine ⟨_, accepted, rfl, rfl, rfl, by decide, by decide, by decide, ?_⟩
  intro ingress
  have sent := Terminal.forward_egress (.new ⟨"olt", 1⟩ ⟨[child], by decide, by decide⟩ 16) ⟨[7]⟩
    (.upTo .info)
  exact Terminal.not_ingress_sent _ _ (sent ▸ ingress)

end Headend
end OpticalAccess
