import OpticalAccess.Proofs.Logging.Networks
import OpticalAccess.Proofs.Plant.Basic

/-!
# What a network at work logs

Whatever the tasks of a network do, and in whatever order: the verbosity has no influence on it. It
only says which of the events are kept.
-/

namespace OpticalAccess

namespace Device

theorem call_filtered (d : Device) (port : Int32) (frame : Frame) :
    (d.call port frame).Filtered := by
  unfold call
  split
  · exact .pure _
  · exact .bind (.emit _) fun _ => .pure _

theorem stepForward_filtered (d : Device) (f : Forward) : (d.stepForward f).Filtered := by
  unfold stepForward
  split
  · exact .pure _
  · exact .bind (Terminal.step_filtered _ _) fun _ => .pure _
  · exact .pure _
  · exact .pure _

end Device

namespace Router

theorem stepDelivery_filtered (d : Device) (frame : Frame) (delivery : Delivery) :
    (stepDelivery d frame delivery).Filtered := by
  cases delivery with
  | waiting => exact .bind (d.call_filtered _ _) fun _ => .pure _
  | forwarding passage =>
    simp only [stepDelivery]
    split
    · rename_i result _
      cases result <;> exact .bind (.emit _) fun _ => .pure _
    · exact .bind (d.stepForward_filtered _) fun _ => .pure _
  | ended result => exact .pure _

theorem dispatchEnded_filtered (d : Device) (port : Int32) (outcome : Outcome) :
    (dispatchEnded d port outcome).Filtered :=
  .bind (.emit _) fun _ => .emit _

theorem childAnswered_filtered (d : Device) (port : Int32) (child : Location)
    (result : Except CallError Metrics) : (childAnswered d port child result).Filtered := by
  cases result with
  | ok metrics => exact .bind (.emit _) fun _ => .emit _
  | error error => exact .emit _

end Router

namespace Session

theorem begin_filtered (s : Session) (d : Device) : (s.begin d).Filtered :=
  .bind (Relay.begin_filtered _ _) fun _ => .pure _

theorem perform_filtered (address : String) (q : IngressQueue Nat) (s : Session) (m : Move) :
    (s.perform address q m).Filtered := by
  cases m with
  | relay =>
    refine .bind (Relay.step_filtered _ _ _ _) fun after => ?_
    cases after <;> exact .pure _
  | report | fetch | read | drop => exact .pure _

end Session

theorem Station.step_filtered (s : Station) (act : Act) : (s.step act).Filtered := by
  cases act with
  | submit payload => exact .bind (.emit _) fun _ => .pure _
  | deliver index =>
    simp only [step]
    split
    · exact .pure _
    · exact .bind (Router.stepDelivery_filtered _ _ _) fun _ => .pure _
  | arrive port payload => exact .bind (s.device.call_filtered _ _) fun _ => .pure _
  | closeIngress | outage fault => exact .pure _
  | forward index =>
    simp only [step]
    split
    · exact .pure _
    · exact .bind (s.device.stepForward_filtered _) fun _ => .pure _
  | info => exact .bind (Router.deviceInfo_filtered _) fun _ => .pure _
  | openStream =>
    simp only [step]
    split <;> exact .pure _
  | startRelay index =>
    simp only [step]
    split
    · exact .pure _
    · split
      · exact .bind (Session.begin_filtered _ _) fun _ => .pure _
      · exact .pure _
  | session index move =>
    simp only [step]
    split
    · exact .pure _
    · split
      · exact .pure _
      · exact .bind (Session.perform_filtered _ _ _ _) fun _ => .pure _

namespace Links

theorem opening_filtered (links : Links) (child : Location) : (links.opening child).Filtered := by
  cases links with
  | direct => exact .pure _
  | dialled dialer => exact .bind (.emit _) fun _ => .pure _

theorem failing_filtered (links : Links) (request : Request) (child : Location)
    (error : CallError) : (links.failing request child error).Filtered := by
  cases links with
  | direct => exact .pure _
  | dialled dialer =>
    simp only [failing]
    split
    · exact .bind (.emit _) fun _ => .emit _
    · exact .bind (.pure _) fun _ => .emit _

end Links

namespace Plant

theorem conclude_filtered (s : Station) (task : Nat) (table : FlowTable) (outcome : Outcome) :
    (conclude s task table outcome).Filtered :=
  .bind (Router.dispatchEnded_filtered _ _ _) fun _ => .pure _

theorem turn_filtered (s : Station) (place task fresh : Nat)
    (answer : Nat → Option (Except CallError Reply)) (choice : Nat) (job : Job) :
    (turn s place task fresh answer choice job).Filtered := by
  cases job with
  | update table stage =>
    cases stage with
    | begun =>
      refine .bind (.emit _) fun _ => ?_
      split
      · exact .pure _
      · exact .pure _
      · exact conclude_filtered _ _ _ _
    | locking =>
      simp only [turn, updateTurn]
      split
      · exact .bind (s.device.install_filtered _) fun _ => conclude_filtered _ _ _ _
      · exact .pure _
      · exact .pure _
    | writing => exact .bind (s.device.install_filtered _) fun _ => conclude_filtered _ _ _ _
    | calling call =>
      simp only [turn, updateTurn]
      split
      · exact conclude_filtered _ _ _ _
      · exact .pure _
    | ended outcome | dropped => exact .pure _
  | survey stage =>
    cases stage with
    | begun => exact .bind (.emit _) fun _ => .pure _
    | asking f =>
      simp only [turn, surveyTurn]
      split
      · exact .bind (.emit _) fun _ => .pure _
      · split
        · exact .bind (Router.childAnswered_filtered _ _ _ _) fun _ => .pure _
        · exact .pure _
    | ended | dropped => exact .pure _

theorem finish_filtered (p : Plant) (call : Nat) (c : ChildCall) (result : Except CallError Reply) :
    (p.finish call c result).Filtered := by
  cases result with
  | ok reply => exact .bind (.pure _) fun _ => .pure _
  | error error => exact .bind (Links.failing_filtered _ _ _ _) fun _ => .pure _

theorem stepCall_filtered (p : Plant) (call : Nat) (c : ChildCall) (move : CallMove) :
    (p.stepCall call c move).Filtered := by
  cases move with
  | make =>
    simp only [stepCall]
    split
    · split
      · refine .bind (Links.opening_filtered _ _) fun early => ?_
        cases early with
        | none => exact .pure _
        | some error => exact .bind (finish_filtered _ _ _ _) fun _ => .pure _
      · exact .pure _
    · exact .pure _
  | deliver station =>
    simp only [stepCall]
    split
    · split <;> exact .pure _
    · exact .pure _
  | reply =>
    simp only [stepCall]
    split
    · split
      · exact finish_filtered _ _ _ _
      · exact .pure _
    · exact .pure _
  | fail error =>
    simp only [stepCall]
    split
    · exact finish_filtered _ _ _ _
    · exact finish_filtered _ _ _ _
    · exact .pure _

theorem step_filtered (p : Plant) (act : Act) : (p.step act).Filtered := by
  cases act with
  | station n act =>
    simp only [step]
    split
    · exact .pure _
    · exact .bind (Station.step_filtered _ _) fun _ => .pure _
  | request n table =>
    simp only [step]
    split <;> exact .pure _
  | task k choice =>
    simp only [step]
    split
    · exact .pure _
    · split
      · exact .pure _
      · exact .bind (turn_filtered _ _ _ _ _ _ _) fun _ => .pure _
  | drop k =>
    simp only [step]
    split <;> exact .pure _
  | call k move =>
    simp only [step]
    split
    · exact .pure _
    · exact stepCall_filtered _ _ _ _

theorem run_filtered (p : Plant) (acts : List Act) : (p.run acts).Filtered := by
  induction acts generalizing p with
  | nil => exact .pure _
  | cons act rest ih =>
    exact .bind (p.step_filtered act) fun (next, _) => .bind (ih next) fun _ => .pure _

/--
Logging has no influence on what a network does, and a verbosity keeps exactly the events of the
highest one that it enables. So it is for tasks that interleave in any order, for operations one
after the other, over connections as well as in memory, and for a relay over any sink. And it makes
no difference that a router, a terminal and a subscriber make the text of a frame up only if it is
wanted, and a relay does so beforehand and carries the text along.
-/
theorem logging_only_filters :
    (∀ (p : Plant) (acts : List Act), (p.run acts).Filtered) ∧
    (∀ (w : Network) (ops : List Network.Op), (w.run ops).Filtered) ∧
    (∀ (σ : Type) (S : Relay.Sink σ) (device : String) (call : Nat)
      (s : Relay.State Nat σ), (Relay.run device S call s).Filtered) ∧
    (∀ (d : Device) (frame : Frame), Router.accept d frame =
      Traced.guarded .info fun _ => .frameReceived d.location frame.describe) ∧
    (∀ (t : Terminal) (port : Int32) (frame : Frame), t.step (.begun port frame) = do
      Traced.guarded .debug fun _ => .forwarding .terminal t.location port frame.describe
      return t.enter port frame) ∧
    (∀ (s : Subscriber) (port : Int32) (frame : Frame), s.forward port frame = do
      Traced.guarded .debug fun _ => .forwarding .subscriber s.location port frame.describe
      return { s with
        counters := s.counters.count (Subscriber.sideOf port) .rx frame.length }) ∧
    ∀ (σ : Type) (S : Relay.Sink σ) (device : String) (call : Nat) (s : Relay.Noting Nat σ)
      (fuel : Nat) (v : Verbosity), s.Fits v →
      ((Relay.Noting.runWithin device S call fuel s).value v).state =
          (Relay.runWithin device S call fuel s.state).value v ∧
        (Relay.Noting.runWithin device S call fuel s).events v =
          (Relay.runWithin device S call fuel s.state).events v := by
  refine ⟨run_filtered, Network.run_filtered, ?_, Router.accept_guarded,
    Terminal.step_begun_guarded, Subscriber.forward_guarded, ?_⟩
  · intro σ S device call s
    exact Relay.run_filtered device S call s
  · intro σ S device call s fuel v fits
    exact Relay.Noting.runWithin_agrees fits device S call fuel

/-- A relay that holds a frame of one byte and has made its text up. -/
def noted : Relay.Noting Nat Relay.Script :=
  ⟨⟨.empty 1, {}, .holding [7]⟩, some (Frame.describe ⟨[7]⟩)⟩

theorem logging_only_filters_noted :
    noted.Fits .full ∧
      ((Relay.Noting.runWithin "olt:50060" Relay.scriptSink 0 3 noted).value .full).state =
          (Relay.runWithin "olt:50060" Relay.scriptSink 0 3 noted.state).value .full ∧
        (Relay.Noting.runWithin "olt:50060" Relay.scriptSink 0 3 noted).events .full =
          (Relay.runWithin "olt:50060" Relay.scriptSink 0 3 noted.state).events .full := by
  have fits : noted.Fits .full := by
    intro payload holds
    cases holds
    rfl
  obtain ⟨_, _, _, _, _, _, agrees⟩ := logging_only_filters
  exact ⟨fits, agrees _ Relay.scriptSink "olt:50060" 0 noted 3 .full fits⟩

end Plant
end OpticalAccess
