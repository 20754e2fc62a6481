import OpticalAccess.Network.Step
import OpticalAccess.Proofs.Logging.Relays

/-!
# What routers and networks log

Routers, connections and sessions only log: each operation on a network has the same answer and the
same effect at every verbosity.
-/

namespace OpticalAccess

/-! ### Routers -/

theorem Fanout.runWithin_filtered {κ ω : Type} (order : Fanout κ → Nat) {act : κ → ω → Traced ω}
    (each : ∀ call w, (act call w).Filtered) (fuel : Nat) (f : Fanout κ) (w : ω) :
    (runWithin order act fuel f w).Filtered := by
  induction fuel generalizing f w with
  | zero => exact .pure _
  | succ fuel ih =>
    simp only [runWithin]
    split
    · exact .pure _
    · exact .bind (each _ _) fun w => ih _ w

/-- A connector whose calls only log. -/
structure Connector.Filtered (C : Connector ω) : Prop where
  updateFlowTable : ∀ location table w, (C.updateFlowTable location table w).Filtered
  getStats : ∀ location w, (C.getStats location w).Filtered

namespace Router

theorem deliver_filtered (d : Device) (frame : Frame) : (deliver d frame).Filtered := by
  refine .bind (d.forward_filtered _ _) fun (result, d) => ?_
  cases result <;> exact .bind (.emit _) fun _ => .pure _

theorem deviceInfo_filtered (d : Device) : (deviceInfo d).Filtered :=
  .bind (.emit _) fun _ => .pure _

variable {C : Connector ω} (filtered : C.Filtered)
include filtered

theorem convey_filtered (d : Device) (table : FlowTable) (w : ω) :
    (convey C d table w).Filtered := by
  unfold convey
  split
  · exact .bind (d.install_filtered _) fun _ => .pure _
  · exact .bind (filtered.updateFlowTable _ _ _) fun _ => .pure _
  · exact .pure _

theorem dispatch_filtered (d : Device) (table : FlowTable) (w : ω) :
    (dispatch C d table w).Filtered :=
  .bind (.emit _) fun _ => .bind (convey_filtered filtered d table w) fun _ =>
    .bind (.emit _) fun _ => .bind (.emit _) fun _ => .pure _

theorem askChild_filtered (d : Device) (call : Int32 × Location) (w : ω) :
    (askChild C d call w).Filtered := by
  refine .bind (filtered.getStats _ _) fun (result, w) => ?_
  cases result with
  | ok metrics => exact .bind (.emit _) fun _ => .bind (.emit _) fun _ => .pure _
  | error error => exact .bind (.emit _) fun _ => .pure _

theorem collectStats_filtered (s : Settings) (order : Fanout (Int32 × Location) → Nat)
    (own : ω → Device) (w : ω) : (collectStats C s order own w).Filtered :=
  .bind (.emit _) fun _ =>
    .bind (Fanout.runWithin_filtered order (askChild_filtered filtered (own w)) _ _ _) fun _ =>
      .bind (.emit _) fun _ => .pure _

end Router

/-! ### Connections -/

namespace Dialer

theorem attempt_filtered (d : Dialer) (location : Location) {peer : Peer ω α}
    (filtered : ∀ answer, peer = .serving answer → ∀ w, (answer w).Filtered) (w : ω) :
    (d.attempt location peer w).Filtered := by
  refine .bind (.emit _) fun _ => ?_
  split
  · exact .pure _
  · split
    · exact .bind (.emit _) fun _ => .pure _
    · exact .pure _
    · rename_i answer
      refine .bind (filtered answer rfl w) fun (result, w) => ?_
      cases result <;> exact .pure _

/-- A dialled call only logs if what is behind the address does. -/
theorem call_filtered (d : Dialer) (request : Request) (location : Location) {peer : Peer ω α}
    (filtered : ∀ answer, peer = .serving answer → ∀ w, (answer w).Filtered) (w : ω) :
    (d.call request location peer w).Filtered := by
  refine .bind (d.attempt_filtered location filtered w) fun (result, w) => ?_
  cases result with
  | ok value => exact .pure _
  | error error => exact .bind (.emit _) fun _ => .pure _

end Dialer

/-! ### Sessions -/

namespace Session

theorem start_filtered (d : Device) (call buffer : Nat) : (start d call buffer).Filtered :=
  .bind (Relay.begin_filtered _ _) fun _ => .pure _

theorem advance_filtered (s : Session) (d : Device) : (s.advance d).Filtered := by
  simp only [advance]
  split
  · exact .pure _
  · split
    · exact .pure _
    · exact .bind (Relay.run_filtered _ _ _ _) fun _ => .pure _

theorem advanceAll_filtered (sessions : List Session) (d : Device) :
    (advanceAll sessions d).Filtered := by
  induction sessions generalizing d with
  | nil => exact .pure _
  | cons s rest ih =>
    exact .bind (s.advance_filtered d) fun (s, d) => .bind (ih d) fun _ => .pure _

theorem settleWithin_filtered (rounds : Nat) (sessions : List Session) (d : Device) :
    (settleWithin rounds sessions d).Filtered := by
  induction rounds generalizing sessions d with
  | zero => exact .pure _
  | succ rounds ih => exact .bind (advanceAll_filtered sessions d) fun next => ih next.1 next.2

theorem settle_filtered (sessions : List Session) (d : Device) : (settle sessions d).Filtered :=
  .bind (settleWithin_filtered _ sessions d) fun _ => .pure _

end Session

/-! ### Networks -/

namespace Network

theorem serveFlows_filtered {C : Connector Network} (filtered : C.Filtered) (n : Node)
    (table : FlowTable) (w : Network) : (serveFlows C n table w).Filtered :=
  .bind (Router.dispatch_filtered filtered _ _ _) fun _ => .pure _

theorem connector_filtered (depth : Nat) (caller : String) : (connector depth caller).Filtered := by
  induction depth generalizing caller with
  | zero => exact ⟨fun _ _ _ => .pure _, fun _ _ => .pure _⟩
  | succ depth ih =>
    refine ⟨fun location table w => ?_, fun location w => ?_⟩
    · simp only [connector]
      split
      · exact Dialer.call_filtered _ _ _ (fun answer same => by cases same) _
      · split
        · exact .pure _
        · exact .bind (serveFlows_filtered (ih _) _ _ _) fun _ => .pure _
    · simp only [connector]
      split
      · exact Dialer.call_filtered _ _ _ (fun answer same => by cases same) _
      · split
        · exact .pure _
        · exact .bind (Router.collectStats_filtered (ih _) _ _ _ _) fun _ => .pure _

theorem settle_filtered (w : Network) (name : String) : (w.settle name).Filtered := by
  unfold settle
  split
  · exact .pure _
  · exact .bind (Session.settle_filtered _ _) fun _ => .pure _

theorem leave_filtered (w : Network) (name : String) (session : Session) :
    (w.leave name session).Filtered :=
  settle_filtered _ _

theorem openStream_filtered (w : Network) (node : Node) (stream : String) :
    (w.openStream node stream).Filtered := by
  refine .bind (Session.start_filtered _ _ _) fun session => .bind (settle_filtered _ _) fun w => ?_
  split
  · exact leave_filtered _ _ _
  · exact .pure _

theorem nodeStep_filtered (w : Network) (n : Node) (op : NodeOp) : (w.nodeStep n op).Filtered := by
  cases op with
  | sendFrame payload =>
    exact .bind (.emit _) fun _ => .bind (Router.deliver_filtered _ _) fun _ => .pure _
  | forward port payload => exact .bind (n.device.forward_filtered _ _) fun _ => .pure _
  | install flows => exact .bind (n.device.install_filtered _) fun _ => .pure _
  | inject port payload =>
    simp only [nodeStep]
    split
    · exact .pure _
    · split
      · exact .pure _
      · exact .bind (Terminal.forward_filtered _ _ _) fun _ => .pure _
  | closeIngress =>
    simp only [nodeStep]
    split
    · exact .pure _
    · split <;> exact .pure _
  | info => exact .bind (Router.deviceInfo_filtered _) fun _ => .pure _
  | dispatch table =>
    exact .bind (serveFlows_filtered (connector_filtered _ _) _ _ _) fun _ => .pure _
  | stats =>
    exact .bind (Router.collectStats_filtered (connector_filtered _ _) _ _ _ _) fun _ => .pure _
  | metrics | identity => exact .pure _
  | openStream stream =>
    simp only [nodeStep]
    split
    · exact .bind (openStream_filtered _ _ _) fun _ => .pure _
    · exact .pure _

theorem step_filtered (w : Network) (op : Op) : (w.step op).Filtered := by
  cases op with
  | node name op =>
    simp only [step]
    split
    · exact .pure _
    · exact .bind (nodeStep_filtered _ _ _) fun _ => .bind (settle_filtered _ _) fun _ => .pure _
  | read stream =>
    simp only [step]
    split
    · exact .pure _
    · exact .bind (settle_filtered _ _) fun _ => .pure _
  | drop stream =>
    simp only [step]
    split
    · exact .pure _
    · exact .bind (leave_filtered _ _ _) fun _ => .pure _
  | reach host reach => exact .pure _

/-- Operations one after the other, with their answers. -/
def run : Network → List Op → Traced (List (Option Answer) × Network)
  | w, [] => return ([], w)
  | w, op :: rest => do
    let (answer, w) ← w.step op
    let (answers, w) ← run w rest
    return (answer :: answers, w)

theorem run_filtered (w : Network) (ops : List Op) : (w.run ops).Filtered := by
  induction ops generalizing w with
  | nil => exact .pure _
  | cons op rest ih =>
    exact .bind (w.step_filtered op) fun (_, w) => .bind (ih w) fun _ => .pure _

end Network
end OpticalAccess
