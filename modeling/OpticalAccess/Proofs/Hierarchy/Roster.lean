import OpticalAccess.Proofs.Hierarchy.FlowRoute
import OpticalAccess.Proofs.Hierarchy.StatsSurvey
import OpticalAccess.Proofs.Logging.Networks

/-!
# The roster of a network

Which routers there are, and how each of them was set up, is decided before the first operation.
Operations move devices and sessions on and leave the rest of a node alone, those that call other
routers included.
-/

namespace OpticalAccess

namespace Dialer

/-- Nothing is behind the address, so that the world stays as it is. -/
theorem call_absent (d : Dialer) (request : Request) (location : Location) (w : ω) (v : Verbosity) :
    ((d.call request location (.absent : Peer ω α) w).value v).2 = w := by
  unfold call attempt
  cases d.endpointFault? location <;> rfl

end Dialer

namespace Network

variable {v : Verbosity}

/-- The routers by name, with their settings. -/
def roster (w : Network) : List (String × Settings) := w.nodes.map fun n => (n.name, n.settings)

theorem roster_modify (w : Network) (name : String) {f : Node → Node}
    (kept : ∀ n, (f n).name = n.name ∧ (f n).settings = n.settings) :
    (w.modify name f).roster = w.roster := by
  unfold roster modify
  rw [List.map_map]
  refine List.map_congr_left fun n _ => ?_
  rw [Function.comp_apply]
  split
  · rw [(kept n).1, (kept n).2]
  · rfl

theorem roster_setDevice (w : Network) (name : String) (d : Device) :
    (w.setDevice name d).roster = w.roster :=
  w.roster_modify name fun _ => ⟨rfl, rfl⟩

theorem roster_setSession (w : Network) (name : String) (s : Session) :
    (w.setSession name s).roster = w.roster :=
  w.roster_modify name fun _ => ⟨rfl, rfl⟩

theorem node_kept {w w' : Network} (same : w'.roster = w.roster) {i : Nat} {n : Node}
    (here : w.nodes[i]? = some n) :
    ∃ m, w'.nodes[i]? = some m ∧ m.name = n.name ∧ m.settings = n.settings := by
  have entry : w'.roster[i]? = some (n.name, n.settings) := by
    rw [same, roster, List.getElem?_map, here, Option.map_some]
  rw [roster, List.getElem?_map] at entry
  obtain ⟨m, there, pair⟩ := Option.map_eq_some_iff.mp entry
  obtain ⟨name, settings⟩ := Prod.mk.inj pair
  exact ⟨m, there, name, settings⟩

/-! ### Calls between routers -/

/-- The calls of a connector leave the roster alone. -/
structure KeepsRoster (C : Connector Network) : Prop where
  updateFlowTable : ∀ location table w v,
    ((C.updateFlowTable location table w).value v).2.roster = w.roster
  getStats : ∀ location w v, ((C.getStats location w).value v).2.roster = w.roster

theorem serveFlows_roster {C : Connector Network} (keeps : KeepsRoster C) (n : Node)
    (table : FlowTable) (w : Network) : ((serveFlows C n table w).value v).2.roster = w.roster := by
  rw [serveFlows_value, roster_setDevice, Router.dispatch_value]
  cases Router.target n.device table.port with
  | device | unknown => rfl
  | child location => exact keeps.updateFlowTable _ _ _ _

theorem foldl_ask_roster {C : Connector Network} (keeps : KeepsRoster C)
    (calls : List (Int32 × Location)) (w : Network) :
    (calls.foldl (Router.ask C v) w).roster = w.roster := by
  induction calls generalizing w with
  | nil => rfl
  | cons call rest ih => rw [List.foldl_cons, ih, Router.ask, keeps.getStats]

theorem serveStats_roster {C : Connector Network} (keeps : KeepsRoster C) (n : Node)
    (order : Fanout (Int32 × Location) → Nat) (w : Network) :
    ((serveStats C n order w).value v).2.2.roster = w.roster := by
  rw [serveStats, Router.collectStats_value]
  exact foldl_ask_roster keeps _ _

theorem connector_keepsRoster (depth : Nat) (caller : String) :
    KeepsRoster (connector depth caller) := by
  induction depth generalizing caller with
  | zero => exact ⟨fun _ _ _ _ => rfl, fun _ _ _ => rfl⟩
  | succ depth ih =>
    constructor
    · intro location table w v
      simp only [connector]
      split
      · rw [Dialer.call_absent]
        rfl
      · split
        · rfl
        · exact serveFlows_roster (ih _) _ _ _
    · intro location w v
      simp only [connector]
      split
      · rw [Dialer.call_absent]
        rfl
      · split
        · rfl
        · exact serveStats_roster (ih _) _ _ _

/-! ### Operations -/

theorem settle_roster (w : Network) (name : String) :
    ((w.settle name).value v).roster = w.roster := by
  unfold settle
  split
  · rfl
  · exact w.roster_modify name fun _ => ⟨rfl, rfl⟩

theorem leave_roster (w : Network) (name : String) (s : Session) :
    ((w.leave name s).value v).roster = w.roster := by
  rw [leave, settle_roster, roster_setSession]

theorem openStream_roster (w : Network) (n : Node) (stream : String) :
    ((w.openStream n stream).value v).roster = w.roster := by
  unfold openStream
  simp only [Traced.value_bind]
  split
  · refine (leave_roster _ _ _).trans ((settle_roster _ _).trans ?_)
    exact roster_modify _ _ fun _ => ⟨rfl, rfl⟩
  · refine (settle_roster _ _).trans ?_
    exact roster_modify _ _ fun _ => ⟨rfl, rfl⟩

theorem nodeStep_roster (w : Network) (n : Node) (op : NodeOp) :
    ((w.nodeStep n op).value v).2.roster = w.roster := by
  cases op with
  | sendFrame | forward | install => exact roster_setDevice _ _ _
  | inject | closeIngress =>
    simp only [nodeStep]
    split
    · rfl
    · split
      · rfl
      · exact roster_setDevice _ _ _
  | info | metrics | identity => rfl
  | dispatch table => exact serveFlows_roster (connector_keepsRoster _ _) _ _ _
  | stats => exact serveStats_roster (connector_keepsRoster _ _) _ _ _
  | openStream stream =>
    simp only [nodeStep]
    split
    · exact openStream_roster _ _ _
    · rfl

theorem step_roster (w : Network) (op : Op) : ((w.step op).value v).2.roster = w.roster := by
  cases op with
  | node name op =>
    simp only [step]
    split
    · rfl
    · exact (settle_roster _ _).trans (nodeStep_roster _ _ _)
  | read stream =>
    simp only [step]
    split
    · rfl
    · exact (settle_roster _ _).trans (roster_setSession _ _ _)
  | drop stream =>
    simp only [step]
    split
    · rfl
    · exact leave_roster _ _ _
  | reach => rfl

theorem run_roster (w : Network) (ops : List Op) : ((w.run ops).value v).2.roster = w.roster := by
  induction ops generalizing w with
  | nil => rfl
  | cons op rest ih => exact (ih _).trans (step_roster w op)

end Network
end OpticalAccess
