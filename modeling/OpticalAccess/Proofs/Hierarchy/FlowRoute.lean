import OpticalAccess.Proofs.Hierarchy.Basic

/-!
# The route of a flow table

A flow table goes from router to router until one of them keeps it, does not know its port, or
cannot pass it on. Every router looks the port up among its own children. At most the device at the
end of the route changes.
-/

namespace OpticalAccess

/-- Where and how a route ends. -/
inductive Stop where
  | installed (name : String)
  | rejected (name : String)
  | unknown (name : String)
  | unreachable (name : String)

def Stop.name : Stop → String
  | installed name => name
  | rejected name => name
  | unknown name => name
  | unreachable name => name

/--
The routes of a table, with what the first router makes of it and all calls on the way. The only
choice that is left open is whether a call fails.
-/
inductive Route (at? : Location → Option Node) (table : FlowTable) :
    Node → Outcome → List Nested → Stop → Prop where
  | installed {n : Node} (own : n.device.role = .subscriber ∨ table.port = uplinkPort)
      (works : n.device.installFault = none) :
      Route at? table n .applied [] (.installed n.name)
  | rejected {n : Node} (own : n.device.role = .subscriber ∨ table.port = uplinkPort)
      (error : DeviceError) (fault : n.device.installFault = some error) :
      Route at? table n (.rejected error.message) [] (.rejected n.name)
  | unknown {n : Node} (role : n.device.role = .terminal) (apart : table.port ≠ uplinkPort)
      (absent : n.device.childLocation? table.port = none) :
      Route at? table n .targetUnknown [] (.unknown n.name)
  | unreachable {n : Node} (role : n.device.role = .terminal) (apart : table.port ≠ uplinkPort)
      {location : Location} (behind : n.device.childLocation? table.port = some location)
      (error : CallError) :
      Route at? table n (.targetUnreachable error.message) [⟨n.name, location.host, some table⟩]
        (.unreachable n.name)
  | passed {n m : Node} {outcome : Outcome} {calls : List Nested} {stop : Stop}
      (role : n.device.role = .terminal) (apart : table.port ≠ uplinkPort)
      {location : Location} (behind : n.device.childLocation? table.port = some location)
      (there : at? location = some m) (rest : Route at? table m outcome calls stop) :
      Route at? table n .applied (⟨n.name, location.host, some table⟩ :: calls) stop

namespace Network

/-- What a route leaves: its calls are recorded, and the device at its end may have the table. -/
def routed (w : Network) (table : FlowTable) (calls : List Nested) (stop : Stop) : Network :=
  match stop with
  | .installed name => (w.modify name (·.setFlows table.flows)).extend calls
  | _ => w.extend calls

/--
A call with a table either fails before it reaches the child, or the router at the location takes
the table, once, and the caller has its answer.
-/
def Carries (conn : String → Connector Network) (v : Verbosity) (w : Network) (caller : String)
    (location : Location) (table : FlowTable) : Prop :=
  let sent := w.record caller location (some table)
  let outcome := ((conn caller).updateFlowTable location table w).value v
  (∃ error, outcome = (.error error, sent)) ∨
    ∃ child, sent.at? location = some child ∧
      outcome = (.ok (), ((serveFlows (conn child.name) child table sent).value v).2)

/-- Every call that a router of the network can make to a child is such a call, at any time. -/
def Carried (conn : String → Connector Network) (v : Verbosity) (w₀ : Network) : Prop :=
  ∀ w : Network, w.bare = w₀.bare → ∀ n ∈ w.nodes, ∀ table location,
    n.device.childLocation? table.port = some location → Carries conn v w n.name location table

end Network

/-! ### What one router does -/

namespace Router

theorem dispatch_value (C : Connector ω) (d : Device) (table : FlowTable) (w : ω) (v : Verbosity) :
    (dispatch C d table w).value v =
      match target d table.port with
      | .device =>
        (installed ((d.install table.flows).value v).1, ((d.install table.flows).value v).2, w)
      | .child location =>
        (forwarded ((C.updateFlowTable location table w).value v).1, d,
          ((C.updateFlowTable location table w).value v).2)
      | .unknown => (.targetUnknown, d, w) := by
  unfold dispatch convey
  cases target d table.port <;> rfl

/-- The target of a table, by role and port. -/
inductive Targeted (d : Device) (port : Int32) : Target → Prop where
  | device (own : d.role = .subscriber ∨ port = uplinkPort) : Targeted d port .device
  | child (role : d.role = .terminal) (apart : port ≠ uplinkPort) (location : Location)
      (behind : d.childLocation? port = some location) : Targeted d port (.child location)
  | unknown (role : d.role = .terminal) (apart : port ≠ uplinkPort)
      (absent : d.childLocation? port = none) : Targeted d port .unknown

theorem target_targeted (d : Device) (port : Int32) : Targeted d port (target d port) := by
  cases role : d.role with
  | subscriber => simpa only [target, role] using Targeted.device (.inl role)
  | terminal =>
    by_cases own : port = uplinkPort
    · simpa [target, role, own] using Targeted.device (.inr own)
    · cases behind : d.childLocation? port with
      | none => simpa [target, role, own, behind] using Targeted.unknown role own behind
      | some location => simpa [target, role, own, behind] using Targeted.child role own _ behind

end Router

/-! ### Routes -/

/-- A route on which no call fails is the only one; any other is cut off where a call fails. -/
theorem Route.cut {at? : Location → Option Node} {table : FlowTable} {n : Node}
    {outcome outcome' : Outcome} {calls calls' : List Nested} {stop stop' : Stop}
    (route : Route at? table n outcome calls stop) (full : Route at? table n outcome' calls' stop')
    (reached : ∀ name, stop' ≠ .unreachable name) :
    calls <+: calls' ∧
      ((∀ name, stop ≠ .unreachable name) → outcome = outcome' ∧ calls = calls' ∧ stop = stop') := by
  induction route generalizing outcome' calls' stop' with
  | installed own works =>
    refine ⟨List.nil_prefix, fun _ => ?_⟩
    cases full with
    | installed => exact ⟨rfl, rfl, rfl⟩
    | rejected _ error fault => simp [works] at fault
    | unreachable => exact absurd rfl (reached _)
    | unknown role apart | passed role apart => simp [role, apart] at own
  | rejected own error fault =>
    refine ⟨List.nil_prefix, fun _ => ?_⟩
    cases full with
    | rejected _ other same =>
      obtain rfl := Option.some.inj (fault.symm.trans same)
      exact ⟨rfl, rfl, rfl⟩
    | installed _ works => simp [works] at fault
    | unreachable => exact absurd rfl (reached _)
    | unknown role apart | passed role apart => simp [role, apart] at own
  | unknown role apart absent =>
    refine ⟨List.nil_prefix, fun _ => ?_⟩
    cases full with
    | unknown => exact ⟨rfl, rfl, rfl⟩
    | installed own | rejected own => simp [role, apart] at own
    | unreachable => exact absurd rfl (reached _)
    | passed _ _ behind => simp [absent] at behind
  | unreachable role apart behind error =>
    refine ⟨?_, fun reaches => absurd rfl (reaches _)⟩
    cases full with
    | installed own | rejected own => simp [role, apart] at own
    | unknown _ _ absent => simp [absent] at behind
    | unreachable => exact absurd rfl (reached _)
    | passed _ _ same there rest =>
      obtain rfl := Option.some.inj (behind.symm.trans same)
      exact ⟨_, rfl⟩
  | passed role apart behind there rest ih =>
    cases full with
    | installed own | rejected own => simp [role, apart] at own
    | unknown _ _ absent => simp [absent] at behind
    | unreachable => exact absurd rfl (reached _)
    | passed _ _ same there' rest' =>
      obtain rfl := Option.some.inj (behind.symm.trans same)
      obtain rfl := Option.some.inj (there.symm.trans there')
      obtain ⟨start, whole⟩ := ih rest' reached
      refine ⟨(List.prefix_cons_inj _).mpr start, fun reaches => ?_⟩
      obtain ⟨_, calls, stops⟩ := whole reaches
      exact ⟨rfl, congrArg _ calls, stops⟩

theorem Route.table_eq {at? : Location → Option Node} {table : FlowTable} {n : Node}
    {outcome : Outcome} {calls : List Nested} {stop : Stop}
    (route : Route at? table n outcome calls stop) : ∀ call ∈ calls, call.table = some table := by
  induction route with
  | installed | rejected | unknown => exact fun _ member => absurd member List.not_mem_nil
  | unreachable => simp
  | passed _ _ _ _ _ ih => simpa using ih

namespace Network

theorem routed_cons (w : Network) (table : FlowTable) (caller : String) (location : Location)
    (calls : List Nested) (stop : Stop) :
    (w.record caller location (some table)).routed table calls stop =
      w.routed table (⟨caller, location.host, some table⟩ :: calls) stop := by
  cases stop <;> simp [routed, extend, record, modify]

theorem names_routed (w : Network) (table : FlowTable) (calls : List Nested) (stop : Stop) :
    (w.routed table calls stop).names = w.names := by
  cases stop with
  | installed name =>
    simp only [routed, extend, names, modify, List.map_map]
    apply List.map_congr_left
    intro n _
    simp only [Function.comp_apply]
    split <;> rfl
  | rejected | unknown | unreachable => rfl

theorem mem_routed {w : Network} {n : Node} (member : n ∈ w.nodes) {stop : Stop}
    (apart : n.name ≠ stop.name) (table : FlowTable) (calls : List Nested) :
    n ∈ (w.routed table calls stop).nodes := by
  cases stop with
  | installed name =>
    have other : n.name ≠ name := apart
    exact List.mem_map.mpr ⟨n, member, if_neg other⟩
  | rejected | unknown | unreachable => exact member

theorem node?_routed (w : Network) (table : FlowTable) (calls : List Nested) {stop : Stop}
    {name : String} (apart : stop ≠ .installed name) :
    (w.routed table calls stop).node? name = w.node? name := by
  cases stop with
  | installed other =>
    have different : other ≠ name := fun same => apart (congrArg _ same)
    simp only [node?, routed, extend, modify]
    induction w.nodes with
    | nil => rfl
    | cons n rest ih =>
      rw [List.map_cons, List.find?_cons, List.find?_cons, ih]
      by_cases here : n.name = other
      · have away : n.name ≠ name := fun same => different (here.symm.trans same)
        simp [here, different]
      · simp [here]
  | rejected | unknown | unreachable => rfl

theorem setDevice_setFlows {w : Network} (distinct : w.names.Nodup) {n : Node}
    (member : n ∈ w.nodes) (flows : List FlowRule) :
    w.setDevice n.name (n.device.setFlows flows) = w.modify n.name (·.setFlows flows) := by
  have kept : ∀ m ∈ w.nodes,
      (if m.name = n.name then { m with device := n.device.setFlows flows } else m) =
        if m.name = n.name then m.setFlows flows else m := by
    intro m other
    split
    · rename_i same
      rw [node_unique distinct other member same]
      rfl
    · rfl
  unfold setDevice modify
  rw [List.map_congr_left kept]

theorem serveFlows_value (C : Connector Network) (n : Node) (table : FlowTable) (w : Network)
    (v : Verbosity) :
    (serveFlows C n table w).value v =
      (((Router.dispatch C n.device table w).value v).1,
        ((Router.dispatch C n.device table w).value v).2.2.setDevice n.name
          ((Router.dispatch C n.device table w).value v).2.1) := rfl

/-! ### Calls in memory -/

theorem connector_updateFlowTable (depth : Nat) (caller : String) (location : Location)
    (table : FlowTable) {w : Network} (direct : w.links = .direct) (v : Verbosity) :
    ((connector (depth + 1) caller).updateFlowTable location table w).value v =
      match w.meet location with
      | .error error => (.error error, w.record caller location (some table))
      | .ok child => (.ok (), ((serveFlows (connector depth child.name) child table
          (w.record caller location (some table))).value v).2) := by
  have links : (w.record caller location (some table)).links = .direct := direct
  have meets : (w.record caller location (some table)).meet location = w.meet location := rfl
  simp only [connector, links, meets]
  cases w.meet location <;> rfl

theorem serveFlows_depth {w₀ : Network} (direct : w₀.links = .direct) (acyclic : w₀.Acyclic)
    (table : FlowTable) (v : Verbosity) {d e : Nat} {n : Node} {w : Network}
    (same : w.bare = w₀.bare) (member : n ∈ w.nodes) (below_d : w₀.below n.name < d)
    (below_e : w₀.below n.name < e) :
    (serveFlows (connector d n.name) n table w).value v =
      (serveFlows (connector e n.name) n table w).value v := by
  induction d generalizing e n w with
  | zero => cases below_d
  | succ d ih =>
    cases e with
    | zero => cases below_e
    | succ e =>
      have links : w.links = .direct := (links_eq same).trans direct
      have targeted := Router.target_targeted n.device table.port
      simp only [serveFlows_value, Router.dispatch_value]
      generalize Router.target n.device table.port = target at targeted
      cases targeted with
      | device | unknown => rfl
      | child role apart location behind =>
        simp only [connector_updateFlowTable _ _ _ _ links]
        cases met : w.meet location with
        | error error => rfl
        | ok m =>
          have lower := acyclic.child_below same member behind (meet_ok met)
          have equal := ih (e := e) (w := w.record n.name location (some table)) same
            (at?_mem (meet_ok met)) (by omega) (by omega)
          simp only [equal]

theorem connectorOf_carried {w₀ : Network} (direct : w₀.links = .direct) (acyclic : w₀.Acyclic)
    (v : Verbosity) : w₀.Carried (connectorOf w₀) v := by
  intro w same n member table location behind
  have links : w.links = .direct := (links_eq same).trans direct
  have few : w₀.below n.name < w₀.nodes.length := by
    have bound := (acyclic.of_bare same).below_lt_length member
    have lengths := congrArg List.length (names_eq same)
    simp only [names, List.length_map] at lengths
    rwa [below_eq same, lengths] at bound
  obtain ⟨depth, routers⟩ : ∃ depth, w₀.nodes.length = depth + 1 :=
    Nat.exists_eq_succ_of_ne_zero (by omega)
  simp only [Carries, connectorOf, routers, connector_updateFlowTable _ _ _ _ links]
  cases met : w.meet location with
  | error error => exact .inl ⟨error, rfl⟩
  | ok m =>
    have lower := acyclic.child_below same member behind (meet_ok met)
    have equal := serveFlows_depth (d := depth) (e := depth + 1) direct acyclic table v
      (w := w.record n.name location (some table)) same (at?_mem (meet_ok met)) (by omega)
      (by omega)
    exact .inr ⟨m, meet_ok met, by simp only [equal]⟩

/-! ### Dispatch follows a route -/

/--
What a router makes of a table, in a network that has the hierarchy of `w₀`. A route never leads
upwards, so whoever passed the table on is not at its end.
-/
theorem serveFlows_routed {conn : String → Connector Network} {v : Verbosity} {w₀ : Network}
    (distinct : w₀.names.Nodup) (acyclic : w₀.Acyclic) (carried : w₀.Carried conn v)
    (table : FlowTable) {n : Node} {w : Network} (same : w.bare = w₀.bare)
    (member : n ∈ w.nodes) :
    ∃ outcome calls stop, Route w.at? table n outcome calls stop ∧
      w₀.below stop.name ≤ w₀.below n.name ∧
      (serveFlows (conn n.name) n table w).value v = (outcome, w.routed table calls stop) := by
  induction rank : w₀.below n.name using Nat.strong_induction_on generalizing n w with
  | _ rank' ih =>
    have unique : w.names.Nodup := names_eq same ▸ distinct
    have targeted := Router.target_targeted n.device table.port
    rw [serveFlows_value, Router.dispatch_value]
    generalize Router.target n.device table.port = target at targeted
    cases targeted with
    | device own =>
      cases fault : n.device.installFault with
      | none =>
        refine ⟨_, _, _, .installed own fault, Nat.le_of_eq rank, ?_⟩
        simp [Device.install_value, fault, Router.installed, setDevice_setFlows unique member, routed]
      | some error =>
        refine ⟨_, _, _, .rejected own error fault, Nat.le_of_eq rank, ?_⟩
        simp [Device.install_value, fault, Router.installed, setDevice_self unique member, routed]
    | unknown role apart absent =>
      refine ⟨_, _, _, .unknown role apart absent, Nat.le_of_eq rank, ?_⟩
      simp [setDevice_self unique member, routed]
    | child role apart location behind =>
      rcases carried w same n member table location behind with ⟨error, failed⟩ | ⟨m, there, passed⟩
      · refine ⟨_, _, _, .unreachable role apart behind error, Nat.le_of_eq rank, ?_⟩
        have sent := setDevice_self (w := w.record n.name location (some table)) unique member
        simp only [failed, Router.forwarded, sent]
        rfl
      · have parent : w₀.Parent n.name m.name := by
          rw [← parent_eq same]
          exact ⟨n, m, table.port, location, member, rfl, behind, there, rfl⟩
        have lower := acyclic.below_lt parent
        rw [rank] at lower
        obtain ⟨outcome, calls, stop, route, deeper, served⟩ :=
          ih _ lower (w := w.record n.name location (some table)) same (at?_mem there) rfl
        rw [served] at passed
        refine ⟨_, _, _, .passed role apart behind there route, by omega, ?_⟩
        have apart' : n.name ≠ stop.name := by
          intro loop
          rw [← loop, rank] at deeper
          omega
        have kept := mem_routed (w := w.record n.name location (some table)) member apart' table calls
        have whole := setDevice_self (by rw [names_routed]; exact unique) kept
        rw [routed_cons] at whole
        simp only [passed, Router.forwarded, routed_cons, whole]

/--
In a hierarchy, a flow table takes one route, and every call on it carries the table unchanged.
Whatever calls fail, the route is the one on which none does, up to the call that fails. Nothing
changes but the flow rules of the device at its end, and these only if that device installs them.
-/
theorem flow_table_takes_one_route {conn : String → Connector Network} {v : Verbosity} {w : Network}
    (distinct : w.names.Nodup) (acyclic : w.Acyclic) (carried : w.Carried conn v) {n : Node}
    (member : n ∈ w.nodes) (table : FlowTable) :
    let served := (serveFlows (conn n.name) n table w).value v
    ∃ calls stop, Route w.at? table n served.1 calls stop ∧
      served.2 = w.routed table calls stop ∧
      (∀ call ∈ calls, call.table = some table) ∧
      (∀ name, stop ≠ .installed name → served.2.node? name = w.node? name) ∧
      ∀ outcome' calls' stop', Route w.at? table n outcome' calls' stop' →
        (∀ name, stop' ≠ .unreachable name) →
          calls <+: calls' ∧ ((∀ name, stop ≠ .unreachable name) →
            served.1 = outcome' ∧ calls = calls' ∧ stop = stop') := by
  intro served
  obtain ⟨outcome, calls, stop, route, -, value⟩ :=
    serveFlows_routed distinct acyclic carried table rfl member
  have served_eq : served = (outcome, w.routed table calls stop) := value
  rw [served_eq]
  refine ⟨calls, stop, route, rfl, route.table_eq, ?_, ?_⟩
  · intro name apart
    exact w.node?_routed table calls apart
  · intro outcome' calls' stop' full reached
    exact route.cut full reached

theorem flow_table_takes_one_route_pair :
    let olt := pair.nodes.head (by decide)
    let table : FlowTable := ⟨128, [⟨7, 0, 0, 0, [], []⟩]⟩
    let served := (serveFlows (connectorOf pair olt.name) olt table pair).value (.upTo .info)
    pair.names.Nodup ∧ pair.Acyclic ∧ pair.Carried (connectorOf pair) (.upTo .info) ∧
      olt ∈ pair.nodes ∧
      ∃ calls stop, Route pair.at? table olt served.1 calls stop ∧
        served.2 = pair.routed table calls stop := by
  intro olt table served
  have distinct : pair.names.Nodup := by decide
  have carried := connectorOf_carried rfl pair_acyclic (.upTo .info)
  have member : olt ∈ pair.nodes := List.head_mem _
  obtain ⟨calls, stop, route, after, -⟩ :=
    flow_table_takes_one_route distinct pair_acyclic carried member table
  exact ⟨distinct, pair_acyclic, carried, member, calls, stop, route, after⟩

end Network
end OpticalAccess
