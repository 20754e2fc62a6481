import OpticalAccess.Proofs.Fanout
import OpticalAccess.Proofs.Hierarchy.Basic

/-!
# Requests for counters

A router that is asked for counters asks all its children first, each of them once, and then answers
its own counters. The children do the same below. No device changes.
-/

namespace OpticalAccess

namespace Router

/-- What asking one child does to the world. -/
def ask (C : Connector ω) (v : Verbosity) (w : ω) (call : Int32 × Location) : ω :=
  ((C.getStats call.2 w).value v).2

theorem askChild_value (C : Connector ω) (d : Device) (call : Int32 × Location) (w : ω)
    (v : Verbosity) : (askChild C d call w).value v = ask C v w call := by
  unfold askChild ask
  simp only [Traced.value_bind]
  cases ((C.getStats call.2 w).value v).1 <;> rfl

section Calls
variable (d : Device)

theorem statsCalls_ports :
    (statsCalls d).map Prod.fst = d.childPorts.filter fun port => (d.childLocation? port).isSome := by
  unfold statsCalls
  induction d.childPorts with
  | nil => rfl
  | cons port rest ih => cases behind : d.childLocation? port <;> simp [behind, ih]

theorem statsCalls_location {call : Int32 × Location} (member : call ∈ statsCalls d) :
    d.childLocation? call.1 = some call.2 := by
  obtain ⟨port, -, found⟩ := List.mem_filterMap.mp member
  obtain ⟨location, behind, rfl⟩ := Option.map_eq_some_iff.mp found
  exact behind

theorem statsCalls_subscriber (role : d.role = .subscriber) : statsCalls d = [] := by
  unfold Device.role at role
  unfold statsCalls Device.childPorts Device.view
  cases machine : d.machine with
  | terminal t => simp [machine] at role
  | subscriber s => rfl

end Calls

/-- The calls of a request for counters as they come back, each with those in flight then. -/
def statsTrace (s : Settings) (order : Fanout (Int32 × Location) → Nat) (d : Device) :
    List ((Int32 × Location) × Fanout (Int32 × Location)) :=
  let start := Fanout.new s.statsFanout (statsCalls d)
  Fanout.trace order (start.size + 1) start

theorem collectStats_value (C : Connector ω) (s : Settings)
    (order : Fanout (Int32 × Location) → Nat) (own : ω → Device) (w : ω) (v : Verbosity) :
    let after := ((statsTrace s order (own w)).map Prod.fst).foldl (ask C v) w
    (collectStats C s order own w).value v =
      (match (own w).role with
        | .terminal => (own after).metrics
        | .subscriber => Metrics.none,
        min (max 1 s.statsFanout) (statsCalls (own w)).length, after) := by
  intro after
  have peak := Fanout.final_peak order (f := Fanout.new s.statsFanout (statsCalls (own w)))
    (Nat.lt_of_lt_of_le Nat.one_pos (Nat.le_max_left _ _)) (Nat.zero_le _) (Nat.lt_succ_self _)
  have asked : (fun u call => (askChild C (own w) call u).value v) = ask C v := by
    funext u call
    exact askChild_value C (own w) call u v
  unfold collectStats Fanout.run
  simp only [Traced.value_bind, Traced.value_pure, Fanout.runWithin_value, asked, peak]
  simp only [Fanout.new, Fanout.size, List.length_nil, Nat.add_zero, Nat.zero_max]
  rfl

theorem statsTrace_perm (s : Settings) (order : Fanout (Int32 × Location) → Nat) (d : Device) :
    ((statsTrace s order d).map Prod.fst).Perm (statsCalls d) :=
  Fanout.trace_perm order (Nat.lt_of_lt_of_le Nat.one_pos (Nat.le_max_left _ _)) (Nat.zero_le _)
    (Nat.lt_succ_self _)

theorem statsTrace_inFlight (s : Settings) (order : Fanout (Int32 × Location) → Nat) (d : Device) :
    ∀ moment ∈ statsTrace s order d, moment.2.inFlight.length ≤ max 1 s.statsFanout :=
  Fanout.trace_inFlight order (Nat.lt_of_lt_of_le Nat.one_pos (Nat.le_max_left _ _)) (Nat.zero_le _)

/-- What a request for counters comes to, whatever its calls do to the world. -/
structure FannedOut (C : Connector ω) (s : Settings) (order : Fanout (Int32 × Location) → Nat)
    (own : ω → Device) (w : ω) (v : Verbosity) : Prop where
  /-- Every listed port that has a location is asked, once, and no other port. -/
  ports : ((statsTrace s order (own w)).map fun moment => moment.1.1).Perm
    ((own w).childPorts.filter fun port => ((own w).childLocation? port).isSome)
  locations : ∀ moment ∈ statsTrace s order (own w),
    (own w).childLocation? moment.1.1 = some moment.1.2
  /-- A bound of zero counts as one. -/
  bound : ∀ moment ∈ statsTrace s order (own w), moment.2.inFlight.length ≤ max 1 s.statsFanout
  peak : ((collectStats C s order own w).value v).2.1 ≤ max 1 s.statsFanout
  /-- The world is the one after all calls, and no other call was made. -/
  world : ((collectStats C s order own w).value v).2.2 =
    ((statsTrace s order (own w)).map Prod.fst).foldl (ask C v) w
  /-- A terminal answers the counters that it has in that world, whatever the children did. -/
  terminal : (own w).role = .terminal → ((collectStats C s order own w).value v).1 =
    (own ((collectStats C s order own w).value v).2.2).metrics
  subscriber : (own w).role = .subscriber → statsTrace s order (own w) = [] ∧
    ((collectStats C s order own w).value v).1 = Metrics.none

theorem collectStats_fannedOut (C : Connector ω) (s : Settings)
    (order : Fanout (Int32 × Location) → Nat) (own : ω → Device) (w : ω) (v : Verbosity) :
    FannedOut C s order own w v := by
  have perm := statsTrace_perm s order (own w)
  have count : (statsTrace s order (own w)).length = (statsCalls (own w)).length := by
    rw [← perm.length_eq, List.length_map]
  have value := collectStats_value C s order own w v
  refine ⟨?_, ?_, statsTrace_inFlight s order (own w), ?_, ?_, ?_, ?_⟩
  · have ports := perm.map Prod.fst
    rwa [statsCalls_ports, List.map_map] at ports
  · intro moment member
    exact statsCalls_location _ (perm.mem_iff.mp (List.mem_map_of_mem member))
  · rw [value]
    exact Nat.min_le_left _ _
  · rw [value]
  · intro role
    rw [value]
    simp only [role]
  · intro role
    have idle := statsCalls_subscriber (own w) role
    rw [idle, List.length_nil] at count
    refine ⟨List.length_eq_zero_iff.mp count, ?_⟩
    rw [value]
    simp only [role]

end Router

/-! ### A survey of the hierarchy -/

/--
The calls that a router makes, with the calls that they cause below. Of a call, nothing is known but
whether it reached the child; the routers that were reached are listed, once for each time.
-/
inductive Answers (at? : Location → Option Node) :
    String → List (Int32 × Location) → List Node → List Nested → Prop where
  | nil {caller : String} : Answers at? caller [] [] []
  | failed {caller : String} {port : Int32} {location : Location} {rest : List (Int32 × Location)}
      {reached : List Node} {calls : List Nested} (later : Answers at? caller rest reached calls) :
      Answers at? caller ((port, location) :: rest) reached
        (⟨caller, location.host, none⟩ :: calls)
  | reached {caller : String} {port : Int32} {location : Location}
      {rest asked : List (Int32 × Location)} {inner reached : List Node}
      {below calls : List Nested} {m : Node} (there : at? location = some m)
      (each : asked.Perm (Router.statsCalls m.device)) (survey : Answers at? m.name asked inner below)
      (later : Answers at? caller rest reached calls) :
      Answers at? caller ((port, location) :: rest) (m :: inner ++ reached)
        (⟨caller, location.host, none⟩ :: below ++ calls)

/-- The calls of a router for the counters of its children. -/
def Node.inquiries (n : Node) : List Nested :=
  (Router.statsCalls n.device).map fun call => ⟨n.name, call.2.host, none⟩

/-- All calls are those of the first router and of the routers that were reached. -/
theorem Answers.perm {at? : Location → Option Node} {caller : String}
    {asked : List (Int32 × Location)} {reached : List Node} {calls : List Nested}
    (answers : Answers at? caller asked reached calls) :
    calls.Perm ((asked.map fun call => ⟨caller, call.2.host, none⟩) ++
      reached.flatMap Node.inquiries) := by
  induction answers with
  | nil => exact .refl _
  | failed later ih => exact ih.cons _
  | reached there each survey later inner outer =>
    have own := (inner.trans ((each.map _).append_right _)).append outer
    apply List.Perm.cons
    apply own.trans
    simp only [List.cons_append, List.flatMap_cons, List.flatMap_append, List.append_assoc,
      Node.inquiries]
    exact ((List.perm_append_comm_assoc _ _ _).append_left _).trans
      (List.perm_append_comm_assoc _ _ _)

namespace Network

/--
A call for counters either fails before it reaches the child, or the router at the location serves
it, once. What the caller has for an answer is left open, and may be an error all the same.
-/
def Asks (conn : String → Connector Network) (v : Verbosity) (w : Network) (caller : String)
    (location : Location) : Prop :=
  let sent := w.record caller location none
  let outcome := ((conn caller).getStats location w).value v
  (∃ error, outcome = (.error error, sent)) ∨
    ∃ child order, sent.at? location = some child ∧
      outcome.2 = ((serveStats (conn child.name) child order sent).value v).2.2

/-- Every call that a router can make to one of its children is such a call, at any time. -/
def Asked (conn : String → Connector Network) (v : Verbosity) (w : Network) : Prop :=
  ∀ past, ∀ n ∈ w.nodes, ∀ port location, n.device.childLocation? port = some location →
    Asks conn v (w.extend past) n.name location

theorem deviceOf_extend {w : Network} (distinct : w.names.Nodup) {n : Node} (member : n ∈ w.nodes)
    (fallback : Device) (past : List Nested) :
    deviceOf fallback n.name (w.extend past) = n.device := by
  have found : (w.extend past).node? n.name = some n := node?_of_mem distinct member
  simp only [deviceOf, found, Option.map_some, Option.getD_some]

theorem serveStats_value (C : Connector Network) {n : Node} {w : Network}
    (distinct : w.names.Nodup) (member : n ∈ w.nodes) (order : Fanout (Int32 × Location) → Nat)
    (past : List Nested) (v : Verbosity) :
    let after := ((Router.statsTrace n.settings order n.device).map Prod.fst).foldl (Router.ask C v)
      (w.extend past)
    (serveStats C n order (w.extend past)).value v =
      (match n.device.role with
        | .terminal => (deviceOf n.device n.name after).metrics
        | .subscriber => Metrics.none,
        min (max 1 n.settings.statsFanout) (Router.statsCalls n.device).length, after) := by
  intro after
  have own := deviceOf_extend distinct member n.device past
  unfold serveStats
  rw [Router.collectStats_value, own]

theorem foldl_answers {conn : String → Connector Network} {v : Verbosity} {w : Network}
    (asked : w.Asked conn v) {n : Node} (member : n ∈ w.nodes)
    (serves : ∀ m port location, n.device.childLocation? port = some location →
      w.at? location = some m → ∀ order past, ∃ todo reached calls,
        todo.Perm (Router.statsCalls m.device) ∧ Answers w.at? m.name todo reached calls ∧
          ((serveStats (conn m.name) m order (w.extend past)).value v).2.2 =
            w.extend (past ++ calls))
    (todo : List (Int32 × Location))
    (children : ∀ call ∈ todo, n.device.childLocation? call.1 = some call.2) (past : List Nested) :
    ∃ reached calls, Answers w.at? n.name todo reached calls ∧
      todo.foldl (Router.ask (conn n.name) v) (w.extend past) = w.extend (past ++ calls) := by
  induction todo generalizing past with
  | nil => exact ⟨[], [], .nil, by rw [List.foldl_nil, List.append_nil]⟩
  | cons call rest ih =>
    obtain ⟨port, location⟩ := call
    have behind : n.device.childLocation? port = some location := children _ List.mem_cons_self
    have others : ∀ call ∈ rest, n.device.childLocation? call.1 = some call.2 := by
      intro call later
      exact children call (List.mem_cons_of_mem _ later)
    have sent : (w.extend past).record n.name location none =
        w.extend (past ++ [⟨n.name, location.host, none⟩]) := by
      rw [record_eq, extend_extend]
    rw [List.foldl_cons]
    rcases asked past n member port location behind with ⟨error, failed⟩ | ⟨m, order, there, served⟩
    · obtain ⟨reached, calls, answers, after⟩ :=
        ih others (past ++ [⟨n.name, location.host, none⟩])
      refine ⟨reached, _, .failed answers, ?_⟩
      simp only [Router.ask, failed, sent, after, List.append_assoc, List.singleton_append]
    · have found : w.at? location = some m := there
      rw [sent] at served
      obtain ⟨each, inner, below, perm, survey, result⟩ := serves m port location behind found order
        (past ++ [⟨n.name, location.host, none⟩])
      rw [result] at served
      obtain ⟨reached, calls, answers, after⟩ :=
        ih others (past ++ [⟨n.name, location.host, none⟩] ++ below)
      refine ⟨_, _, .reached found perm survey answers, ?_⟩
      simp only [Router.ask, served, after]
      simp

/-- A survey of a router and of all that is below it changes nothing but the record of calls. -/
theorem serveStats_answers {conn : String → Connector Network} {v : Verbosity} {w : Network}
    (distinct : w.names.Nodup) (acyclic : w.Acyclic) (asked : w.Asked conn v) {n : Node}
    (member : n ∈ w.nodes) (order : Fanout (Int32 × Location) → Nat) (past : List Nested) :
    ∃ todo reached calls, todo.Perm (Router.statsCalls n.device) ∧
      Answers w.at? n.name todo reached calls ∧
      ((serveStats (conn n.name) n order (w.extend past)).value v).2.2 = w.extend (past ++ calls) := by
  induction rank : w.below n.name using Nat.strong_induction_on generalizing n order past with
  | _ rank' ih =>
    subst rank
    have perm := Router.statsTrace_perm n.settings order n.device
    have children : ∀ call ∈ (Router.statsTrace n.settings order n.device).map Prod.fst,
        n.device.childLocation? call.1 = some call.2 := by
      intro call listed
      exact Router.statsCalls_location _ (perm.mem_iff.mp listed)
    obtain ⟨reached, calls, answers, after⟩ := foldl_answers asked member
      (fun m port location behind there order past =>
        ih _ (acyclic.child_below rfl member behind there) (at?_mem there) order past rfl)
      _ children past
    refine ⟨_, reached, calls, perm, answers, ?_⟩
    rw [serveStats_value _ distinct member]
    exact after

/-! ### Calls in memory -/

theorem connector_getStats (depth : Nat) (caller : String) (location : Location) {w : Network}
    (direct : w.links = .direct) (v : Verbosity) :
    ((connector (depth + 1) caller).getStats location w).value v =
      match w.meet location with
      | .error error => (.error error, w.record caller location none)
      | .ok child =>
        let served := (serveStats (connector depth child.name) child inOrder
          (w.record caller location none)).value v
        (.ok served.1, served.2.2) := by
  have links : (w.record caller location none).links = .direct := direct
  have meets : (w.record caller location none).meet location = w.meet location := rfl
  simp only [connector, links, meets]
  cases w.meet location with
  | error error => rfl
  | ok child => simp only [Traced.value_bind, Traced.value_pure]

theorem foldl_ask_extends {conn : Connector Network} {v : Verbosity}
    (each : ∀ location (w : Network), w.links = .direct →
      ∃ calls, ((conn.getStats location w).value v).2 = w.extend calls)
    (todo : List (Int32 × Location)) {w : Network} (direct : w.links = .direct) :
    ∃ calls, todo.foldl (Router.ask conn v) w = w.extend calls := by
  induction todo generalizing w with
  | nil => exact ⟨[], (extend_nil w).symm⟩
  | cons call rest ih =>
    obtain ⟨first, asked⟩ := each call.2 w direct
    obtain ⟨later, answered⟩ := ih (w := w.extend first) direct
    refine ⟨first ++ later, ?_⟩
    rw [List.foldl_cons, Router.ask, asked, answered, extend_extend]

/-- A call for counters changes nothing but the record of calls, however many routers take part. -/
theorem getStats_extends (depth : Nat) (caller : String) (location : Location) {w : Network}
    (direct : w.links = .direct) (v : Verbosity) :
    ∃ calls, (((connector depth caller).getStats location w).value v).2 = w.extend calls := by
  induction depth generalizing caller location w with
  | zero => exact ⟨_, rfl⟩
  | succ depth ih =>
    rw [connector_getStats depth caller location direct]
    cases w.meet location with
    | error error => exact ⟨_, rfl⟩
    | ok m =>
      have below : ∀ location (w : Network), w.links = .direct →
          ∃ calls, (((connector depth m.name).getStats location w).value v).2 = w.extend calls :=
        fun location w direct => ih m.name location direct
      simp only [serveStats, Router.collectStats_value]
      obtain ⟨calls, asked⟩ := foldl_ask_extends below
        ((Router.statsTrace m.settings inOrder
          (deviceOf m.device m.name (w.record caller location none))).map Prod.fst)
        (w := w.record caller location none) direct
      refine ⟨[⟨caller, location.host, none⟩] ++ calls, ?_⟩
      rw [asked, record_eq, extend_extend]

theorem foldl_ask_congr {C D : Connector Network} {v : Verbosity} {w : Network}
    (todo : List (Int32 × Location))
    (alike : ∀ call ∈ todo, ∀ past,
      Router.ask C v (w.extend past) call = Router.ask D v (w.extend past) call)
    (grows : ∀ call past, ∃ more, Router.ask D v (w.extend past) call = w.extend more)
    (past : List Nested) :
    todo.foldl (Router.ask C v) (w.extend past) = todo.foldl (Router.ask D v) (w.extend past) := by
  induction todo generalizing past with
  | nil => rw [List.foldl_nil, List.foldl_nil]
  | cons call rest ih =>
    obtain ⟨more, grown⟩ := grows call past
    rw [List.foldl_cons, List.foldl_cons, alike call List.mem_cons_self past, grown]
    exact ih (fun call later => alike call (List.mem_cons_of_mem _ later)) more

theorem serveStats_depth {w : Network} (direct : w.links = .direct) (distinct : w.names.Nodup)
    (acyclic : w.Acyclic) (v : Verbosity) {d e : Nat} {n : Node} (member : n ∈ w.nodes)
    (below_d : w.below n.name < d) (below_e : w.below n.name < e)
    (order : Fanout (Int32 × Location) → Nat) (past : List Nested) :
    (serveStats (connector d n.name) n order (w.extend past)).value v =
      (serveStats (connector e n.name) n order (w.extend past)).value v := by
  induction d generalizing e n order past with
  | zero => cases below_d
  | succ d ih =>
    cases e with
    | zero => cases below_e
    | succ e =>
      have links : ∀ past, (w.extend past).links = .direct := fun _ => direct
      have perm := Router.statsTrace_perm n.settings order n.device
      rw [serveStats_value _ distinct member, serveStats_value _ distinct member, foldl_ask_congr]
      · intro call listed past
        have behind := Router.statsCalls_location _ (perm.mem_iff.mp listed)
        simp only [Router.ask, connector_getStats _ _ _ (links past)]
        cases met : (w.extend past).meet call.2 with
        | error error => rfl
        | ok m =>
          have lower := acyclic.child_below rfl member behind (meet_ok met)
          simp only [record_eq, extend_extend]
          rw [ih (e := e) (at?_mem (meet_ok met)) (by omega) (by omega)]
      · intro call past
        obtain ⟨more, grown⟩ := getStats_extends (e + 1) n.name call.2 (links past) v
        refine ⟨past ++ more, ?_⟩
        rw [Router.ask, grown, extend_extend]

theorem connectorOf_asked {w : Network} (direct : w.links = .direct) (distinct : w.names.Nodup)
    (acyclic : w.Acyclic) (v : Verbosity) : w.Asked (connectorOf w) v := by
  intro past n member port location behind
  have links : (w.extend past).links = .direct := direct
  have few := acyclic.below_lt_length member
  obtain ⟨depth, routers⟩ : ∃ depth, w.nodes.length = depth + 1 :=
    Nat.exists_eq_succ_of_ne_zero (by omega)
  simp only [Asks, connectorOf, routers, connector_getStats _ _ _ links]
  cases met : (w.extend past).meet location with
  | error error => exact .inl ⟨error, rfl⟩
  | ok m =>
    have lower := acyclic.child_below rfl member behind (meet_ok met)
    have equal := serveStats_depth (d := depth) (e := depth + 1) direct distinct acyclic v
      (at?_mem (meet_ok met)) (by omega) (by omega) inOrder
      (past ++ [⟨n.name, location.host, none⟩])
    refine .inr ⟨m, inOrder, meet_ok met, ?_⟩
    simp only [record_eq, extend_extend, equal]

/-! ### Requests for counters -/

theorem serveStats_surveys {conn : String → Connector Network} {v : Verbosity} {w : Network}
    (distinct : w.names.Nodup) (acyclic : w.Acyclic) (asked : w.Asked conn v) {n : Node}
    (member : n ∈ w.nodes) (order : Fanout (Int32 × Location) → Nat) :
    let outcome := (serveStats (conn n.name) n order w).value v
    ∃ todo reached calls, todo.Perm (Router.statsCalls n.device) ∧
      Answers w.at? n.name todo reached calls ∧
      outcome.2.2 = { w with calls := w.calls ++ calls } ∧
      (n.device.role = .terminal → outcome.1 = n.device.metrics) ∧
      calls.Perm ((n :: reached).flatMap Node.inquiries) := by
  intro outcome
  obtain ⟨todo, reached, calls, perm, answers, after⟩ :=
    serveStats_answers distinct acyclic asked member order []
  have own := deviceOf_extend distinct member n.device
  rw [extend_nil, List.nil_append] at after
  refine ⟨todo, reached, calls, perm, answers, after, ?_, ?_⟩
  · intro role
    have here : deviceOf n.device n.name w = n.device := by
      have start := own []
      rwa [extend_nil] at start
    have snapshot := (Router.collectStats_fannedOut (conn n.name) n.settings order
      (deviceOf n.device n.name) w v).terminal (by rw [here]; exact role)
    have same : outcome.1 = (deviceOf n.device n.name outcome.2.2).metrics := snapshot
    rw [same, after]
    exact congrArg Device.metrics (own calls)
  · exact answers.perm.trans ((perm.map _).append_right _)

/--
A request for counters asks every child that has a location, once and within the bound, and takes
the counters that it answers after all calls have come back. It answers them whatever the calls did.
In a hierarchy, every child that is reached does so as well, and no node changes.
-/
theorem stats_ask_each_child_once :
    (∀ (ω : Type) (C : Connector ω) (s : Settings) (order : Fanout (Int32 × Location) → Nat)
      (own : ω → Device) (w : ω) (v : Verbosity), Router.FannedOut C s order own w v) ∧
    ∀ (conn : String → Connector Network) (v : Verbosity) (w : Network),
      w.names.Nodup → w.Acyclic → w.Asked conn v →
      ∀ n ∈ w.nodes, ∀ order : Fanout (Int32 × Location) → Nat,
        let outcome := (serveStats (conn n.name) n order w).value v
        ∃ todo reached calls, todo.Perm (Router.statsCalls n.device) ∧
          Answers w.at? n.name todo reached calls ∧
          outcome.2.2 = { w with calls := w.calls ++ calls } ∧
          (n.device.role = .terminal → outcome.1 = n.device.metrics) ∧
          calls.Perm ((n :: reached).flatMap Node.inquiries) := by
  refine ⟨?_, ?_⟩
  · intro ω C s order own w v
    exact Router.collectStats_fannedOut C s order own w v
  · intro conn v w distinct acyclic asked n member order
    exact serveStats_surveys distinct acyclic asked member order

theorem stats_ask_each_child_once_pair :
    let olt := pair.nodes.head (by decide)
    let outcome := (serveStats (connectorOf pair olt.name) olt inOrder pair).value (.upTo .info)
    pair.names.Nodup ∧ pair.Acyclic ∧ pair.Asked (connectorOf pair) (.upTo .info) ∧
      ∃ asked reached calls, Answers pair.at? olt.name asked reached calls ∧
        outcome.2.2 = { pair with calls := pair.calls ++ calls } := by
  intro olt outcome
  have distinct : pair.names.Nodup := by decide
  have asked := connectorOf_asked rfl distinct pair_acyclic (.upTo .info)
  obtain ⟨todo, reached, calls, -, answers, after, -⟩ :=
    stats_ask_each_child_once.2 _ _ _ distinct pair_acyclic asked olt (List.head_mem _) inOrder
  exact ⟨distinct, pair_acyclic, asked, todo, reached, calls, answers, after⟩

end Network
end OpticalAccess
