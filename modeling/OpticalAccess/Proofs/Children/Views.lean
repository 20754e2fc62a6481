import OpticalAccess.Proofs.Children.Requests
import OpticalAccess.Proofs.Configuration.Topology
import OpticalAccess.Proofs.Hierarchy.FlowRoute
import OpticalAccess.Proofs.Hierarchy.StatsSurvey

/-!
# Three views of the children

A terminal lists the ports of its children, passes flow tables on to them and asks them for their
counters. Each of the three goes through the registry in its own way, and all of them find the same
children.
-/

namespace OpticalAccess

/-! ### The record of calls -/

/-- A call that a router makes to a child. -/
inductive Issued where
  | flows (location : Location) (table : FlowTable)
  | stats (location : Location)

/-- A connector whose world has a record of the calls that are made. -/
def Connector.recorded (C : Connector ω) : Connector (ω × List Issued) where
  updateFlowTable location table w := do
    let (result, after) ← C.updateFlowTable location table w.1
    return (result, after, w.2 ++ [.flows location table])
  getStats location w := do
    let (result, after) ← C.getStats location w.1
    return (result, after, w.2 ++ [.stats location])

namespace Router

/-- What becomes of a flow table, and the calls that it leads to. -/
def passed (C : Connector ω) (d : Device) (w : ω) (v : Verbosity) (table : FlowTable) :
    Outcome × List Issued :=
  let (outcome, _, _, calls) := (dispatch C.recorded d table (w, [])).value v
  (outcome, calls)

/-- The calls that a request for counters leads to. -/
def inquired (C : Connector ω) (s : Settings) (order : Fanout (Int32 × Location) → Nat)
    (own : ω × List Issued → Device) (w : ω) (v : Verbosity) : List Issued :=
  ((collectStats C.recorded s order own (w, [])).value v).2.2.2

theorem passed_eq (C : Connector ω) (d : Device) (w : ω) (v : Verbosity) (table : FlowTable) :
    passed C d w v table =
      match target d table.port with
      | .device => (installed ((d.install table.flows).value v).1, [])
      | .child location =>
        (forwarded ((C.updateFlowTable location table w).value v).1, [.flows location table])
      | .unknown => (.targetUnknown, []) := by
  unfold passed
  rw [dispatch_value]
  cases target d table.port <;> rfl

theorem foldl_ask_recorded (C : Connector ω) (v : Verbosity) (todo : List (Int32 × Location))
    (w : ω) (calls : List Issued) :
    todo.foldl (ask C.recorded v) (w, calls) =
      (todo.foldl (ask C v) w, calls ++ todo.map fun call => .stats call.2) := by
  induction todo generalizing w calls with
  | nil => simp
  | cons call rest ih =>
    have asked : ask C.recorded v (w, calls) call =
        (ask C v w call, calls ++ [.stats call.2]) := rfl
    rw [List.foldl_cons, List.foldl_cons, asked, ih, List.map_cons, List.append_assoc,
      List.singleton_append]

theorem inquired_eq (C : Connector ω) (s : Settings) (order : Fanout (Int32 × Location) → Nat)
    (own : ω × List Issued → Device) (w : ω) (v : Verbosity) :
    inquired C s order own w v =
      (statsTrace s order (own (w, []))).map fun moment => .stats moment.1.2 := by
  unfold inquired
  rw [collectStats_value, foldl_ask_recorded, List.nil_append, List.map_map]
  rfl

/-! ### A terminal on a registry -/

section Terminals
variable {d : Device} {r : Registry}

theorem childLocation?_of_shows (shows : d.view = r.view) (port : Int32) :
    d.childLocation? port = r.find? port := by
  rw [Device.childLocation?, shows]
  rfl

theorem childPorts_of_shows (shows : d.view = r.view) : d.childPorts = r.ports := by
  rw [Device.childPorts, shows]
  rfl

theorem mem_uniPorts (shows : d.view = r.view) {port : Int32} :
    port ∈ (info d).uniPorts ↔ r.find? port ≠ none := by
  have apart (member : port ∈ r.ports) : port ≠ uplinkPort := fun uplink =>
    r.uplink_free (uplink ▸ member)
  rw [info, (sortPorts_perm _).mem_iff, childPorts_of_shows shows, ne_eq,
    Registry.find?_eq_none_iff, not_not]
  simpa using apart

theorem uniPorts_ascending (shows : d.view = r.view) : (info d).uniPorts.Pairwise (· < ·) := by
  have distinct : d.childPorts.Nodup := childPorts_of_shows shows ▸ r.nodup
  exact sortPorts_ascending (distinct.filter _)

theorem find?_uplink (r : Registry) : r.find? uplinkPort = none :=
  Registry.find?_eq_none_iff.mpr r.uplink_free

/-- What a terminal on a registry makes of a table, with the calls that it leads to. -/
inductive Passed (r : Registry) (table : FlowTable) : Outcome × List Issued → Prop where
  | own (uplink : table.port = uplinkPort) (outcome : Outcome) (known : outcome ≠ .targetUnknown) :
      Passed r table (outcome, [])
  | child (apart : table.port ≠ uplinkPort) (location : Location)
      (behind : r.find? table.port = some location) (outcome : Outcome)
      (known : outcome ≠ .targetUnknown) : Passed r table (outcome, [.flows location table])
  | unknown (apart : table.port ≠ uplinkPort) (absent : r.find? table.port = none) :
      Passed r table (.targetUnknown, [])

theorem installed_known (result : Except DeviceError Unit) : installed result ≠ .targetUnknown := by
  cases result <;> simp [installed]

theorem forwarded_known (result : Except CallError Unit) : forwarded result ≠ .targetUnknown := by
  cases result <;> simp [forwarded]

theorem passed_passed (C : Connector ω) (role : d.role = .terminal) (shows : d.view = r.view)
    (w : ω) (v : Verbosity) (table : FlowTable) : Passed r table (passed C d w v table) := by
  have targeted := target_targeted d table.port
  rw [passed_eq]
  generalize target d table.port = target at targeted
  cases targeted with
  | device own =>
    have uplink : table.port = uplinkPort := own.resolve_left (by simp [role])
    exact .own uplink _ (installed_known _)
  | child _ apart location behind =>
    rw [childLocation?_of_shows shows] at behind
    exact .child apart location behind _ (forwarded_known _)
  | unknown _ apart absent =>
    rw [childLocation?_of_shows shows] at absent
    exact .unknown apart absent

/-- A table leads to one call if there is a child behind its port, and to none otherwise. -/
theorem Passed.calls {table : FlowTable} {result : Outcome × List Issued}
    (passed : Passed r table result) :
    result.2 = ((r.find? table.port).map fun location => Issued.flows location table).toList := by
  cases passed with
  | own uplink => rw [uplink, find?_uplink]; rfl
  | child _ location behind => rw [behind]; rfl
  | unknown _ absent => rw [absent]; rfl

theorem Passed.unknown_iff {table : FlowTable} {result : Outcome × List Issued}
    (passed : Passed r table result) (apart : table.port ≠ uplinkPort) :
    result.1 = .targetUnknown ↔ r.find? table.port = none := by
  cases passed with
  | own uplink => exact absurd uplink apart
  | child _ location behind _ known => simp [behind, known]
  | unknown _ absent => simp [absent]

theorem mem_statsCalls (shows : d.view = r.view) {port : Int32} {location : Location} :
    (port, location) ∈ statsCalls d ↔ r.find? port = some location := by
  rw [← childLocation?_of_shows shows]
  refine ⟨statsCalls_location d, fun behind => ?_⟩
  have listed : port ∈ d.childPorts := by
    by_contra absent
    rw [childPorts_of_shows shows, ← Registry.find?_eq_none_iff, ← childLocation?_of_shows shows,
      behind] at absent
    cases absent
  exact List.mem_filterMap.mpr ⟨port, listed, by rw [behind]; rfl⟩

theorem statsCalls_nodup (shows : d.view = r.view) : ((statsCalls d).map Prod.fst).Nodup := by
  rw [statsCalls_ports]
  have distinct : d.childPorts.Nodup := childPorts_of_shows shows ▸ r.nodup
  exact distinct.filter _

end Terminals

/--
The children that are listed, to whom tables are passed and who are asked for counters are those
that are behind the ports of the terminal.
-/
structure Views (behind : Int32 → Option Location) (listed : List Int32)
    (passed : FlowTable → Outcome × List Issued) (asked : List (Int32 × Location)) : Prop where
  listed_iff_passed (table : FlowTable) :
    table.port ∈ listed ↔ table.port ≠ uplinkPort ∧ (passed table).2 ≠ []
  listed_iff_asked (port : Int32) : port ∈ listed ↔ port ∈ asked.map Prod.fst
  passed_or_unknown (table : FlowTable) (apart : table.port ≠ uplinkPort) :
    (passed table).2 = [] ↔ (passed table).1 = .targetUnknown
  passed_behind (table : FlowTable) (issued : (passed table).2 ≠ []) :
    ∃ location, behind table.port = some location ∧ (passed table).2 = [.flows location table]
  asked_behind (port : Int32) (location : Location) (issued : (port, location) ∈ asked) :
    behind port = some location
  asked_once : (asked.map Prod.fst).Nodup
  ascending : listed.Pairwise (· < ·)
  uplink (table : FlowTable) (own : table.port = uplinkPort) : (passed table).2 = []

theorem views_of_shows {d : Device} {r : Registry} (C : Connector ω) (role : d.role = .terminal)
    (shows : d.view = r.view) (w : ω) (v : Verbosity) {asked : List (Int32 × Location)}
    (perm : asked.Perm (statsCalls d)) :
    Views r.find? (info d).uniPorts (passed C d w v) asked where
  listed_iff_passed table := by
    rw [mem_uniPorts shows, (passed_passed C role shows w v table).calls]
    have apart (behind : r.find? table.port ≠ none) : table.port ≠ uplinkPort := fun uplink =>
      behind (uplink ▸ find?_uplink r)
    simpa using apart
  listed_iff_asked port := by
    rw [mem_uniPorts shows, Option.ne_none_iff_exists']
    simp only [List.mem_map, Prod.exists, exists_and_right, exists_eq_right, perm.mem_iff,
      mem_statsCalls shows]
  passed_or_unknown table apart := by
    have passed := passed_passed C role shows w v table
    rw [passed.calls, passed.unknown_iff apart]
    simp
  passed_behind table issued := by
    rw [(passed_passed C role shows w v table).calls] at issued ⊢
    cases behind : r.find? table.port with
    | none => simp [behind] at issued
    | some location => exact ⟨location, rfl, rfl⟩
  asked_behind port location issued := (mem_statsCalls shows).mp (perm.mem_iff.mp issued)
  asked_once := (perm.map _).nodup_iff.mpr (statsCalls_nodup shows)
  ascending := uniPorts_ascending shows
  uplink table own := by
    rw [(passed_passed C role shows w v table).calls, own, find?_uplink]
    rfl

/--
A terminal on a registry that was provisioned by any requests lists the ports that were granted, in
ascending order. It passes a table on, once, if its port was granted, and it asks the same children
for their counters, each of them once and at the same location. No table for the uplink is passed
on.
-/
theorem children_views_agree (requests : List Child) {d : Device} (role : d.role = .terminal)
    (shows : d.view = (Registry.requested requests).view) (C : Connector ω) (s : Settings)
    (order : Fanout (Int32 × Location) → Nat) (own : ω × List Issued → Device) (w : ω)
    (here : own (w, []) = d) (v : Verbosity) :
    ∃ asked, asked.Perm (statsCalls d) ∧
      inquired C s order own w v = asked.map (fun call => .stats call.2) ∧
      Views (Registry.granted requests) (info d).uniPorts (passed C d w v) asked := by
  have perm := statsTrace_perm s order d
  have views := views_of_shows C role shows w v perm
  rw [funext (Registry.find?_requested requests)] at views
  refine ⟨_, perm, ?_, views⟩
  rw [inquired_eq, here, List.map_map]
  rfl

/-- A port that was asked for twice keeps its first child, and the uplink gets none. -/
theorem children_views_agree_twice :
    let first : Location := ⟨"onu-1", 50061⟩
    let requests : List Child := [⟨5, first⟩, ⟨0, ⟨"olt", 50060⟩⟩, ⟨5, ⟨"onu-2", 50062⟩⟩]
    let d : Device := { machine := .terminal (.new ⟨"olt", 50060⟩ (.requested requests) 1) }
    let idle : Connector Unit :=
      ⟨fun _ _ w => return (.ok (), w), fun _ w => return (.ok Metrics.none, w)⟩
    5 ∈ (info d).uniPorts ∧ 0 ∉ (info d).uniPorts ∧
      inquired idle {} (fun _ => 0) (fun _ => d) () .off = [.stats first] := by
  intro first requests d idle
  obtain ⟨asked, perm, calls, views⟩ := children_views_agree requests (d := d) rfl rfl idle {}
    (fun _ => 0) (fun _ => d) () rfl .off
  have todo : statsCalls d = [(5, first)] := rfl
  rw [todo] at perm
  obtain rfl := List.perm_singleton.mp perm
  refine ⟨?_, ?_, calls⟩
  · exact (views.listed_iff_asked 5).mpr List.mem_cons_self
  · intro uplink
    exact ((views.listed_iff_passed ⟨0, []⟩).mp uplink).1 rfl

end Router
end OpticalAccess
