import OpticalAccess.Proofs.Fanout
import OpticalAccess.Proofs.Plant.Steps

/-!
# Requests that nothing comes between

A request of a network at work is served turn by turn, and its calls are served by others meanwhile.
If nothing comes between the turns and a connector answers the calls, then a request does and logs
exactly what the router of the device does.
-/

namespace OpticalAccess

variable {ω : Type}

namespace Fanout

/-- The same fan-out with other names for the calls. -/
def map (name : κ → μ) (f : Fanout κ) : Fanout μ :=
  { f with waiting := f.waiting.map name, inFlight := f.inFlight.map name }

theorem launch_map (name : κ → μ) (f : Fanout κ) : (f.map name).launch = f.launch.map name := by
  simp [launch, map]

theorem settle_map (name : κ → μ) (f : Fanout κ) (index : Nat) :
    (f.map name).settle index =
      (f.settle index).map fun settled => (name settled.1, settled.2.map name) := by
  simp only [settle, map, List.length_map, List.getElem?_map]
  cases f.inFlight[min index (f.inFlight.length - 1)]? with
  | none => rfl
  | some call => simp [List.eraseIdx_eq_take_drop_succ]

theorem size_map (name : κ → μ) (f : Fanout κ) : (f.map name).size = f.size := by
  simp [size, map]

end Fanout

theorem Router.forwarded_map (f : α → β) (result : Except CallError α) :
    forwarded (result.map f) = forwarded result := by
  cases result <;> rfl

/-- A request for counters reads what its child replied. -/
theorem Reply.metrics_map (result : Except CallError Metrics) :
    (result.map counters).map metrics = result := by
  cases result <;> rfl

namespace Plant

/-! ### Flow tables -/

/-- A request with a table, from its first turn to its last. -/
def updateAlone (C : Connector ω) (s : Station) (table : FlowTable) (w : ω) :
    Traced (Job × Station × ω) := do
  let first ← turn s 0 0 0 (fun _ => none) 0 (.update table .begun)
  match first.calls with
  | [] => do
    let second ← turn first.station 0 0 0 (fun _ => none) 0 first.job
    let third ← turn second.station 0 0 0 (fun _ => none) 0 second.job
    return (third.job, third.station, w)
  | (child, _) :: _ => do
    let (result, w) ← C.updateFlowTable child table w
    let second ← turn first.station 0 0 0 (fun _ => some (result.map fun _ => .taken)) 0 first.job
    return (second.job, second.station, w)

/-- A request with a table comes to what the router of its device makes of the table. -/
theorem updateAlone_eq (C : Connector ω) {s : Station} (free : s.writer = none) (table : FlowTable)
    (w : ω) : updateAlone C s table w = do
      let after ← Router.dispatch C s.device table w
      return (.update table (.ended after.1), { s with device := after.2.1 }, after.2.2) := by
  obtain ⟨device, settings, sessions, opened, arrivals, submissions, writer⟩ := s
  obtain rfl : writer = none := free
  rw [Router.dispatch_parts]
  simp only [updateAlone, turn, updateTurn, Router.convey, bind_assoc, pure_bind]
  refine bind_congr fun _ => ?_
  cases target : Router.target device table.port with
  | device =>
    cases fault : device.installFault with
    | none => simp [fault, conclude]
    | some error => simp [fault, conclude, Device.install]
  | child location => simp [conclude, Router.forwarded_map]
  | unknown => simp [conclude]

/-! ### Counters -/

/-- The child that is asked, as the router of the device names it. -/
def Ask.target (ask : Ask) : Int32 × Location := (ask.port, ask.child)

theorem asks_target (fresh : Nat) (calls : List (Int32 × Location)) :
    (asks fresh calls).map Ask.target = calls := by
  refine List.ext_getElem? fun i => ?_
  cases found : calls[i]? <;> simp [asks, Ask.target, found]

/--
The turns of a request for counters once its calls are made. Of the calls in flight a connector
answers the one that `order` picks, and then the request looks at it.
-/
def surveyLoop (C : Connector ω) (own : ω → Station) (order : Fanout (Int32 × Location) → Nat) :
    (fuel : Nat) → Fanout Ask → ω → Traced (List Note × ω)
  | 0, _, w => return ([], w)
  | fuel + 1, f, w =>
    let choice := order (f.launch.map Ask.target)
    match f.launch.settle choice with
    | none => do
      let last ← surveyTurn (own w) 0 0 (fun _ => none) choice (.asking f)
      return (last.notes, w)
    | some (ask, _) => do
      let (result, w) ← C.getStats ask.child w
      let turn ← surveyTurn (own w) 0 0 (fun _ => some (result.map .counters)) choice (.asking f)
      match turn.job with
      | .survey (.asking rest) => surveyLoop C own order fuel rest w
      | _ => return (turn.notes, w)

/-- A request for counters, from its first turn to its last. -/
def surveyAlone (C : Connector ω) (own : ω → Station) (order : Fanout (Int32 × Location) → Nat)
    (w : ω) : Traced (List Note × ω) := do
  let first ← surveyTurn (own w) 0 0 (fun _ => none) 0 .begun
  match first.job with
  | .survey (.asking f) => surveyLoop C own order (f.size + 1) f w
  | _ => return (first.notes, w)

section Surveys
variable (C : Connector ω) {own : ω → Station} (order : Fanout (Int32 × Location) → Nat) {w : ω}
  (stays : ∀ u, (own w).device.Stays (own u).device)
include stays

theorem surveyLoop_eq {fuel : Nat} {f : Fanout Ask} (enough : f.size < fuel) (u : ω) :
    surveyLoop C own order fuel f u = do
      let after ← Fanout.runWithin order (Router.askChild C (own w).device) fuel
        (f.map Ask.target) u
      let metrics := Router.shownMetrics (own after.1).device
      Traced.emit (.statsDone (own w).device.location metrics)
      return ([.metrics 0 metrics], after.1) := by
  induction fuel generalizing f u with
  | zero => cases enough
  | succ fuel ih =>
    have total := f.launch_size
    have settles := f.launch.settle_settles (order (f.launch.map Ask.target))
    simp only [surveyLoop, surveyTurn, Fanout.runWithin, Fanout.launch_map, Fanout.settle_map]
    generalize f.launch.settle (order (f.launch.map Ask.target)) = outcome at settles ⊢
    cases settles with
    | idle empty => simp [(stays u).location]
    | back before ask after split =>
      have fewer := congrArg List.length split
      simp only [List.length_append, List.length_cons] at fewer
      have rest : Fanout.size { f.launch with inFlight := before ++ after } < fuel := by
        simp only [Fanout.size, List.length_append] at total enough ⊢
        omega
      simp only [Option.map_some, Ask.target, Router.askChild_parts, Reply.metrics_map, bind_assoc,
        pure_bind, ih rest]
      refine bind_congr fun answer => ?_
      have logged : Router.childAnswered (own answer.2).device =
          Router.childAnswered (own w).device := by
        funext port child result
        cases result <;> simp only [Router.childAnswered, (stays answer.2).location]
      rw [logged]

/-- A request for counters comes to what the router of its device answers. -/
theorem surveyAlone_eq : surveyAlone C own order w = do
      let after ← Router.collectStats C (own w).settings order (fun u => (own u).device) w
      return ([.metrics 0 after.1], after.2.2) := by
  have named (limit : Nat) (calls : List (Int32 × Location)) :
      (Fanout.new limit (asks 0 calls)).map Ask.target = Fanout.new limit calls := by
    simp only [Fanout.map, Fanout.new, asks_target, List.map_nil]
  simp only [surveyAlone, surveyTurn, Router.collectStats, Fanout.run, bind_assoc, pure_bind]
  refine bind_congr fun _ => ?_
  rw [surveyLoop_eq C order stays (Nat.lt_succ_self _), ← Fanout.size_map Ask.target, named]
  refine bind_congr fun after => ?_
  cases role : (own w).device.role <;>
    simp only [Router.shownMetrics, (stays after.1).role, role]

end Surveys
end Plant
end OpticalAccess
