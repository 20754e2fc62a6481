import OpticalAccess.Proofs.Hierarchy.StatsSurvey
import OpticalAccess.Proofs.Location.Dialled
import OpticalAccess.Proofs.Plant.Parts

/-!
# What requests leave in the log

A router answers every request alike, whatever became of it. What became of it is in the log: a
request begins and ends with an event of its own, and in between there is one outcome for each
child that was called. Calls that are dialled add how they were made and why they failed.
-/

namespace OpticalAccess

/-! ### Outcomes in the log -/

namespace Event

/-- The outcome that an event tells of. -/
def outcome? : Event → Option Outcome
  | dispatched _ _ _ outcome => some outcome
  | flowUpdateDone _ _ outcome => some outcome
  | _ => none

theorem lookup_outcome (e : Event) :
    e.fields.lookup "outcome" = e.outcome?.map fun outcome => .text outcome.label := by
  cases e with
  | dispatched request device port outcome => cases request <;> rfl
  | _ => rfl

theorem lookup_port_dispatched (request : Request) (device : Location) (port : Int32)
    (outcome : Outcome) :
    (dispatched request device port outcome).fields.lookup "port" = some (.number port.toInt) := by
  cases request <;> rfl

theorem lookup_reason_dispatched (request : Request) (device : Location) (port : Int32)
    (outcome : Outcome) :
    (dispatched request device port outcome).fields.lookup "reason" =
      outcome.reason?.map .text := by
  cases request <;> cases outcome <;> rfl

end Event

/-! ### Flow tables -/

namespace Router

variable (C : Connector ω)

/-- What is logged while a flow table is on its way: by the device, or by the call to the child. -/
def conveyLog (d : Device) (table : FlowTable) (w : ω) : List Event :=
  match target d table.port with
  | .device => (d.install table.flows).events .full
  | .child location => (C.updateFlowTable location table w).events .full
  | .unknown => []

def startLog (d : Device) (table : FlowTable) : Event :=
  .flowUpdateStarted d.location d.role table.port (FlowRule.idText table.flows)

/-- What is logged of the outcome of a request that brought a flow table. -/
def endLog (device : Location) (port : Int32) (outcome : Outcome) : List Event :=
  [.dispatched .flows device port outcome, .flowUpdateDone device port outcome]

theorem events_dispatchEnded (d : Device) (port : Int32) (outcome : Outcome) :
    (dispatchEnded d port outcome).events .full = endLog d.location port outcome := by
  simp [dispatchEnded, endLog]

theorem convey_location (d : Device) (table : FlowTable) (w : ω) (v : Verbosity) :
    ((convey C d table w).value v).2.1.location = d.location := by
  unfold convey
  split
  · rw [Traced.value_bind, Device.install_value]
    cases d.installFault with
    | some fault => rfl
    | none => exact d.setFlows_location table.flows
  · rfl
  · rfl

theorem events_convey (d : Device) (table : FlowTable) (w : ω) :
    (convey C d table w).events .full = conveyLog C d table w := by
  unfold convey conveyLog
  cases target d table.port <;> simp

theorem events_dispatch (d : Device) (table : FlowTable) (w : ω) :
    (dispatch C d table w).events .full =
      startLog d table :: (conveyLog C d table w ++
        endLog d.location table.port ((dispatch C d table w).value .full).1) := by
  have same := convey_location C d table w .full
  rw [dispatch_parts]
  simp only [dispatchBegun, Traced.events_bind, Traced.value_bind, Traced.events_emit,
    Traced.value_pure, Traced.events_pure, events_convey, events_dispatchEnded, same,
    Verbosity.full_enables, if_true, List.append_nil, List.singleton_append]
  rfl

/-! ### Counters -/

/-- What is logged of the answer of a child to a request for counters. -/
def answerLog (device : Location) (call : Int32 × Location) :
    Except CallError Metrics → List Event
  | .ok metrics =>
    [.childStatsReceived device call.2 metrics, .dispatched .stats device call.1 .applied]
  | .error error => [.dispatched .stats device call.1 (.targetUnreachable error.message)]

/-- What is logged while children are asked, one after the other. -/
def surveyLog (device : Location) : List (Int32 × Location) → ω → List Event
  | [], _ => []
  | call :: rest, w =>
    let answer := C.getStats call.2 w
    answer.events .full ++ answerLog device call (answer.value .full).1 ++
      surveyLog device rest (answer.value .full).2

theorem events_childAnswered (d : Device) (call : Int32 × Location)
    (result : Except CallError Metrics) :
    (childAnswered d call.1 call.2 result).events .full = answerLog d.location call result := by
  cases result <;> simp [childAnswered, answerLog]

theorem events_askChild (d : Device) (call : Int32 × Location) (w : ω) :
    (askChild C d call w).events .full =
      (C.getStats call.2 w).events .full ++
        answerLog d.location call ((C.getStats call.2 w).value .full).1 := by
  rw [askChild_parts]
  simp only [Traced.events_bind, Traced.events_pure, List.append_nil, events_childAnswered]

end Router

/-- What acts log that are done in the order in which their calls come back. -/
theorem Fanout.runWithin_events (order : Fanout κ → Nat) (act : κ → ω → Traced ω) (v : Verbosity)
    (log : List κ → ω → List Event) (nil : ∀ w, log [] w = [])
    (cons : ∀ call rest w, log (call :: rest) w =
      (act call w).events v ++ log rest ((act call w).value v))
    (fuel : Nat) (f : Fanout κ) (w : ω) :
    (runWithin order act fuel f w).events v = log ((trace order fuel f).map Prod.fst) w := by
  induction fuel generalizing f w with
  | zero => exact (nil w).symm
  | succ fuel ih =>
    simp only [runWithin, trace]
    cases f.launch.settle (order f.launch) with
    | none => exact (nil w).symm
    | some settled =>
      obtain ⟨call, rest⟩ := settled
      rw [List.map_cons, cons, ← ih]
      rfl

namespace Router

theorem events_collectStats (C : Connector ω) (s : Settings)
    (order : Fanout (Int32 × Location) → Nat) (own : ω → Device) (w : ω) :
    (collectStats C s order own w).events .full =
      .statsStarted (own w).location (own w).role ::
        (surveyLog C (own w).location ((statsTrace s order (own w)).map Prod.fst) w ++
          [.statsDone (own w).location ((collectStats C s order own w).value .full).1]) := by
  have asked := Fanout.runWithin_events order (askChild C (own w)) .full
    (surveyLog C (own w).location) (fun _ => rfl) fun call rest u => by
      rw [events_askChild, askChild_value]
      rfl
  unfold collectStats Fanout.run statsTrace
  simp only [Traced.events_bind, Traced.events_emit, Traced.events_pure, asked,
    Verbosity.full_enables, if_true, List.append_nil, List.singleton_append]
  rfl

end Router

/-! ### Dialled calls -/

namespace Dialer

/-- What is logged of a dialled call that is over. -/
def failureLog (request : Request) (child : Location) : Except CallError α → List Event
  | .ok _ => []
  | .error (.connect host fault) =>
    [.connectFailed host fault, .callFailed request child.host (.connect host fault)]
  | .error error => [.callFailed request child.host error]

/-- What a peer logs when it is called, which it is if the location is an endpoint. -/
def peerLog (d : Dialer) (child : Location) (peer : Peer ω α) (w : ω) : List Event :=
  match d.endpointFault? child with
  | some _ => []
  | none => peer.events w .full

theorem events_call (d : Dialer) (request : Request) (child : Location) (peer : Peer ω α) (w : ω) :
    (d.call request child peer w).events .full =
      .connectStarted child.host d.tls.isSome ::
        (d.peerLog child peer w ++
          failureLog request child ((d.call request child peer w).value .full).1) := by
  unfold call attempt peerLog
  cases d.endpointFault? child with
  | some fault => simp [failureLog]
  | none =>
    cases peer with
    | absent => simp [failureLog, Peer.events]
    | silent => simp [failureLog, Peer.events]
    | serving answer =>
      simp only [Traced.events_bind, Traced.value_bind, Traced.events_emit, Peer.events,
        Verbosity.full_enables, if_true, List.cons_append, List.cons.injEq, true_and]
      cases ((answer w).value .full).1 <;> simp [failureLog]

end Dialer
end OpticalAccess
