import OpticalAccess.Proofs.Plant.Parts

/-!
# A network at work

Controllers, routers, relays and the calls between routers work on all devices of a network at the
same time. A task runs on its own from one point at which it may have to wait to the next; between
two such points anything else may happen. A run is a list of acts in any order, and the acts say as
well which calls fail and how. A run leaves a log of what the callers learned and of the calls made.
-/

namespace OpticalAccess

/-! ### Sessions -/

namespace Device

/-- The queue for controllers; a subscriber has none, and its relays never ask for one. -/
def queue (d : Device) : IngressQueue Nat :=
  match d.machine with
  | .terminal t => t.queue
  | .subscriber _ => .empty 1

def setQueue (d : Device) (queue : IngressQueue Nat) : Device :=
  match d.machine with
  | .terminal t => { d with machine := .terminal { t with queue } }
  | .subscriber _ => d

def counters (d : Device) : Counters :=
  match d.machine with
  | .terminal t => t.counters
  | .subscriber s => s.counters

def closeIngress (d : Device) : Device :=
  match d.machine with
  | .terminal t => { d with machine := .terminal t.closeIngress }
  | .subscriber _ => d

end Device

namespace Session

/-- A session whose stream is open, and the task of whose relay has not run yet. -/
def opened (call buffer : Nat) : Session := ⟨call, .ready, { capacity := max 1 buffer }⟩

/-- The task of the relay runs for the first time, up to where the relay asks for a frame. -/
def begin (s : Session) (d : Device) : Traced Session := do
  return { s with phase := ← Relay.begin d.role d.location }

theorem start_parts (d : Device) (call buffer : Nat) :
    start d call buffer = (opened call buffer).begin d := rfl

/-- Whether a move is one of the task of the relay. -/
def Move.isRelay : Move → Bool
  | .relay | .report => true
  | _ => false

/-- A move of a session, with what it logs. -/
def perform (address : String) (q : IngressQueue Nat) (s : Session) :
    Move → Traced (Session × IngressQueue Nat × List Note)
  | .relay => do
    match ← Relay.step address Relay.streamSink s.call ⟨q, s.stream, s.phase⟩ with
    | none => return (s, q, [])
    | some after =>
      return ({ s with phase := after.phase, stream := after.sink }, after.queue,
        relayNotes s.phase after.phase)
  | other => return s.move .off address q other

theorem perform_value (v : Verbosity) (address : String) (q : IngressQueue Nat) (s : Session)
    (m : Move) : (s.perform address q m).value v = s.move v address q m := by
  cases m with
  | relay =>
    simp only [perform, move, Traced.value_bind]
    cases (Relay.step address Relay.streamSink s.call ⟨q, s.stream, s.phase⟩).value v <;> rfl
  | report | fetch | read | drop => rfl

end Session

/-! ### Stations -/

/-- A device with everything that is under way on it. -/
structure Station where
  device : Device
  settings : Settings := {}
  sessions : List Session := []
  /-- The number of sessions opened so far. -/
  opened : Nat := 0
  /-- Frames that came to a port of the device. -/
  arrivals : List Passage := []
  /-- Frames of the controller, in the order in which they were submitted. -/
  submissions : List (Frame × Delivery) := []
  /-- The request that has the lock of the flow table. -/
  writer : Option Nat := none
  /-- The sessions, by place, the tasks of whose relays have not run yet. -/
  unstarted : List Nat := []

namespace Station

inductive Act where
  /-- The controller sends a frame. -/
  | submit (payload : Bytes)
  /-- The task of a frame of the controller goes on. -/
  | deliver (index : Nat)
  /-- A frame comes to a port. -/
  | arrive (port : Int32) (payload : Bytes)
  | forward (index : Nat)
  | closeIngress
  /-- Forwarding goes out of order, or is repaired. -/
  | outage (fault : Option DeviceError)
  | info
  | openStream
  /-- The task of a relay runs for the first time. -/
  | startRelay (index : Nat)
  | session (index : Nat) (move : Session.Move)

inductive Note where
  /-- The controller learned that its frame was taken. -/
  | acknowledged
  /-- The task of a frame of the controller called for a forward. -/
  | called (index : Nat) (port : Int32) (payload : Bytes)
  /-- The forward of a frame that came to a port is over. -/
  | arrived (index : Nat) (result : Except DeviceError Unit)
  | info (info : DeviceInfo)
  | opened (accepted : Bool)
  | session (index : Nat) (note : Session.Note)

/-- The first step of a task is to call for a forward, and what it calls with is noted. -/
def deliveryNotes (index : Nat) : Delivery → Delivery → List Note
  | .waiting, .forwarding passage => [.called index passage.port passage.frame.payload]
  | _, _ => []

/-- A forward is over once. -/
def arrivalNotes (index : Nat) : Forward → Forward → List Note
  | .done _, _ => []
  | _, .done result => [.arrived index result]
  | _, _ => []

def step (s : Station) : Act → Traced (Station × List Note)
  | .submit payload => do
    Router.accept s.device ⟨payload⟩
    return ({ s with submissions := s.submissions ++ [(⟨payload⟩, .waiting)] }, [.acknowledged])
  | .deliver index =>
    match s.submissions[index]? with
    | none => return (s, [])
    | some (frame, delivery) => do
      let (next, device) ← Router.stepDelivery s.device frame delivery
      return ({ s with device, submissions := s.submissions.set index (frame, next) },
        deliveryNotes index delivery next)
  | .arrive port payload => do
    let passage ← s.device.call port ⟨payload⟩
    return ({ s with arrivals := s.arrivals ++ [passage] },
      arrivalNotes s.arrivals.length (.begun port ⟨payload⟩) passage.forward)
  | .forward index =>
    match s.arrivals[index]? with
    | none => return (s, [])
    | some passage => do
      let (forward, device) ← s.device.stepForward passage.forward
      return ({ s with device, arrivals := s.arrivals.set index { passage with forward } },
        arrivalNotes index passage.forward forward)
  | .closeIngress => return ({ s with device := s.device.closeIngress }, [])
  | .outage fault => return ({ s with device := { s.device with forwardFault := fault } }, [])
  | .info => return (s, [.info (← Router.deviceInfo s.device)])
  | .openStream => do
    if IngressQueue.validCapacity (max 1 s.settings.relayBuffer) then
      return ({ s with
          sessions := s.sessions ++ [.opened s.opened s.settings.relayBuffer]
          opened := s.opened + 1
          unstarted := s.unstarted ++ [s.sessions.length] },
        [.opened true])
    else return (s, [.opened false])
  | .startRelay index =>
    match s.sessions[index]? with
    | none => return (s, [])
    | some session => do
      if index ∈ s.unstarted then
        let session ← session.begin s.device
        return ({ s with
            sessions := s.sessions.set index session
            unstarted := s.unstarted.erase index }, [])
      else return (s, [])
  | .session index move =>
    match s.sessions[index]? with
    | none => return (s, [])
    | some session => do
      if index ∈ s.unstarted ∧ move.isRelay then return (s, [])
      let (session, queue, notes) ←
        session.perform s.device.location.address s.device.queue move
      return ({ s with
          device := s.device.setQueue queue
          sessions := s.sessions.set index session },
        notes.map (.session index))

end Station

/-! ### Requests -/

/-- How far a request is that brings a flow table. -/
inductive Update where
  | begun
  /-- Waits for the lock of the flow table. -/
  | locking
  /-- Has the lock, and has not written yet. -/
  | writing
  /-- Waits for the answer to a call. -/
  | calling (call : Nat)
  | ended (outcome : Outcome)
  /-- Nobody waits for the answer any more, and the request was given up. -/
  | dropped

/-- A child that is asked for its counters, and the number of the call. -/
structure Ask where
  port : Int32
  child : Location
  call : Nat

/-- How far a request for counters is. -/
inductive Survey where
  | begun
  | asking (asks : Fanout Ask)
  | ended (metrics : Metrics)
  | dropped

inductive Job where
  | update (table : FlowTable) (stage : Update)
  | survey (stage : Survey)

structure Task where
  /-- The station whose router serves the request. -/
  station : Nat
  /-- The call that brought the request; none if it is a controller's own. -/
  origin : Option Nat := none
  job : Job

/-- What the router of a child replies: that it took a table, or the counters it was asked for. -/
inductive Reply where
  | taken
  | counters (metrics : Metrics)

/-- The counters in a reply, of which there are none if a table was taken. -/
def Reply.metrics : Reply → Metrics
  | taken => Metrics.none
  | counters metrics => metrics

/-- How far a call from a router to a child is. -/
inductive Progress where
  | waiting
  | made
  /-- The child's router serves it by a task of its own. -/
  | serving (task : Nat)
  | answered (result : Except CallError Reply)

structure ChildCall where
  /-- The task that makes the call. -/
  caller : Nat
  location : Location
  /-- The table that it carries; a request for counters carries none. -/
  table : Option FlowTable
  progress : Progress := .waiting

namespace Job

/-- A request as it comes in: it brings a table, or it asks for counters. -/
def new : Option FlowTable → Job
  | some table => .update table .begun
  | none => .survey .begun

/-- The calls that a request has in flight. -/
def inFlight : Job → List Nat
  | .update _ (.calling call) => [call]
  | .survey (.asking asks) => asks.inFlight.map Ask.call
  | _ => []

/-- What a request that is over replies to whoever made it. -/
def reply? : Job → Option Reply
  | .update _ (.ended _) => some .taken
  | .survey (.ended metrics) => some (.counters metrics)
  | _ => none

def isOver : Job → Bool
  | .update _ .dropped | .survey .dropped => true
  | job => job.reply?.isSome

/-- A request may be given up wherever it waits. -/
def drop : Job → Job
  | .update table .writing => .update table .writing
  | .update table (.ended outcome) => .update table (.ended outcome)
  | .update table _ => .update table .dropped
  | .survey (.ended metrics) => .survey (.ended metrics)
  | .survey _ => .survey .dropped

end Job

namespace ChildCall

def result? (c : ChildCall) : Option (Except CallError Reply) :=
  match c.progress with
  | .answered result => some result
  | _ => none

def request (c : ChildCall) : Request := if c.table.isSome then .flows else .stats

end ChildCall

/-! ### The network and its tasks -/

structure Plant where
  stations : List Station
  links : Links := .direct
  /-- The requests; the number of a request is its place. -/
  tasks : List Task := []
  /-- The calls between routers; the number of a call is its place. -/
  calls : List ChildCall := []

namespace Plant

inductive CallMove where
  | make
  /-- The call reaches the router of a station at its location. -/
  | deliver (station : Nat)
  /-- The child's router has answered. -/
  | reply
  | fail (error : CallError)

inductive Act where
  | station (station : Nat) (act : Station.Act)
  /-- A controller's request: it brings a table, or it asks for counters. -/
  | request (station : Nat) (table : Option FlowTable)
  /-- A request goes on; of several calls in flight it looks at the one chosen. -/
  | task (task choice : Nat)
  | drop (task : Nat)
  | call (call : Nat) (move : CallMove)

inductive Note where
  | station (station : Nat) (note : Station.Note)
  | called (task : Nat) (location : Location) (table : Option FlowTable)
  | answered (call : Nat) (result : Except CallError Reply)
  /-- A request took the lock of a station's flow table. -/
  | locked (station task : Nat)
  /-- A request with a table was acknowledged; the outcome is what the router found. -/
  | outcome (task : Nat) (outcome : Outcome)
  | metrics (task : Nat) (metrics : Metrics)

/-- What a request does until it has to wait again: calls that it prepares are numbered on. -/
structure Turn where
  job : Job
  station : Station
  calls : List (Location × Option FlowTable) := []
  notes : List Note := []

/-- A request with a table is over. -/
def conclude (s : Station) (task : Nat) (table : FlowTable) (outcome : Outcome) : Traced Turn := do
  Router.dispatchEnded s.device table.port outcome
  return { job := .update table (.ended outcome), station := s, notes := [.outcome task outcome] }

def updateTurn (s : Station) (place task fresh : Nat)
    (answer : Nat → Option (Except CallError Reply)) (table : FlowTable) : Update → Traced Turn
  | .begun => do
    Router.dispatchBegun s.device table
    match Router.target s.device table.port with
    | .device => return { job := .update table .locking, station := s }
    | .child location =>
      return { job := .update table (.calling fresh), station := s, calls := [(location, table)] }
    | .unknown => conclude s task table .targetUnknown
  | .locking => do
    match s.device.installFault, s.writer with
    | some _, _ =>
      let (result, device) ← s.device.install table.flows
      conclude { s with device } task table (Router.installed result)
    | none, some _ => return { job := .update table .locking, station := s }
    | none, none =>
      return { job := .update table .writing, station := { s with writer := some task },
               notes := [.locked place task] }
  | .writing => do
    let (result, device) ← s.device.install table.flows
    conclude { s with device, writer := none } task table (Router.installed result)
  | .calling call =>
    match answer call with
    | some result => conclude s task table (Router.forwarded result)
    | none => return { job := .update table (.calling call), station := s }
  | stage => return { job := .update table stage, station := s }

/-- Numbers the children that are asked. -/
def asks (fresh : Nat) (calls : List (Int32 × Location)) : List Ask :=
  calls.mapIdx fun i call => ⟨call.1, call.2, fresh + i⟩

def surveyTurn (s : Station) (task fresh : Nat) (answer : Nat → Option (Except CallError Reply))
    (choice : Nat) : Survey → Traced Turn
  | .begun => do
    Traced.emit (.statsStarted s.device.location s.device.role)
    let calls := Router.statsCalls s.device
    return { job := .survey (.asking (.new s.settings.statsFanout (asks fresh calls)))
             station := s, calls := calls.map fun call => (call.2, none) }
  | .asking f => do
    let f := f.launch
    match f.settle choice with
    | none =>
      let metrics := Router.shownMetrics s.device
      Traced.emit (.statsDone s.device.location metrics)
      return { job := .survey (.ended metrics), station := s, notes := [.metrics task metrics] }
    | some (ask, rest) =>
      match answer ask.call with
      | some result =>
        Router.childAnswered s.device ask.port ask.child (result.map Reply.metrics)
        return { job := .survey (.asking rest), station := s }
      | none => return { job := .survey (.asking f), station := s }
  | stage => return { job := .survey stage, station := s }

def turn (s : Station) (place task fresh : Nat) (answer : Nat → Option (Except CallError Reply))
    (choice : Nat) : Job → Traced Turn
  | .update table stage => updateTurn s place task fresh answer table stage
  | .survey stage => surveyTurn s task fresh answer choice stage

def answer (p : Plant) (call : Nat) : Option (Except CallError Reply) :=
  p.calls[call]?.bind ChildCall.result?

/-- Puts a request and its station where its turn has brought them. -/
def settle (p : Plant) (task : Nat) (t : Task) (turn : Turn) : Plant :=
  { p with
    stations := p.stations.set t.station turn.station
    tasks := p.tasks.set task { t with job := turn.job }
    calls := p.calls ++ turn.calls.map fun call => ⟨task, call.1, call.2, .waiting⟩ }

/-- A call has come back. -/
def finish (p : Plant) (call : Nat) (c : ChildCall) (result : Except CallError Reply) :
    Traced (Plant × List Note) := do
  match result with
  | .ok _ => pure ()
  | .error error => p.links.failing c.request c.location error
  return ({ p with calls := p.calls.set call { c with progress := .answered result } },
    [.answered call result])

def stepCall (p : Plant) (call : Nat) (c : ChildCall) : CallMove → Traced (Plant × List Note)
  | .make => do
    match c.progress with
    | .waiting =>
      if (p.tasks[c.caller]?).any fun t => t.job.inFlight.contains call then
        let made := { p with calls := p.calls.set call { c with progress := .made } }
        let note := Note.called c.caller c.location c.table
        match ← p.links.opening c.location with
        | none => return (made, [note])
        | some error =>
          let (after, notes) ← made.finish call c (.error error)
          return (after, note :: notes)
      else return (p, [])
    | _ => return (p, [])
  | .deliver station =>
    match c.progress, p.stations[station]? with
    | .made, some s =>
      if s.device.location = c.location then
        return ({ p with
            tasks := p.tasks ++ [⟨station, some call, .new c.table⟩]
            calls := p.calls.set call { c with progress := .serving p.tasks.length } }, [])
      else return (p, [])
    | _, _ => return (p, [])
  | .reply =>
    match c.progress with
    | .serving task =>
      match p.tasks[task]?.bind fun t => t.job.reply? with
      | some reply => p.finish call c (.ok reply)
      | none => return (p, [])
    | _ => return (p, [])
  | .fail error =>
    match c.progress with
    | .made | .serving _ => p.finish call c (.error error)
    | _ => return (p, [])

def step (p : Plant) : Act → Traced (Plant × List Note)
  | .station n act =>
    match p.stations[n]? with
    | none => return (p, [])
    | some s => do
      let (s, notes) ← s.step act
      return ({ p with stations := p.stations.set n s }, notes.map (.station n))
  | .request n table =>
    match p.stations[n]? with
    | none => return (p, [])
    | some _ => return ({ p with tasks := p.tasks ++ [⟨n, none, .new table⟩] }, [])
  | .task k choice =>
    match p.tasks[k]? with
    | none => return (p, [])
    | some t =>
      match p.stations[t.station]? with
      | none => return (p, [])
      | some s => do
        let turn ← turn s t.station k p.calls.length p.answer choice t.job
        return (p.settle k t turn, turn.notes)
  | .drop k =>
    match p.tasks[k]? with
    | none => return (p, [])
    | some t => return ({ p with tasks := p.tasks.set k { t with job := t.job.drop } }, [])
  | .call k move =>
    match p.calls[k]? with
    | none => return (p, [])
    | some c => p.stepCall k c move

def run : Plant → List Act → Traced (Plant × List Note)
  | p, [] => return (p, [])
  | p, act :: rest => do
    let (next, notes) ← p.step act
    let (last, later) ← run next rest
    return (last, notes ++ later)

/-- A network before anybody works on it. -/
def ofNetwork (w : Network) : Plant where
  stations := w.nodes.map fun n =>
    { device := n.device, settings := n.settings, sessions := n.sessions, opened := w.opened }
  links := w.links

end Plant
end OpticalAccess
