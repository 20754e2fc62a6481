import OpticalAccess.Proofs.Audit.Requests
import OpticalAccess.Proofs.Plant.Alone
import OpticalAccess.Proofs.Plant.Chains

/-!
# What a step logs

A request logs in its own turns, and a call in its own moves. What each of them adds to the log is
said here once, together with what becomes of the request or of the call.
-/

namespace OpticalAccess

/-! ### Devices -/

namespace Device

theorem events_install (d : Device) (flows : List FlowRule) :
    (d.install flows).events .full =
      match d.installFault with
      | some _ => []
      | none => [.flowsInstalled d.role d.location flows.length] := by
  unfold install
  cases d.installFault with
  | some fault => rfl
  | none => cases machine : d.machine <;>
      simp [role, location, machine, Terminal.install, Subscriber.install]

variable {d d' : Device}

theorem Stays.installed (stays : d.Stays d') (flows : List FlowRule) :
    ((d'.install flows).value .full).1 = ((d.install flows).value .full).1 := by
  simp only [install_value, stays.installFault]
  cases d.installFault <;> rfl

theorem Stays.events_install (stays : d.Stays d') (flows : List FlowRule) :
    (d'.install flows).events .full = (d.install flows).events .full := by
  rw [Device.events_install, Device.events_install, stays.installFault, stays.role, stays.location]

theorem Stays.startLog (stays : d.Stays d') (table : FlowTable) :
    Router.startLog d' table = Router.startLog d table := by
  simp only [Router.startLog, stays.role, stays.location]

theorem Stays.statsCalls (stays : d.Stays d') : Router.statsCalls d' = Router.statsCalls d := by
  simp only [Router.statsCalls, childPorts, childLocation?, stays.view]

theorem install_stays (d : Device) (flows : List FlowRule) :
    d.Stays ((d.install flows).value .full).2 := by
  rw [install_value]
  cases d.installFault with
  | some fault => exact .refl d
  | none => exact d.stays_setFlows flows

end Device

/-! ### Calls -/

namespace Links

/-- What a call logs when it is made. -/
def openLog (links : Links) (child : Location) : List Event :=
  match links with
  | .direct => []
  | .dialled dialer => [.connectStarted child.host dialer.tls.isSome]

/-- What a call logs when it is over. -/
def closeLog (links : Links) (request : Request) (child : Location)
    (result : Except CallError α) : List Event :=
  match links with
  | .direct => []
  | .dialled _ => Dialer.failureLog request child result

theorem events_opening (links : Links) (child : Location) :
    (links.opening child).events .full = links.openLog child := by
  cases links <;> simp [opening, openLog]

theorem events_failing (links : Links) (request : Request) (child : Location) (error : CallError) :
    (links.failing request child error).events .full =
      links.closeLog request child (.error error : Except CallError Reply) := by
  cases links with
  | direct => rfl
  | dialled dialer => cases error <;> simp [failing, closeLog, Dialer.failureLog]

end Links

/-- What a call has logged so far. -/
def ChildCall.log (links : Links) (c : ChildCall) : List Event :=
  match c.progress with
  | .waiting => []
  | .made | .serving _ => links.openLog c.location
  | .answered result => links.openLog c.location ++ links.closeLog c.request c.location result

namespace Plant

/-- The moves of a call, and what they log. -/
inductive CallTells (links : Links) (c : ChildCall) : Progress → List Event → Prop
  | made (waiting : c.progress = .waiting) : CallTells links c .made (links.openLog c.location)
  | refused (waiting : c.progress = .waiting) (error : CallError) :
      CallTells links c (.answered (.error error))
        (links.openLog c.location ++
          links.closeLog c.request c.location (.error error : Except CallError Reply))
  | served (made : c.progress = .made) (task : Nat) : CallTells links c (.serving task) []
  | answered (sent : c.progress = .made ∨ ∃ task, c.progress = .serving task)
      (result : Except CallError Reply) :
      CallTells links c (.answered result) (links.closeLog c.request c.location result)

variable {links : Links} {c : ChildCall} {progress : Progress} {events : List Event}

theorem CallTells.log (tells : CallTells links c progress events) :
    ({ c with progress } : ChildCall).log links = c.log links ++ events := by
  cases tells with
  | made waiting => simp [ChildCall.log, waiting]
  | refused waiting error => simp [ChildCall.log, waiting, ChildCall.request]
  | served made task => simp [ChildCall.log, made]
  | answered sent result =>
    obtain made | ⟨task, serving⟩ := sent
    · simp [ChildCall.log, made, ChildCall.request]
    · simp [ChildCall.log, serving, ChildCall.request]

/-- A call that is answered is answered once. -/
theorem CallTells.unanswered (tells : CallTells links c progress events) : c.result? = none := by
  cases tells with
  | made waiting | refused waiting => simp [ChildCall.result?, waiting]
  | served made => simp [ChildCall.result?, made]
  | answered sent =>
    obtain made | ⟨task, serving⟩ := sent
    · simp [ChildCall.result?, made]
    · simp [ChildCall.result?, serving]

/-! ### Requests -/

/-- The turns of a request of a station: the calls that it makes, and what it logs. -/
inductive Tells (s : Station) (fresh : Nat) (answer : Nat → Option (Except CallError Reply)) :
    Job → Job → List (Location × Option FlowTable) → List Event → Prop
  | rest (job : Job) : Tells s fresh answer job job [] []
  | own (table : FlowTable) (here : Router.target s.device table.port = .device) :
      Tells s fresh answer (.update table .begun) (.update table .locking) []
        [Router.startLog s.device table]
  | passed (table : FlowTable) (location : Location)
      (there : Router.target s.device table.port = .child location) :
      Tells s fresh answer (.update table .begun) (.update table (.calling fresh))
        [(location, some table)] [Router.startLog s.device table]
  | unknown (table : FlowTable) (nowhere : Router.target s.device table.port = .unknown) :
      Tells s fresh answer (.update table .begun) (.update table (.ended .targetUnknown)) []
        (Router.startLog s.device table ::
          Router.endLog s.device.location table.port .targetUnknown)
  | locked (table : FlowTable) :
      Tells s fresh answer (.update table .locking) (.update table .writing) [] []
  | installed (table : FlowTable) (stage : Update) (own : stage = .locking ∨ stage = .writing)
      (outcome : Outcome)
      (same : outcome = Router.installed ((s.device.install table.flows).value .full).1) :
      Tells s fresh answer (.update table stage) (.update table (.ended outcome)) []
        ((s.device.install table.flows).events .full ++
          Router.endLog s.device.location table.port outcome)
  | answered (table : FlowTable) (call : Nat) (result : Except CallError Reply)
      (found : answer call = some result) :
      Tells s fresh answer (.update table (.calling call))
        (.update table (.ended (Router.forwarded result))) []
        (Router.endLog s.device.location table.port (Router.forwarded result))
  | surveyed :
      Tells s fresh answer (.survey .begun)
        (.survey (.asking
          (.new s.settings.statsFanout (asks fresh (Router.statsCalls s.device)))))
        ((Router.statsCalls s.device).map fun call => (call.2, none))
        [.statsStarted s.device.location s.device.role]
  | waited (f : Fanout Ask) :
      Tells s fresh answer (.survey (.asking f)) (.survey (.asking f.launch)) [] []
  | settled (f rest : Fanout Ask) (choice : Nat) (ask : Ask) (result : Except CallError Reply)
      (back : f.launch.settle choice = some (ask, rest)) (found : answer ask.call = some result) :
      Tells s fresh answer (.survey (.asking f)) (.survey (.asking rest)) []
        (Router.answerLog s.device.location (Ask.target ask) (result.map Reply.metrics))
  | done (f : Fanout Ask) (choice : Nat) (nothing : f.launch.settle choice = none) :
      Tells s fresh answer (.survey (.asking f))
        (.survey (.ended (Router.shownMetrics s.device))) []
        [.statsDone s.device.location (Router.shownMetrics s.device)]

variable {s : Station} {fresh : Nat} {answer : Nat → Option (Except CallError Reply)}

theorem events_conclude (s : Station) (task : Nat) (table : FlowTable) (outcome : Outcome) :
    (conclude s task table outcome).events .full =
      Router.endLog s.device.location table.port outcome := by
  simp [conclude, Router.events_dispatchEnded]

theorem events_dispatchBegun (d : Device) (table : FlowTable) :
    (Router.dispatchBegun d table).events .full = [Router.startLog d table] := rfl

theorem installed_tells {table : FlowTable} {stage : Update}
    (own : stage = .locking ∨ stage = .writing) (task : Nat) {after : Station}
    (device : after.device = ((s.device.install table.flows).value .full).2) :
    let outcome := Router.installed ((s.device.install table.flows).value .full).1
    Tells s fresh answer (.update table stage) (.update table (.ended outcome)) []
      ((s.device.install table.flows).events .full ++
        (conclude after task table outcome).events .full) := by
  intro outcome
  rw [events_conclude, device, (s.device.install_stays table.flows).location]
  exact .installed table stage own outcome rfl

theorem updateTurn_tells (s : Station) (place task : Nat) (table : FlowTable) (stage : Update) :
    let turn := updateTurn s place task fresh answer table stage
    Tells s fresh answer (.update table stage) (turn.value .full).job (turn.value .full).calls
      (turn.events .full) := by
  cases stage with
  | begun =>
    simp only [updateTurn, Traced.value_bind, Traced.events_bind, events_dispatchBegun]
    split
    · exact .own table ‹_›
    · exact .passed table _ ‹_›
    · rw [events_conclude]
      exact .unknown table ‹_›
  | locking =>
    simp only [updateTurn]
    split
    · exact installed_tells (.inl rfl) task rfl
    · exact .rest _
    · exact .locked table
  | writing => exact installed_tells (.inr rfl) task rfl
  | calling call =>
    simp only [updateTurn]
    split
    · rw [events_conclude]
      exact .answered table call _ ‹_›
    · exact .rest _
  | ended outcome | dropped => exact .rest _

theorem surveyTurn_tells (s : Station) (task choice : Nat) (stage : Survey) :
    let turn := surveyTurn s task fresh answer choice stage
    Tells s fresh answer (.survey stage) (turn.value .full).job (turn.value .full).calls
      (turn.events .full) := by
  cases stage with
  | begun => exact .surveyed
  | asking f =>
    simp only [surveyTurn]
    split
    · exact .done f choice ‹_›
    · rename_i ask rest back
      split
      · rename_i result found
        have told := Router.events_childAnswered s.device (Ask.target ask)
          (result.map Reply.metrics)
        simp only [Traced.events_bind, Traced.events_pure, List.append_nil]
        exact told ▸ .settled f rest choice ask result back found
      · exact .waited f
  | ended | dropped => exact .rest _

theorem turn_tells (s : Station) (place task choice : Nat) (job : Job) :
    let turn := turn s place task fresh answer choice job
    Tells s fresh answer job (turn.value .full).job (turn.value .full).calls
      (turn.events .full) := by
  cases job with
  | update table stage => exact updateTurn_tells s place task table stage
  | survey stage => exact surveyTurn_tells s task choice stage

/-! ### The whole network -/

namespace Act

/-- A turn of one request. -/
def ofTask (k : Nat) : Act → Bool
  | .task j _ => j = k
  | _ => false

/-- A move of one call. -/
def ofCall (c : Nat) : Act → Bool
  | .call j _ => j = c
  | _ => false

end Act

/-- A request that has come in at a station and has not begun. -/
def Incoming (p : Plant) (t : Task) : Prop :=
  (∃ s, p.stations[t.station]? = some s) ∧ ∃ table, t.job = .new table

/-- What an act makes of requests and calls, and what it logs if it is one of theirs. -/
inductive Tale (p : Plant) : Act → List Task → List ChildCall → List Event → Prop
  | nothing (act : Act) : Tale p act p.tasks p.calls []
  | aside (act : Act) (others : ∀ k, act.ofTask k = false ∧ act.ofCall k = false)
      (tasks : List Task) (incoming : ∀ t ∈ tasks, p.Incoming t) (events : List Event) :
      Tale p act (p.tasks ++ tasks) p.calls events
  | turn (k choice : Nat) (t : Task) (s : Station) (task : p.tasks[k]? = some t)
      (here : p.stations[t.station]? = some s) (job : Job)
      (calls : List (Location × Option FlowTable)) (events : List Event)
      (tells : Tells s p.calls.length p.answer t.job job calls events) :
      Tale p (.task k choice) (p.tasks.set k { t with job })
        (p.calls ++ calls.map fun call => ⟨k, call.1, call.2, .waiting⟩) events
  | drop (k : Nat) (t : Task) (task : p.tasks[k]? = some t) :
      Tale p (.drop k) (p.tasks.set k { t with job := t.job.drop }) p.calls []
  | move (c : Nat) (call : ChildCall) (found : p.calls[c]? = some call) (move : CallMove)
      (progress : Progress) (events : List Event)
      (tells : CallTells p.links call progress events) (tasks : List Task)
      (incoming : ∀ t ∈ tasks, p.Incoming t) :
      Tale p (.call c move) (p.tasks ++ tasks) (p.calls.set c { call with progress }) events

variable {p : Plant} {n c : Nat} {call : ChildCall}

theorem events_finish (p : Plant) (c : Nat) (call : ChildCall) (result : Except CallError Reply) :
    (p.finish c call result).events .full =
      p.links.closeLog call.request call.location result := by
  cases result with
  | ok value => cases links : p.links <;> simp [finish, Links.closeLog, links, Dialer.failureLog]
  | error error => simp [finish, Links.events_failing]

theorem Tale.alone (found : p.calls[c]? = some call) (move : CallMove) {progress : Progress}
    {events : List Event} (tells : CallTells p.links call progress events) :
    Tale p (.call c move) p.tasks (p.calls.set c { call with progress }) events := by
  simpa using Tale.move c call found move progress events tells [] (by simp)

theorem stepCall_tale (found : p.calls[c]? = some call) (move : CallMove) :
    let after := p.stepCall c call move
    Tale p (.call c move) (after.value .full).1.tasks (after.value .full).1.calls
      (after.events .full) := by
  cases move with
  | make =>
    -- A call that cannot be dialled is over as soon as it is made.
    simp only [stepCall]
    split
    · rename_i waiting
      split
      · cases early : (p.links.opening call.location).value .full with
        | none =>
          simp only [Traced.value_bind, Traced.events_bind, early, Links.events_opening]
          simpa using Tale.alone found .make (.made waiting)
        | some error =>
          simp only [Traced.value_bind, Traced.events_bind, early, Links.events_opening,
            finish_value, events_finish, List.set_set]
          simpa using Tale.alone found .make (.refused waiting error)
      · exact .nothing _
    · exact .nothing _
  | deliver n =>
    simp only [stepCall]
    split
    · rename_i s made here
      split
      · refine .move c call found (.deliver n) _ [] (.served made p.tasks.length) [_] ?_
        intro t member
        obtain rfl := List.mem_singleton.mp member
        exact ⟨⟨s, here⟩, call.table, rfl⟩
      · exact .nothing _
    · exact .nothing _
  | reply =>
    simp only [stepCall]
    split
    · rename_i task serving
      split
      · simp only [finish_value, events_finish]
        exact .alone found .reply (.answered (.inr ⟨task, serving⟩) (.ok _))
      · exact .nothing _
    · exact .nothing _
  | fail error =>
    simp only [stepCall]
    split
    · rename_i made
      simp only [finish_value, events_finish]
      exact .alone found (.fail error) (.answered (.inl made) (.error error))
    · rename_i task serving
      simp only [finish_value, events_finish]
      exact .alone found (.fail error) (.answered (.inr ⟨task, serving⟩) (.error error))
    · exact .nothing _

theorem step_tale (p : Plant) (act : Act) :
    let after := p.step act
    Tale p act (after.value .full).1.tasks (after.value .full).1.calls (after.events .full) := by
  cases act with
  | station n act =>
    have others : ∀ k, (Act.station n act).ofTask k = false ∧
        (Act.station n act).ofCall k = false := fun _ => ⟨rfl, rfl⟩
    cases here : p.stations[n]? with
    | none => simpa [step, here] using Tale.nothing (.station n act)
    | some s =>
      simpa [step, here] using Tale.aside (.station n act) others [] (by simp) _
  | request n table =>
    have others : ∀ k, (Act.request n table).ofTask k = false ∧
        (Act.request n table).ofCall k = false := fun _ => ⟨rfl, rfl⟩
    cases here : p.stations[n]? with
    | none => simpa [step, here] using Tale.nothing (.request n table)
    | some s =>
      have incoming : p.Incoming ⟨n, none, .new table⟩ := ⟨⟨s, here⟩, table, rfl⟩
      simpa [step, here] using Tale.aside (.request n table) others [_] (by simpa using incoming) []
  | task k choice =>
    cases task : p.tasks[k]? with
    | none => simpa [step, task] using Tale.nothing (.task k choice)
    | some t =>
      cases here : p.stations[t.station]? with
      | none => simpa [step, task, here] using Tale.nothing (.task k choice)
      | some s =>
        simpa [step, task, here, settle] using
          Tale.turn k choice t s task here _ _ _ (turn_tells s t.station k choice t.job)
  | drop k =>
    cases task : p.tasks[k]? with
    | none => simpa [step, task] using Tale.nothing (.drop k)
    | some t => simpa [step, task] using Tale.drop k t task
  | call c move =>
    cases found : p.calls[c]? with
    | none => simpa [step, found] using Tale.nothing (.call c move)
    | some call => simpa [step, found] using stepCall_tale found move

end Plant
end OpticalAccess
