import OpticalAccess.Proofs.Audit.Trails
import OpticalAccess.Proofs.Plant.Replies

/-!
# Complete trails

Nothing that a request or a call logs is lost in a run of a network, and none of it is logged twice
or out of turn. So the log tells what became of every call, although no controller is told.
-/

namespace OpticalAccess

namespace Plant

variable {p q : Plant} {k c : Nat} {log events : List Event} {act : Act} {entries : List Entry}

/-! ### Logs of their own -/

/-- What some of the acts have logged. -/
def logOf (of : Act → Bool) (entries : List Entry) : List Event :=
  (entries.filter (of ·.act)).flatMap Entry.events

theorem logOf_snoc (of : Act → Bool) (entries : List Entry) (act : Act) (notes : List Note)
    (events : List Event) :
    logOf of (entries ++ [⟨act, notes, events⟩]) =
      logOf of entries ++ if of act then events else [] := by
  cases own : of act <;> simp [logOf, List.filter_append, own]

/-- What there is of a request, and what it has logged. -/
inductive TaskTold (p : Plant) (k : Nat) : Option Task → List Event → Prop
  | absent : TaskTold p k none []
  | present (t : Task) (s : Station) (here : p.stations[t.station]? = some s) (log : List Event)
      (trail : Trail p k s.device t.job log) : TaskTold p k (some t) log

/-- What a call has logged, which is nothing unless there is one. -/
def callLog (p : Plant) (c : Nat) : List Event :=
  p.calls[c]?.elim [] (ChildCall.log p.links)

/-- The log tells of every request and every call how far it is. -/
structure Told (p : Plant) (entries : List Entry) : Prop where
  tasks : ∀ k, TaskTold p k p.tasks[k]? (logOf (Act.ofTask k) entries)
  calls : ∀ c, logOf (Act.ofCall c) entries = p.callLog c

/-! ### Requests -/

theorem TaskTold.later {task : Option Task} (told : TaskTold p k task log) (holds : p.Holds q) :
    TaskTold q k task log := by
  cases told with
  | absent => exact .absent
  | present t s here log trail =>
    obtain ⟨s', here', stays⟩ := holds.grows.stations _ s here
    exact .present t s' here' log (trail.later holds stays)

theorem TaskTold.incoming {t : Task} (incoming : p.Incoming t) : TaskTold p k (some t) [] := by
  obtain ⟨⟨s, here⟩, table, new⟩ := incoming
  refine .present t s here [] ?_
  cases table with
  | none => exact new ▸ .surveyBegun
  | some table => exact new ▸ .updateBegun table

theorem TaskTold.append {ts : List Task} (told : TaskTold p k p.tasks[k]? log)
    (incoming : ∀ t ∈ ts, p.Incoming t) : TaskTold p k (p.tasks ++ ts)[k]? log := by
  rcases Nat.lt_or_ge k p.tasks.length with inside | outside
  · rwa [List.getElem?_append_left inside]
  · rw [List.getElem?_eq_none outside] at told
    obtain ⟨⟩ := told
    rw [List.getElem?_append_right outside]
    cases found : ts[k - p.tasks.length]? with
    | none => exact .absent
    | some t => exact .incoming (incoming t (List.mem_of_getElem? found))

theorem TaskTold.step (told : TaskTold p k p.tasks[k]? log) (holds : p.Holds q)
    (tale : p.Tale act q.tasks q.calls events) :
    TaskTold q k q.tasks[k]? (log ++ if act.ofTask k then events else []) := by
  have later := told.later holds
  generalize ts : q.tasks = tasks at tale
  generalize cs : q.calls = calls at tale
  cases tale with
  | nothing => simpa using later
  | aside _ others tasks incoming events =>
    simpa [(others k).1] using (told.append incoming).later holds
  | turn j choice t s task here job calls events tells =>
    by_cases own : j = k
    · subst own
      obtain ⟨inside, -⟩ := List.getElem?_eq_some_iff.mp task
      rw [task] at told
      obtain ⟨⟩ | ⟨_, s', here', _, trail⟩ := told
      obtain rfl := Option.some.inj (here'.symm.trans here)
      obtain ⟨s'', here'', stays⟩ := holds.grows.stations _ s' here
      have trail := (tells.trail trail holds cs).later (.refl q) stays
      simpa [Act.ofTask, inside] using TaskTold.present { t with job } s'' here'' _ trail
    · simpa [Act.ofTask, own] using later
  | drop j t task =>
    by_cases own : j = k
    · subst own
      obtain ⟨inside, -⟩ := List.getElem?_eq_some_iff.mp task
      rw [task] at later
      obtain ⟨⟩ | ⟨_, s, here, _, trail⟩ := later
      simpa [Act.ofTask, inside] using
        TaskTold.present { t with job := t.job.drop } s here _ trail.drop
    · simpa [Act.ofTask, own] using later
  | move c call found move progress events tells tasks incoming =>
    simpa [Act.ofTask] using (told.append incoming).later holds

/-! ### Calls -/

theorem callLog_step (links : q.links = p.links) (tale : p.Tale act q.tasks q.calls events) :
    q.callLog c = p.callLog c ++ if act.ofCall c then events else [] := by
  unfold callLog
  rw [links]
  generalize q.tasks = tasks at tale
  generalize q.calls = calls at tale
  cases tale with
  | nothing => simp
  | aside _ others => simp [(others c).2]
  | turn j choice t s task here job calls events tells =>
    rcases Nat.lt_or_ge c p.calls.length with inside | outside
    · simp [Act.ofCall, List.getElem?_append_left inside]
    · rw [List.getElem?_append_right outside, List.getElem?_eq_none outside, List.getElem?_map]
      cases calls[c - p.calls.length]? <;> rfl
  | drop => simp [Act.ofCall]
  | move b call found move progress events tells =>
    by_cases own : b = c
    · subst own
      obtain ⟨inside, -⟩ := List.getElem?_eq_some_iff.mp found
      rw [List.getElem?_set_self inside, found]
      simp [Act.ofCall, tells.log]
    · simp [Act.ofCall, own]

theorem step_closed {result : Except CallError Reply} (answered : p.answer c = some result)
    (own : act.ofCall c) : (p.step act).events .full = [] := by
  have tale := p.step_tale act
  simp only at tale
  generalize ((p.step act).value .full).1.tasks = tasks at tale
  generalize ((p.step act).value .full).1.calls = calls at tale
  generalize (p.step act).events .full = events at tale
  cases tale with
  | nothing => rfl
  | aside _ others => simp [(others c).2] at own
  | turn | drop => cases own
  | move b call found move progress events tells =>
    obtain rfl : b = c := by simpa [Act.ofCall] using own
    rw [answer, found, Option.bind_some, tells.unanswered] at answered
    cases answered

theorem run_closed {result : Except CallError Reply} (answered : p.answer c = some result)
    (acts : List Act) : logOf (Act.ofCall c) (transcript .full p acts) = [] := by
  induction acts generalizing p with
  | nil => rfl
  | cons act rest ih =>
    have later := ih ((p.step_holds act).answers c result answered)
    rw [logOf, transcript, List.filter_cons]
    split
    · rw [List.flatMap_cons, step_closed answered ‹_›]
      exact later
    · exact later

/-! ### Runs -/

theorem Told.step (told : Told p entries) (act : Act) :
    Told ((p.step act).value .full).1
      (entries ++ [⟨act, ((p.step act).value .full).2, (p.step act).events .full⟩]) where
  tasks k := by
    rw [logOf_snoc]
    exact (told.tasks k).step (p.step_holds act) (p.step_tale act)
  calls c := by
    rw [logOf_snoc, told.calls, callLog_step (p.step_links act) (p.step_tale act)]

theorem Told.run (told : Told p entries) (acts : List Act) :
    Told ((p.run acts).value .full).1 (entries ++ transcript .full p acts) := by
  -- The entries of the first act belong to the past of the others.
  induction acts generalizing p entries with
  | nil => rwa [transcript, List.append_nil]
  | cons act rest ih =>
    have after := ih (told.step act)
    rw [List.append_assoc] at after
    exact after

theorem ofNetwork_told (w : Network) : Told (ofNetwork w) [] where
  tasks _ := .absent
  calls _ := rfl

/-- In a turn, a request goes by the answers that there are. -/
theorem step_turn {t : Task} {s : Station} (choice : Nat) (task : p.tasks[k]? = some t)
    (here : p.stations[t.station]? = some s) :
    let after := p.step (.task k choice)
    ∃ t' calls, (after.value .full).1.tasks[k]? = some t' ∧
      Tells s p.calls.length p.answer t.job t'.job calls (after.events .full) := by
  intro after
  let turn := turn s t.station k p.calls.length p.answer choice t.job
  have settled : (after.value .full).1 = p.settle k t (turn.value .full) := by
    simp [after, step, task, here, turn]
  have events : after.events .full = turn.events .full := by simp [after, step, task, here, turn]
  obtain ⟨inside, -⟩ := List.getElem?_eq_some_iff.mp task
  rw [settled, events]
  exact ⟨_, _, List.getElem?_set_self inside, turn_tells s t.station k choice t.job⟩

/-- What the log of a network at work tells of its requests and its calls. -/
structure Audited (p : Plant) (entries : List Entry) : Prop extends Told p entries where
  /-- The outcome of a call is logged in a turn before which the call was over. -/
  turns : ∀ k choice t s, p.tasks[k]? = some t → p.stations[t.station]? = some s →
    let after := p.step (.task k choice)
    ∃ t' calls, (after.value .full).1.tasks[k]? = some t' ∧
      Tells s p.calls.length p.answer t.job t'.job calls (after.events .full)
  /-- A call that is over logs nothing more, however the network goes on. -/
  closed : ∀ c result, p.answer c = some result →
    ∀ acts, logOf (Act.ofCall c) (transcript .full p acts) = []
  /-- A call that succeeds brings what was replied where it went: its counters, if it asked. -/
  replies : ∀ c call reply, p.calls[c]? = some call → call.progress = .answered (.ok reply) →
    ∃ k t s, p.Serves c call k t s ∧ t.job.reply? = some reply ∧
      (call.table = none → ∃ metrics,
        t.job = .survey (.ended metrics) ∧ reply = .counters metrics)

theorem run_audited (w : Network) (acts : List Act) :
    Audited (((ofNetwork w).run acts).value .full).1 (transcript .full (ofNetwork w) acts) where
  toTold := (ofNetwork_told w).run acts
  turns _ choice _ _ task here := step_turn choice task here
  closed _ _ answered acts := run_closed answered acts
  replies _ _ _ found answered := ((ofNetwork_replied w).run acts).answered found answered

end Plant

/--
What became of a request is in the log, whatever connector answers the calls and whatever else the
network does meanwhile. A request with a flow table logs its start, one outcome and its end. A
request for counters logs one outcome for each child that it calls. Of a dialled call, the log has
its start, and its failure if it fails, before the outcome.
-/
theorem requests_leave_a_trail :
    (∀ (ω : Type) (C : Connector ω) (d : Device) (table : FlowTable) (w : ω),
      let after := Router.dispatch C d table w
      after.events .full =
        Router.startLog d table :: (Router.conveyLog C d table w ++
          Router.endLog d.location table.port (after.value .full).1)) ∧
    (∀ (ω : Type) (C : Connector ω) (s : Settings) (order : Fanout (Int32 × Location) → Nat)
      (own : ω → Device) (w : ω), ∃ todo, todo.Perm (Router.statsCalls (own w)) ∧
      let after := Router.collectStats C s order own w
      after.events .full =
        .statsStarted (own w).location (own w).role ::
          (Router.surveyLog C (own w).location todo w ++
            [.statsDone (own w).location (after.value .full).1])) ∧
    (∀ (ω α : Type) (dialer : Dialer) (request : Request) (child : Location)
      (peer : Dialer.Peer ω α) (w : ω),
      let after := dialer.call request child peer w
      after.events .full =
        .connectStarted child.host dialer.tls.isSome :: (dialer.peerLog child peer w ++
          Dialer.failureLog request child (after.value .full).1)) ∧
    (∀ e : Event,
      e.fields.lookup "outcome" = e.outcome?.map fun outcome => .text outcome.label) ∧
    (∀ request device port outcome,
      (Event.dispatched request device port outcome).fields.lookup "port" =
          some (.number port.toInt) ∧
        (Event.dispatched request device port outcome).fields.lookup "reason" =
          outcome.reason?.map .text) ∧
    ∀ (w : Network) (acts : List Plant.Act),
      Plant.Audited (((Plant.ofNetwork w).run acts).value .full).1
        (Plant.transcript .full (Plant.ofNetwork w) acts) := by
  refine ⟨fun _ C d table w => Router.events_dispatch C d table w, fun _ C s order own w => ?_,
    fun _ _ dialer request child peer w => dialer.events_call request child peer w,
    Event.lookup_outcome, fun request device port outcome => ?_, Plant.run_audited⟩
  · exact ⟨_, Router.statsTrace_perm s order (own w), Router.events_collectStats C s order own w⟩
  · exact ⟨Event.lookup_port_dispatched request device port outcome,
      Event.lookup_reason_dispatched request device port outcome⟩

/-- A child is asked for its counters and cannot be reached. -/
example :
    let children : Registry := ⟨[⟨5, ⟨"onu", 7⟩⟩], by decide, by decide⟩
    let olt : Device := ⟨.terminal (.new ⟨"olt", 1⟩ children 4), none, none, none⟩
    let w : Network := { nodes := [{ name := "olt", device := olt }], links := .dialled ⟨none, 1⟩ }
    let lost : CallError := .connect "onu:7" .transport
    (Plant.transcript .full (.ofNetwork w) [.request 0 none, .task 0 0, .task 0 0, .call 0 .make,
      .call 0 (.fail lost), .task 0 0, .task 0 0]).flatMap Plant.Entry.events =
      [.statsStarted ⟨"olt", 1⟩ .terminal, .connectStarted "onu:7" false,
        .connectFailed "onu:7" .transport, .callFailed .stats "onu:7" lost,
        .dispatched .stats ⟨"olt", 1⟩ 5 (.targetUnreachable lost.message),
        .statsDone ⟨"olt", 1⟩ olt.metrics] := by decide +kernel

end OpticalAccess
