import OpticalAccess.Proofs.Plant.Setup
import OpticalAccess.Proofs.Recoding.Requests

/-!
# Replaced contents in a network at work

Two runs of a network do the same, call the same and log the same if one has other contents in the
places of the contents of the other. What a run passes on, keeps or hands out is what was put in.
-/

namespace OpticalAccess

variable {φ : Recoding} {μ : Metrics → Metrics → Prop} {v : Verbosity}

namespace Plant

/-- Every station may have books of its own. -/
inductive Recoded (φ : Recoding) (κ : Nat → Books μ) : Plant → Plant → Prop
  | plant {ss ss' : List Station}
      (stations : ∀ n : Nat, Option.Rel (Station.Recoded φ (κ n)) ss[n]? ss'[n]?)
      (links : Links) {ts ts' : List Task} (tasks : List.Forall₂ (Task.Recoded φ μ) ts ts')
      {cs cs' : List ChildCall} (calls : List.Forall₂ (ChildCall.Recoded φ μ) cs cs') :
      Recoded φ κ ⟨ss, links, ts, cs⟩ ⟨ss', links, ts', cs'⟩

inductive Act.Recoded (φ : Recoding) : Act → Act → Prop
  | station (n : Nat) {a a' : Station.Act} (act : a.Recoded φ a') :
      Recoded φ (.station n a) (.station n a')
  | request (n : Nat) {t t' : Option FlowTable}
      (table : Option.Rel (FlowTable.Recoded φ) t t') : Recoded φ (.request n t) (.request n t')
  | task (task choice : Nat) : Recoded φ (.task task choice) (.task task choice)
  | drop (task : Nat) : Recoded φ (.drop task) (.drop task)
  | call (call : Nat) (move : CallMove) : Recoded φ (.call call move) (.call call move)

/-- Whether an act is about a frame of the controller. -/
def Act.isFrame : Act → Bool
  | .station _ act => act.isFrame
  | _ => false

/-- What a step or a run comes to: the network after it, and its log. -/
abbrev Stepped (φ : Recoding) (κ : Nat → Books μ) :=
  Both (Recoded φ κ) (List.Forall₂ (Note.Recoded φ μ))

variable {κ : Nat → Books μ} {p q : Plant}

theorem Recoded.answer (same : p.Recoded φ κ q) (call : Nat) :
    Option.Rel (Answered μ) (p.answer call) (q.answer call) := by
  cases same with
  | @plant ss ss' stations links ts ts' tasks cs cs' calls =>
  have entry := rel_getElem? calls call
  simp only [Plant.answer]
  generalize cs[call]? = x at entry ⊢
  generalize cs'[call]? = y at entry ⊢
  cases entry with
  | none => exact .none
  | some entry => exact entry.result?

theorem Recoded.links (same : p.Recoded φ κ q) : q.links = p.links := by
  cases same
  rfl

theorem settle_recoded (same : p.Recoded φ κ q) (k : Nat) {t t' : Task} (task : t.Recoded φ μ t')
    {turn turn' : Turn} (turns : turn.Recoded φ (κ t.station) turn') :
    (p.settle k t turn).Recoded φ κ (q.settle k t' turn') := by
  obtain ⟨stations, links, tasks, calls⟩ := same
  obtain ⟨station, origin, _⟩ := task
  obtain ⟨job, after, prepared, _⟩ := turns
  refine .plant (rel_set_at stations station after) links
    (rel_set tasks k (.task station origin job))
    (List.rel_append calls (List.rel_map (fun x y call => ?_) prepared))
  obtain ⟨location, table⟩ := call
  rw [location]
  exact .call k y.1 table .waiting

theorem Recoded.setCall (same : p.Recoded φ κ q) (call : Nat) {c c' : ChildCall}
    (called : c.Recoded φ μ c') :
    Recoded φ κ { p with calls := p.calls.set call c } { q with calls := q.calls.set call c' } := by
  obtain ⟨stations, links, tasks, calls⟩ := same
  exact .plant stations links tasks (rel_set calls call called)

theorem finish_alike (same : p.Recoded φ κ q) (call : Nat) {c c' : ChildCall}
    (called : c.Recoded φ μ c') {x y : Except CallError Reply} (result : Answered μ x y) :
    Traced.Alike v μ (Stepped φ κ) (p.finish call c x) (q.finish call c' y) := by
  obtain ⟨location, request⟩ := called.shown
  have after := same.setCall call (called.setProgress (.answered result))
  have notes : List.Forall₂ (Note.Recoded φ μ) [.answered call x] [.answered call y] :=
    .cons (.answered call result) .nil
  cases result with
  | ok reply =>
    simp only [finish]
    exact .pure ⟨after, notes⟩
  | error error =>
    have failing : q.links.failing c'.request c'.location error =
        p.links.failing c.request c.location error := by rw [same.links, location, request]
    simp only [finish, failing]
    exact .after _ fun _ => .pure ⟨after, notes⟩

theorem Recoded.task? (same : p.Recoded φ κ q) (k : Nat) :
    Option.Rel (Task.Recoded φ μ) p.tasks[k]? q.tasks[k]? := by
  obtain ⟨_, _, tasks, _⟩ := same
  exact rel_getElem? tasks k

theorem Recoded.station? (same : p.Recoded φ κ q) (n : Nat) :
    Option.Rel (Station.Recoded φ (κ n)) p.stations[n]? q.stations[n]? := by
  obtain ⟨stations, _, _, _⟩ := same
  exact stations n

/-- Whether a call is still wanted does not depend on contents. -/
theorem Recoded.wanted (same : p.Recoded φ κ q) (k call : Nat) :
    ((q.tasks[k]?).any fun t => t.job.inFlight.contains call) =
      (p.tasks[k]?).any fun t => t.job.inFlight.contains call := by
  have entry := same.task? k
  generalize p.tasks[k]? = x at entry
  generalize q.tasks[k]? = y at entry
  cases entry with
  | none => rfl
  | some task =>
    obtain ⟨_, _, job⟩ := task
    simp only [Option.any_some, job.inFlight]

/-- What a request has replied is the same, but for counters. -/
theorem Recoded.served (same : p.Recoded φ κ q) (k : Nat) :
    Option.Rel (Reply.Recoded μ) (p.tasks[k]?.bind fun t => t.job.reply?)
      (q.tasks[k]?.bind fun t => t.job.reply?) := by
  have entry := same.task? k
  generalize p.tasks[k]? = x at entry
  generalize q.tasks[k]? = y at entry
  cases entry with
  | none => exact .none
  | some task =>
    obtain ⟨_, _, job⟩ := task
    exact job.reply?

theorem make_alike (same : p.Recoded φ κ q) (call : Nat) {c c' : ChildCall}
    (called : c.Recoded φ μ c') :
    Traced.Alike v μ (Stepped φ κ) (p.stepCall call c .make) (q.stepCall call c' .make) := by
  have still := called
  obtain ⟨caller, location, table, progress⟩ := called
  cases progress with
  | waiting =>
    have made := same.setCall call (still.setProgress .made)
    have note := Note.Recoded.called (μ := μ) caller location table
    have opening : q.links.opening location = p.links.opening location := by rw [same.links]
    simp only [stepCall, opening, same.wanted]
    split
    · refine .after _ fun early => ?_
      cases early with
      | none => exact .pure ⟨made, .cons note .nil⟩
      | some error =>
        exact .bind (finish_alike made call still (.error error)) fun x y same =>
          .pure ⟨same.1, .cons note same.2⟩
    · exact .pure ⟨same, .nil⟩
  | _ => exact .pure ⟨same, .nil⟩

theorem receive_alike (same : p.Recoded φ κ q) (call : Nat) {c c' : ChildCall}
    (called : c.Recoded φ μ c') (station : Nat) :
    Traced.Alike v μ (Stepped φ κ) (p.stepCall call c (.deliver station))
      (q.stepCall call c' (.deliver station)) := by
  have still := called
  have entry := same.station? station
  obtain ⟨caller, location, table, progress⟩ := called
  cases progress with
  | made =>
    simp only [stepCall]
    generalize p.stations[station]? = x at entry
    generalize q.stations[station]? = y at entry
    cases entry with
    | none => exact .pure ⟨same, .nil⟩
    | some entry =>
      have job := Job.new_recoded (μ := μ) table
      simp only [entry.device.stays.location]
      split
      · obtain ⟨stations, links, tasks, calls⟩ := same
        simp only [← tasks.length_eq]
        exact .pure ⟨.plant stations links
          (List.rel_append tasks (.cons (.task station (some call) job) .nil))
          (rel_set calls call (still.setProgress (.serving _))), .nil⟩
      · exact .pure ⟨same, .nil⟩
  | _ => exact .pure ⟨same, .nil⟩

theorem reply_alike (same : p.Recoded φ κ q) (call : Nat) {c c' : ChildCall}
    (called : c.Recoded φ μ c') :
    Traced.Alike v μ (Stepped φ κ) (p.stepCall call c .reply) (q.stepCall call c' .reply) := by
  have still := called
  obtain ⟨caller, location, table, progress⟩ := called
  cases progress with
  | serving task =>
    have served := same.served task
    simp only [stepCall]
    generalize (p.tasks[task]?.bind fun t => t.job.reply?) = x at served ⊢
    generalize (q.tasks[task]?.bind fun t => t.job.reply?) = y at served ⊢
    cases served with
    | none => exact .pure ⟨same, .nil⟩
    | some reply => exact finish_alike same call still (.ok reply)
  | _ => exact .pure ⟨same, .nil⟩

theorem fail_alike (same : p.Recoded φ κ q) (call : Nat) {c c' : ChildCall}
    (called : c.Recoded φ μ c') (error : CallError) :
    Traced.Alike v μ (Stepped φ κ) (p.stepCall call c (.fail error))
      (q.stepCall call c' (.fail error)) := by
  have still := called
  obtain ⟨caller, location, table, progress⟩ := called
  cases progress with
  | made | serving task => exact finish_alike same call still (.error error)
  | waiting | answered result => exact .pure ⟨same, .nil⟩

theorem stepCall_alike (same : p.Recoded φ κ q) (call : Nat) {c c' : ChildCall}
    (called : c.Recoded φ μ c') (move : CallMove) :
    Traced.Alike v μ (Stepped φ κ) (p.stepCall call c move) (q.stepCall call c' move) := by
  cases move with
  | make => exact make_alike same call called
  | deliver station => exact receive_alike same call called station
  | reply => exact reply_alike same call called
  | fail error => exact fail_alike same call called error

theorem task_alike (hidden : φ.Hidden v) (same : p.Recoded φ κ q) (k choice : Nat) :
    Traced.Alike v μ (Stepped φ κ) (p.step (.task k choice)) (q.step (.task k choice)) := by
  have entry := same.task? k
  simp only [step]
  generalize p.tasks[k]? = x at entry
  generalize q.tasks[k]? = y at entry
  cases entry with
  | none => exact .pure ⟨same, .nil⟩
  | some task =>
    obtain ⟨n, origin, job⟩ := task
    have entry := same.station? n
    have length : q.calls.length = p.calls.length := by
      obtain ⟨_, _, _, calls⟩ := same
      exact calls.length_eq.symm
    simp only [length]
    generalize p.stations[n]? = x at entry
    generalize q.stations[n]? = y at entry
    cases entry with
    | none => exact .pure ⟨same, .nil⟩
    | some station =>
      refine .bind (turn_alike hidden station n k p.calls.length same.answer choice job)
        fun x y turns => .pure ⟨settle_recoded same k (.task n origin job) turns, ?_⟩
      obtain ⟨_, _, _, notes⟩ := turns
      exact notes

theorem step_alike (hidden : φ.Hidden v) (same : p.Recoded φ κ q) {act act' : Act}
    (acts : act.Recoded φ act')
    (frames : act.isFrame = false ∨ ∀ n, (κ n).submissions = φ.submissions) :
    Traced.Alike v μ (Stepped φ κ) (p.step act) (q.step act') := by
  cases acts with
  | station n act =>
    have entry := same.station? n
    simp only [step]
    generalize p.stations[n]? = x at entry
    generalize q.stations[n]? = y at entry
    cases entry with
    | none => exact .pure ⟨same, .nil⟩
    | some station =>
      refine .bind (Station.step_alike hidden station act (frames.imp_right fun same => same n))
        fun x y after => .pure ⟨?_, List.rel_map (fun _ _ note => .station n note) after.2⟩
      obtain ⟨stations, links, tasks, calls⟩ := same
      exact .plant (rel_set_at stations n after.1) links tasks calls
  | request n table =>
    have entry := same.station? n
    simp only [step]
    generalize p.stations[n]? = x at entry
    generalize q.stations[n]? = y at entry
    cases entry with
    | none => exact .pure ⟨same, .nil⟩
    | some station =>
      obtain ⟨stations, links, tasks, calls⟩ := same
      exact .pure ⟨.plant stations links
        (List.rel_append tasks (.cons (.task n none (Job.new_recoded table)) .nil)) calls, .nil⟩
  | task k choice => exact task_alike hidden same k choice
  | drop k =>
    have entry := same.task? k
    simp only [step]
    generalize p.tasks[k]? = x at entry
    generalize q.tasks[k]? = y at entry
    cases entry with
    | none => exact .pure ⟨same, .nil⟩
    | some task =>
      obtain ⟨n, origin, job⟩ := task
      obtain ⟨stations, links, tasks, calls⟩ := same
      exact .pure ⟨.plant stations links (rel_set tasks k (.task n origin job.drop)) calls, .nil⟩
  | call k move =>
    have entry : Option.Rel (ChildCall.Recoded φ μ) p.calls[k]? q.calls[k]? := by
      obtain ⟨_, _, _, calls⟩ := same
      exact rel_getElem? calls k
    simp only [step]
    generalize p.calls[k]? = x at entry
    generalize q.calls[k]? = y at entry
    cases entry with
    | none => exact .pure ⟨same, .nil⟩
    | some called => exact stepCall_alike same k called move

theorem run_alike (hidden : φ.Hidden v) {acts acts' : List Act}
    (script : List.Forall₂ (Act.Recoded φ) acts acts') {p q : Plant}
    (same : p.Recoded φ (fun _ => φ.books) q) :
    Traced.Alike v Eq (Stepped φ fun _ => φ.books) (p.run acts) (q.run acts') := by
  induction script generalizing p q with
  | nil => exact .pure ⟨same, .nil⟩
  | cons act rest ih =>
    exact .bind (step_alike hidden same act (.inr fun _ => rfl)) fun _ _ next =>
      .bind (ih next.1) fun _ _ last => .pure ⟨last.1, List.rel_append next.2 last.2⟩

end Plant

/-! ### What runs have in common -/

theorem Device.New.recoded {κ : Books μ} {d : Device} (new : d.New) (empty : φ.flows [] [])
    (zero : κ.counters d.counters d.counters) : d.Recoded φ κ d := by
  obtain ⟨machine, forwardFault, installFault, view?⟩ := d
  obtain ⟨flows, -, payloads⟩ := new
  cases machine with
  | terminal t =>
    obtain ⟨location, registry, _, counters, capacity, _, isOpen, line⟩ := t
    obtain rfl : _ = [] := flows
    obtain rfl : _ = [] := payloads
    exact .device (.terminal (.terminal location registry empty zero
      (.queue capacity .nil isOpen line))) _ _ _
  | subscriber s =>
    obtain ⟨location, _, counters⟩ := s
    obtain rfl : _ = [] := flows
    exact .device (.subscriber (.subscriber location empty zero)) _ _ _

namespace Session

/-- A note without the contents that it carries. -/
def Note.bare : Note → Note
  | .pulled _ => .pulled []
  | .received (.frame e) => .received (.frame ⟨e.id, []⟩)
  | .handed (.frame e) => .handed (.frame ⟨e.id, []⟩)
  | .lost _ => .lost []
  | note => note

theorem Note.Recoded.bare {n n' : Note} (same : n.Recoded φ n') : n'.bare = n.bare := by
  cases same with
  | received item | handed item => cases item <;> rfl
  | _ => rfl

end Session

namespace Station

def Note.bare : Note → Note
  | .called index port _ => .called index port []
  | .session index note => .session index note.bare
  | note => note

theorem Note.Recoded.bare {n n' : Note} (same : n.Recoded φ n') : n'.bare = n.bare := by
  cases same with
  | session index note => exact congrArg (Note.session index) note.bare
  | _ => rfl

/-- The payload that a controller gets on its stream. -/
def Note.streamed? : Note → Option Bytes
  | .session _ note => note.handed?
  | _ => none

end Station

namespace Plant

def Note.bare : Note → Note
  | .station n note => .station n note.bare
  | .called task location table =>
    .called task location (table.map fun table => { table with flows := [] })
  | note => note

theorem Note.Recoded.bare {n n' : Note} (same : n.Recoded φ Eq n') : n'.bare = n.bare := by
  cases same with
  | station n note => exact congrArg (Note.station n) note.bare
  | called task location table =>
    cases table with
    | none => rfl
    | some table => cases table; rfl
  | answered call result => rw [result.eq]
  | metrics task shown => rw [shown]
  | _ => rfl

/-- The payloads that controllers got on their streams, in the order in which they got them. -/
def streamed (notes : List Note) : List Bytes :=
  notes.filterMap fun
    | .station _ note => note.streamed?
    | _ => none

/-- The rules that went to children, in the order of the calls. -/
def passedOn (notes : List Note) : List (List FlowRule) :=
  notes.filterMap fun
    | .called _ _ table => table.map FlowTable.flows
    | _ => none

/-- The same network but for contents. -/
abbrev Replaced (φ : Recoding) : Plant → Plant → Prop := Recoded φ fun _ => φ.books

/-- Two runs have come to the same, apart from contents; and contents are where they were. -/
structure Apart (φ : Recoding) (x y : Plant × List Note) : Prop where
  /-- Answers, outcomes, errors, and the calls with their targets and ports. -/
  notes : y.2.map Note.bare = x.2.map Note.bare
  counters : y.1.stations.map (·.device.counters) = x.1.stations.map (·.device.counters)
  lengths : y.1.stations.map (·.device.queue.payloads.length) =
    x.1.stations.map (·.device.queue.payloads.length)
  queued : List.Forall₂ (List.Forall₂ φ.payload) (x.1.stations.map (·.device.queue.payloads))
    (y.1.stations.map (·.device.queue.payloads))
  installed : List.Forall₂ φ.flows (x.1.stations.map (·.device.flows))
    (y.1.stations.map (·.device.flows))
  streamed : List.Forall₂ φ.payload (streamed x.2) (streamed y.2)
  passedOn : List.Forall₂ φ.flows (passedOn x.2) (passedOn y.2)

theorem Replaced.apart {x y : Plant × List Note} (plant : x.1.Replaced φ y.1)
    (notes : List.Forall₂ (Note.Recoded φ Eq) x.2 y.2) : Apart φ x y := by
  have stations := forall₂_of_rel plant.station?
  have queued : List.Forall₂ (List.Forall₂ φ.payload) (x.1.stations.map (·.device.queue.payloads))
      (y.1.stations.map (·.device.queue.payloads)) :=
    List.rel_map (fun _ _ station => station.device.queue.payloads) stations
  refine ⟨map_rel notes Note.Recoded.bare, ?_, ?_, queued, ?_, ?_, ?_⟩
  · exact map_rel stations fun station => (station.device.counters).symm
  · exact map_rel stations fun station => station.device.queue.payloads.length_eq.symm
  · exact List.rel_map (fun _ _ station => station.device.flows) stations
  · refine List.rel_filterMap (fun n n' note => ?_) notes
    cases note with
    | station n note =>
      cases note with
      | session index note =>
        cases note with
        | handed item =>
          cases item with
          | frame id payload => exact .some payload
          | status s => exact .none
        | _ => exact .none
      | _ => exact .none
    | _ => exact .none
  · refine List.rel_filterMap (fun n n' note => ?_) notes
    cases note with
    | called task location table =>
      cases table with
      | none => exact .none
      | some table =>
        obtain ⟨port, flows⟩ := table
        exact .some flows
    | _ => exact .none

/-- A new network holds no contents, so that it is related to itself. -/
theorem ofNetwork_recoded {κ : Nat → Books μ} {w : Network} (new : w.New) (empty : φ.flows [] [])
    (books : ∀ n (node : Node), w.nodes[n]? = some node →
      (κ n).counters node.device.counters node.device.counters ∧ (κ n).submissions [] []) :
    (ofNetwork w).Recoded φ κ (ofNetwork w) := by
  refine .plant (fun n => ?_) w.links .nil .nil
  rw [List.getElem?_map]
  cases found : w.nodes[n]? with
  | none => exact .none
  | some node =>
    obtain ⟨device, sessions⟩ := new node (List.mem_of_getElem? found)
    obtain ⟨counters, submissions⟩ := books n node found
    simp only [Option.map_some, sessions]
    exact .some (.station (device.recoded empty counters) node.settings .nil w.opened .nil
      submissions none [])

/--
Frames and flow rules are opaque to a network. In a second run, let the contents of the first be
replaced by others that are as long: payloads by ones with the same header, and rules by ones with
the same identifiers, or by any others if logging is off. Whatever is done, and in whatever order,
both runs log the same, counters included, and come to the same apart from contents; and the
contents of the second run are those that replace the contents of the first.
-/
theorem contents_are_opaque (φ : Recoding) {v : Verbosity} (hidden : v = .off ∨ φ.Discreet)
    {p q : Plant} (start : p.Replaced φ q) {acts acts' : List Act}
    (script : List.Forall₂ (Act.Recoded φ) acts acts') :
    (q.run acts').events v = (p.run acts).events v ∧
      ((p.run acts).value v).1.Replaced φ ((q.run acts').value v).1 ∧
      List.Forall₂ (Note.Recoded φ Eq) ((p.run acts).value v).2 ((q.run acts').value v).2 ∧
      Apart φ ((p.run acts).value v) ((q.run acts').value v) := by
  have alike := run_alike hidden script start
  obtain ⟨plant, notes⟩ := alike.value
  exact ⟨alike.events_eq, plant, notes, Replaced.apart plant notes⟩

theorem contents_are_opaque_lone :
    let rest : List Act := [.station 0 (.deliver 0), .station 0 (.deliver 0),
      .station 0 (.deliver 0), .request 0 none, .task 1 0, .task 1 0]
    let acts : List Act := [.request 0 (some ⟨0, [⟨7, 1, 2, 3, [9], [9]⟩]⟩), .task 0 0,
      .station 0 (.submit (List.replicate 30 1))] ++ rest
    let acts' : List Act := [.request 0 (some ⟨0, [⟨7, 0, 0, 0, [], []⟩]⟩), .task 0 0,
      .station 0 (.submit (List.replicate 22 1 ++ List.replicate 8 0))] ++ rest
    Recoding.blanked.Discreet ∧
      (ofNetwork .lone).Replaced .blanked (ofNetwork .lone) ∧
      List.Forall₂ (Act.Recoded .blanked) acts acts' ∧
      ((ofNetwork .lone).run acts').events .full = ((ofNetwork .lone).run acts).events .full ∧
      Apart .blanked (((ofNetwork .lone).run acts).value .full)
        (((ofNetwork .lone).run acts').value .full) ∧
      -- The frame that was counted is shown by an event.
      (((ofNetwork .lone).run acts).events .full).any fun e =>
        e.metrics?.any fun m => m.value? .nni .rx .upTo64 = some 1 := by
  intro rest acts acts'
  have start : (ofNetwork .lone).Replaced .blanked (ofNetwork .lone) :=
    ofNetwork_recoded Network.lone_new rfl fun _ _ _ => ⟨rfl, .nil⟩
  have same : List.Forall₂ (Act.Recoded .blanked) rest rest :=
    .cons (.station 0 (.deliver 0)) (.cons (.station 0 (.deliver 0))
      (.cons (.station 0 (.deliver 0)) (.cons (.request 0 .none)
        (.cons (.task 1 0) (.cons (.task 1 0) .nil)))))
  have script : List.Forall₂ (Act.Recoded .blanked) acts acts' :=
    .cons (.request 0 (.some (.table 0 rfl))) (.cons (.task 0 0)
      (.cons (.station 0 (.submit rfl)) same))
  obtain ⟨events, _, _, apart⟩ :=
    contents_are_opaque .blanked (v := .full) (.inr Recoding.blanked_discreet) start script
  exact ⟨Recoding.blanked_discreet, start, script, events, apart, by decide +kernel⟩

end Plant
end OpticalAccess
