import OpticalAccess.Proofs.Headend.Steps
import OpticalAccess.Proofs.Hierarchy.Basic
import OpticalAccess.Proofs.Plant.Basic

/-!
# What a step can do

A step of a network at work is one of a few things. What it means for devices, stations, requests
and calls is said here once; what holds of all runs is shown from that.
-/

namespace OpticalAccess

variable {v : Verbosity}

/-! ### Devices -/

namespace Device

/-- What a router goes by does not change on a device. -/
structure Stays (d d' : Device) : Prop where
  role : d'.role = d.role
  location : d'.location = d.location
  view : d'.view = d.view
  installFault : d'.installFault = d.installFault

/-- Nor does the flow table. -/
structure Keeps (d d' : Device) : Prop extends d.Stays d' where
  flows : d'.flows = d.flows

theorem Stays.refl (d : Device) : d.Stays d := ⟨rfl, rfl, rfl, rfl⟩

theorem Keeps.refl (d : Device) : d.Keeps d := ⟨.refl d, rfl⟩

theorem Stays.target {d d' : Device} (stays : d.Stays d') (port : Int32) :
    Router.target d' port = Router.target d port := by
  simp only [Router.target, childLocation?, stays.role, stays.view]

theorem stays_setFlows (d : Device) (flows : List FlowRule) : d.Stays (d.setFlows flows) := by
  obtain ⟨machine, _, _, _⟩ := d
  cases machine <;> exact ⟨rfl, rfl, rfl, rfl⟩

theorem flows_setFlows (d : Device) (flows : List FlowRule) : (d.setFlows flows).flows = flows := by
  obtain ⟨machine, _, _, _⟩ := d
  cases machine <;> rfl

theorem setQueue_keeps (d : Device) (queue : IngressQueue Nat) : d.Keeps (d.setQueue queue) := by
  obtain ⟨machine, _, _, _⟩ := d
  cases machine <;> exact ⟨⟨rfl, rfl, rfl, rfl⟩, rfl⟩

theorem closeIngress_keeps (d : Device) : d.Keeps d.closeIngress := by
  obtain ⟨machine, _, _, _⟩ := d
  cases machine <;> exact ⟨⟨rfl, rfl, rfl, rfl⟩, rfl⟩

theorem stepForward_keeps (d : Device) (f : Forward) : d.Keeps ((d.stepForward f).value v).2 := by
  obtain ⟨machine, forwardFault, installFault, view?⟩ := d
  cases machine with
  | terminal t =>
    have goes := t.step_goes f v
    rw [stepForward_terminal]
    generalize ((t.step f).value v).1 = next at goes
    generalize ((t.step f).value v).2 = after at goes ⊢
    cases goes <;> exact ⟨⟨rfl, rfl, rfl, rfl⟩, rfl⟩
  | subscriber s => cases f <;> exact ⟨⟨rfl, rfl, rfl, rfl⟩, rfl⟩

end Device

theorem Router.stepDelivery_keeps (d : Device) (frame : Frame) (delivery : Delivery) :
    d.Keeps ((stepDelivery d frame delivery).value v).2 := by
  cases delivery with
  | waiting => exact .refl d
  | forwarding passage =>
    simp only [stepDelivery]
    split
    · exact .refl d
    · exact d.stepForward_keeps _
  | ended result => exact .refl d

/-! ### Stations -/

namespace Station

/-- Neither the flow table of a station nor its lock changes. -/
structure Keeps (s s' : Station) : Prop where
  device : s.device.Keeps s'.device
  writer : s'.writer = s.writer

theorem Keeps.refl (s : Station) : s.Keeps s := ⟨.refl _, rfl⟩

/-- Work on a station leaves flow tables to requests. -/
theorem step_keeps (s : Station) (act : Act) : s.Keeps ((s.step act).value v).1 := by
  cases act with
  | submit payload | arrive port payload | info => exact ⟨.refl _, rfl⟩
  | deliver index =>
    cases found : s.submissions[index]? with
    | none => simpa [step, found] using Keeps.refl s
    | some entry => simpa [step, found] using ⟨Router.stepDelivery_keeps _ _ _, rfl⟩
  | forward index =>
    cases found : s.arrivals[index]? with
    | none => simpa [step, found] using Keeps.refl s
    | some passage => simpa [step, found] using ⟨s.device.stepForward_keeps _, rfl⟩
  | closeIngress => exact ⟨s.device.closeIngress_keeps, rfl⟩
  | outage fault => exact ⟨⟨⟨rfl, rfl, rfl, rfl⟩, rfl⟩, rfl⟩
  | openStream =>
    simp only [step]
    split <;> exact ⟨.refl _, rfl⟩
  | startRelay index =>
    simp only [step]
    split
    · exact .refl s
    · split <;> exact ⟨.refl _, rfl⟩
  | session index move =>
    simp only [step]
    split
    · exact .refl s
    · split
      · exact .refl s
      · exact ⟨s.device.setQueue_keeps _, rfl⟩

end Station

/-! ### Requests -/

namespace Job

/-- The table that a request brings. -/
def table? : Job → Option FlowTable
  | .update table _ => some table
  | .survey _ => none

@[simp] theorem table?_new (table : Option FlowTable) : (new table).table? = table := by
  cases table <;> rfl

/-- A request that brings no table is for counters, and replies these. -/
theorem reply?_of_table? {j : Job} {reply : Reply} (replies : j.reply? = some reply)
    (bare : j.table? = none) :
    ∃ metrics, j = .survey (.ended metrics) ∧ reply = .counters metrics := by
  match j, replies with
  | .update table (.ended _), _ => cases bare
  | .survey (.ended metrics), rfl => exact ⟨metrics, rfl, rfl⟩

/-- A request that has replied is not given up any more. -/
theorem drop_of_reply? {j : Job} {reply : Reply} (replies : j.reply? = some reply) :
    j.drop = j := by
  match j, replies with
  | .update table (.ended _), _ => rfl
  | .survey (.ended metrics), _ => rfl

@[simp] theorem table?_drop (j : Job) : j.drop.table? = j.table? := by
  cases j with
  | update table stage => cases stage <;> rfl
  | survey stage => cases stage <;> rfl

/-- A request that is about to write is not given up. -/
theorem drop_writing (j : Job) (table : FlowTable) :
    j.drop = .update table .writing ↔ j = .update table .writing := by
  cases j with
  | update table stage => cases stage <;> simp [drop]
  | survey stage => cases stage <;> simp [drop]

end Job

namespace Plant

/-- The turns of a request of a station. -/
inductive Turns (s : Station) (place task fresh : Nat) : Job → Turn → Prop
  | own (table : FlowTable) (here : Router.target s.device table.port = .device) :
      Turns s place task fresh (.update table .begun)
        { job := .update table .locking, station := s }
  | passed (table : FlowTable) (location : Location)
      (there : Router.target s.device table.port = .child location) :
      Turns s place task fresh (.update table .begun)
        { job := .update table (.calling fresh), station := s, calls := [(location, table)] }
  | unknown (table : FlowTable) (nowhere : Router.target s.device table.port = .unknown) :
      Turns s place task fresh (.update table .begun)
        { job := .update table (.ended .targetUnknown), station := s,
          notes := [.outcome task .targetUnknown] }
  | locked (table : FlowTable) (able : s.device.installFault = none) (free : s.writer = none) :
      Turns s place task fresh (.update table .locking)
        { job := .update table .writing, station := { s with writer := some task },
          notes := [.locked place task] }
  | refused (table : FlowTable) (fault : DeviceError)
      (broken : s.device.installFault = some fault) :
      Turns s place task fresh (.update table .locking)
        { job := .update table (.ended (.rejected fault.message)), station := s,
          notes := [.outcome task (.rejected fault.message)] }
  | wrote (table : FlowTable) (able : s.device.installFault = none) :
      Turns s place task fresh (.update table .writing)
        { job := .update table (.ended .applied),
          station := { s with device := s.device.setFlows table.flows, writer := none },
          notes := [.outcome task .applied] }
  | failed (table : FlowTable) (fault : DeviceError)
      (broken : s.device.installFault = some fault) :
      Turns s place task fresh (.update table .writing)
        { job := .update table (.ended (.rejected fault.message)),
          station := { s with writer := none },
          notes := [.outcome task (.rejected fault.message)] }
  | answered (table : FlowTable) (call : Nat) (result : Except CallError Reply) :
      Turns s place task fresh (.update table (.calling call))
        { job := .update table (.ended (Router.forwarded result)), station := s,
          notes := [.outcome task (Router.forwarded result)] }
  | surveyed (stage next : Survey) (unfinished : ∀ metrics, stage ≠ .ended metrics)
      (calls : List (Location × Option FlowTable)) (bare : ∀ call ∈ calls, call.2 = none)
      (notes : List Note)
      (silent : ∀ n k, .locked n k ∉ notes) (apart : ∀ n note, .station n note ∉ notes) :
      Turns s place task fresh (.survey stage)
        { job := .survey next, station := s, calls, notes }
  | rest (job : Job) : Turns s place task fresh job { job, station := s }

theorem conclude_value (s : Station) (task : Nat) (table : FlowTable) (outcome : Outcome) :
    (conclude s task table outcome).value v =
      { job := .update table (.ended outcome), station := s, notes := [.outcome task outcome] } :=
  rfl

theorem updateTurn_turns (s : Station) (place task fresh : Nat)
    (answer : Nat → Option (Except CallError Reply)) (table : FlowTable) (stage : Update) :
    Turns s place task fresh (.update table stage)
      ((updateTurn s place task fresh answer table stage).value v) := by
  cases stage with
  | begun =>
    simp only [updateTurn, Traced.value_bind]
    split
    · exact .own table ‹_›
    · exact .passed table _ ‹_›
    · exact .unknown table ‹_›
  | locking =>
    simp only [updateTurn]
    split
    · rename_i fault broken
      simpa [Device.install_value, broken, conclude_value, Router.installed] using
        Turns.refused table fault broken
    · exact .rest _
    · exact .locked table ‹_› ‹_›
  | writing =>
    simp only [updateTurn, Traced.value_bind, Device.install_value]
    split
    · rename_i fault broken
      exact .failed table fault broken
    · exact .wrote table ‹_›
  | calling call =>
    simp only [updateTurn]
    split
    · exact .answered table call _
    · exact .rest _
  | ended outcome | dropped => exact .rest _

theorem surveyTurn_turns (s : Station) (place task fresh : Nat)
    (answer : Nat → Option (Except CallError Reply)) (choice : Nat) (stage : Survey) :
    Turns s place task fresh (.survey stage)
      ((surveyTurn s task fresh answer choice stage).value v) := by
  cases stage with
  | begun =>
    refine .surveyed .begun _ (by simp) _ (fun call member => ?_) [] (by simp) (by simp)
    obtain ⟨_, _, rfl⟩ := List.mem_map.mp member
    rfl
  | asking f =>
    simp only [surveyTurn]
    split
    · exact .surveyed _ _ (by simp) [] (by simp) _ (by simp) (by simp)
    · split
      · exact .surveyed _ _ (by simp) [] (by simp) [] (by simp) (by simp)
      · exact .surveyed _ _ (by simp) [] (by simp) [] (by simp) (by simp)
  | ended | dropped => exact .rest _

theorem turn_turns (s : Station) (place task fresh : Nat)
    (answer : Nat → Option (Except CallError Reply)) (choice : Nat) (job : Job) :
    Turns s place task fresh job ((turn s place task fresh answer choice job).value v) := by
  cases job with
  | update table stage => exact updateTurn_turns s place task fresh answer table stage
  | survey stage => exact surveyTurn_turns s place task fresh answer choice stage

/-! ### The whole network -/

/-- What becomes of a call by itself: it is on its way, replied to, or failed. -/
inductive Becomes (p : Plant) (call : ChildCall) : Progress → Prop
  | made : Becomes p call .made
  | replied (k : Nat) (t : Task) (reply : Reply) (serving : call.progress = .serving k)
      (task : p.tasks[k]? = some t) (replies : t.job.reply? = some reply) :
      Becomes p call (.answered (.ok reply))
  | failed (error : CallError) : Becomes p call (.answered (.error error))

/-- The steps of a network, by the act that brings them about. -/
inductive Goes (v : Verbosity) (p : Plant) : Act → Plant → List Note → Prop
  | nothing (act : Act) : Goes v p act p []
  | station (n : Nat) (s : Station) (act : Station.Act) (here : p.stations[n]? = some s) :
      Goes v p (.station n act) { p with stations := p.stations.set n ((s.step act).value v).1 }
        (((s.step act).value v).2.map (.station n))
  | request (n : Nat) (s : Station) (table : Option FlowTable) (here : p.stations[n]? = some s) :
      Goes v p (.request n table) { p with tasks := p.tasks ++ [⟨n, none, .new table⟩] } []
  | turn (k choice : Nat) (t : Task) (s : Station) (task : p.tasks[k]? = some t)
      (here : p.stations[t.station]? = some s) (turn : Turn)
      (turns : Turns s t.station k p.calls.length t.job turn) :
      Goes v p (.task k choice) (p.settle k t turn) turn.notes
  | drop (k : Nat) (t : Task) (task : p.tasks[k]? = some t) :
      Goes v p (.drop k) { p with tasks := p.tasks.set k { t with job := t.job.drop } } []
  | progress (c : Nat) (call : ChildCall) (found : p.calls[c]? = some call) (move : CallMove)
      (progress : Progress) (becomes : p.Becomes call progress) (notes : List Note)
      (silent : ∀ n k, .locked n k ∉ notes) (apart : ∀ n note, .station n note ∉ notes) :
      Goes v p (.call c move) { p with calls := p.calls.set c { call with progress } } notes
  | deliver (c : Nat) (call : ChildCall) (found : p.calls[c]? = some call) (n : Nat) (s : Station)
      (here : p.stations[n]? = some s) (located : s.device.location = call.location) :
      Goes v p (.call c (.deliver n))
        { p with
          tasks := p.tasks ++ [⟨n, some c, .new call.table⟩]
          calls := p.calls.set c { call with progress := .serving p.tasks.length } } []

theorem finish_value (p : Plant) (c : Nat) (call : ChildCall) (result : Except CallError Reply) :
    (p.finish c call result).value v =
      ({ p with calls := p.calls.set c { call with progress := .answered result } },
        [.answered c result]) := by
  cases result <;> rfl

theorem stepCall_goes (p : Plant) (c : Nat) (call : ChildCall) (found : p.calls[c]? = some call)
    (move : CallMove) :
    Goes v p (.call c move) ((p.stepCall c call move).value v).1
      ((p.stepCall c call move).value v).2 := by
  cases move with
  | make =>
    simp only [stepCall]
    split
    · split
      · cases early : (p.links.opening call.location).value v with
        | none =>
          simp only [Traced.value_bind, early]
          exact .progress c call found .make .made .made _ (by simp) (by simp)
        | some error =>
          simp only [Traced.value_bind, early, finish_value, List.set_set]
          exact .progress c call found .make _ (.failed error) _ (by simp) (by simp)
      · exact .nothing _
    · exact .nothing _
  | deliver n =>
    simp only [stepCall]
    split
    · rename_i s _ here
      split
      · exact .deliver c call found n s here ‹_›
      · exact .nothing _
    · exact .nothing _
  | reply =>
    simp only [stepCall]
    split
    · rename_i k serving
      split
      · rename_i reply replied
        obtain ⟨t, task, replies⟩ := Option.bind_eq_some_iff.mp replied
        rw [finish_value]
        exact .progress c call found .reply _ (.replied k t reply serving task replies) _ (by simp)
          (by simp)
      · exact .nothing _
    · exact .nothing _
  | fail error =>
    simp only [stepCall]
    split
    · rw [finish_value]
      exact .progress c call found (.fail error) _ (.failed error) _ (by simp) (by simp)
    · rw [finish_value]
      exact .progress c call found (.fail error) _ (.failed error) _ (by simp) (by simp)
    · exact .nothing _

theorem step_goes (p : Plant) (act : Act) :
    Goes v p act ((p.step act).value v).1 ((p.step act).value v).2 := by
  cases act with
  | station n act =>
    cases here : p.stations[n]? with
    | none => simpa [step, here] using Goes.nothing (.station n act)
    | some s => simpa [step, here] using Goes.station n s act here
  | request n table =>
    cases here : p.stations[n]? with
    | none => simpa [step, here] using Goes.nothing (.request n table)
    | some s => simpa [step, here] using Goes.request n s table here
  | task k choice =>
    cases task : p.tasks[k]? with
    | none => simpa [step, task] using Goes.nothing (.task k choice)
    | some t =>
      cases here : p.stations[t.station]? with
      | none => simpa [step, task, here] using Goes.nothing (.task k choice)
      | some s =>
        have turns := turn_turns (v := v) s t.station k p.calls.length p.answer choice t.job
        simpa [step, task, here] using Goes.turn k choice t s task here _ turns
  | drop k =>
    cases task : p.tasks[k]? with
    | none => simpa [step, task] using Goes.nothing (.drop k)
    | some t => simpa [step, task] using Goes.drop k t task
  | call c move =>
    cases found : p.calls[c]? with
    | none => simpa [step, found] using Goes.nothing (.call c move)
    | some call => simpa [step, found] using stepCall_goes p c call found move

end Plant
end OpticalAccess
