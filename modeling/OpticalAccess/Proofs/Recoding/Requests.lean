import OpticalAccess.Proofs.Recoding.Stations

/-!
# Replaced contents in requests

A request does the same with the contents of another run: it comes to the same in its turns, makes
the same calls and logs the same. What it shows of counters is as the books of its station say.
-/

namespace OpticalAccess

variable {φ : Recoding} {μ : Metrics → Metrics → Prop} {v : Verbosity}

/-! ### Requests and calls -/

inductive FlowTable.Recoded (φ : Recoding) : FlowTable → FlowTable → Prop
  | table (port : Int32) {fs gs : List FlowRule} (flows : φ.flows fs gs) :
      Recoded φ ⟨port, fs⟩ ⟨port, gs⟩

inductive Survey.Recoded (μ : Metrics → Metrics → Prop) : Survey → Survey → Prop
  | begun : Recoded μ .begun .begun
  | asking (asks : Fanout Ask) : Recoded μ (.asking asks) (.asking asks)
  | ended {m m' : Metrics} (shown : μ m m') : Recoded μ (.ended m) (.ended m')
  | dropped : Recoded μ .dropped .dropped

inductive Job.Recoded (φ : Recoding) (μ : Metrics → Metrics → Prop) : Job → Job → Prop
  | update {t t' : FlowTable} (table : t.Recoded φ t') (stage : Update) :
      Recoded φ μ (.update t stage) (.update t' stage)
  | survey {s s' : Survey} (stage : s.Recoded μ s') : Recoded φ μ (.survey s) (.survey s')

inductive Reply.Recoded (μ : Metrics → Metrics → Prop) : Reply → Reply → Prop
  | taken : Recoded μ .taken .taken
  | counters {m m' : Metrics} (shown : μ m m') : Recoded μ (.counters m) (.counters m')

/-- What a call came to: the same error, or a reply with counters that may be others. -/
inductive Answered (μ : Metrics → Metrics → Prop) :
    Except CallError Reply → Except CallError Reply → Prop
  | ok {r r' : Reply} (reply : r.Recoded μ r') : Answered μ (.ok r) (.ok r')
  | error (error : CallError) : Answered μ (.error error) (.error error)

namespace Answered
variable {x y : Except CallError Reply}

theorem forwarded (same : Answered μ x y) : Router.forwarded y = Router.forwarded x := by
  cases same <;> rfl

theorem eq (same : Answered Eq x y) : y = x := by
  cases same with
  | ok reply =>
    cases reply with
    | taken => rfl
    | counters shown => rw [shown]
  | error error => rfl

/-- What is logged of an answer to a request for counters shows these. -/
theorem childAnswered_alike (same : Answered μ x y) (unshown : μ .none .none) {d d' : Device}
    (location : d'.location = d.location) (port : Int32) (child : Location) :
    Traced.Alike v μ Eq (Router.childAnswered d port child (x.map Reply.metrics))
      (Router.childAnswered d' port child (y.map Reply.metrics)) := by
  cases same with
  | ok reply =>
    simp only [Except.map, Router.childAnswered, location]
    refine .shown (.childStats _ _ ?_) (.refl _)
    cases reply with
    | taken => exact unshown
    | counters shown => exact shown
  | error error =>
    simp only [Except.map, Router.childAnswered, location]
    exact .refl _

end Answered

namespace Job
variable {j j' : Job}

theorem new_recoded {t t' : Option FlowTable} (table : Option.Rel (FlowTable.Recoded φ) t t') :
    (new t).Recoded φ μ (new t') := by
  cases table with
  | none => exact .survey .begun
  | some table => exact .update table .begun

theorem Recoded.inFlight (same : j.Recoded φ μ j') : j'.inFlight = j.inFlight := by
  cases same with
  | update table stage => cases stage <;> rfl
  | survey stage => cases stage <;> rfl

theorem Recoded.reply? (same : j.Recoded φ μ j') :
    Option.Rel (Reply.Recoded μ) j.reply? j'.reply? := by
  cases same with
  | update table stage =>
    cases stage with
    | ended outcome => exact .some .taken
    | _ => exact .none
  | survey stage =>
    cases stage with
    | ended shown => exact .some (.counters shown)
    | _ => exact .none

theorem Recoded.drop (same : j.Recoded φ μ j') : j.drop.Recoded φ μ j'.drop := by
  cases same with
  | update table stage => cases stage <;> exact .update table _
  | survey stage =>
    cases stage with
    | ended shown => exact .survey (.ended shown)
    | _ => exact .survey .dropped

end Job

inductive Task.Recoded (φ : Recoding) (μ : Metrics → Metrics → Prop) : Task → Task → Prop
  | task (station : Nat) (origin : Option Nat) {j j' : Job} (job : j.Recoded φ μ j') :
      Recoded φ μ ⟨station, origin, j⟩ ⟨station, origin, j'⟩

inductive Progress.Recoded (μ : Metrics → Metrics → Prop) : Progress → Progress → Prop
  | waiting : Recoded μ .waiting .waiting
  | made : Recoded μ .made .made
  | serving (task : Nat) : Recoded μ (.serving task) (.serving task)
  | answered {x y : Except CallError Reply} (result : Answered μ x y) :
      Recoded μ (.answered x) (.answered y)

inductive ChildCall.Recoded (φ : Recoding) (μ : Metrics → Metrics → Prop) :
    ChildCall → ChildCall → Prop
  | call (caller : Nat) (location : Location) {t t' : Option FlowTable}
      (table : Option.Rel (FlowTable.Recoded φ) t t') {s s' : Progress}
      (progress : s.Recoded μ s') :
      Recoded φ μ ⟨caller, location, t, s⟩ ⟨caller, location, t', s'⟩

namespace ChildCall
variable {c c' : ChildCall}

theorem Recoded.shown (same : c.Recoded φ μ c') :
    c'.location = c.location ∧ c'.request = c.request := by
  obtain ⟨caller, location, table, progress⟩ := same
  cases table <;> exact ⟨rfl, rfl⟩

theorem Recoded.setProgress (same : c.Recoded φ μ c') {s s' : Progress}
    (progress : s.Recoded μ s') :
    Recoded φ μ { c with progress := s } { c' with progress := s' } := by
  obtain ⟨caller, location, table, _⟩ := same
  exact .call caller location table progress

theorem Recoded.result? (same : c.Recoded φ μ c') :
    Option.Rel (Answered μ) c.result? c'.result? := by
  obtain ⟨caller, location, table, progress⟩ := same
  cases progress with
  | answered result => exact .some result
  | _ => exact .none

end ChildCall

/-! ### Turns -/

namespace Plant

/-- Counters that are shown are related in a way of their own. -/
inductive Note.Recoded (φ : Recoding) (μ : Metrics → Metrics → Prop) : Note → Note → Prop
  | station (n : Nat) {a a' : Station.Note} (note : a.Recoded φ a') :
      Recoded φ μ (.station n a) (.station n a')
  | called (task : Nat) (location : Location) {t t' : Option FlowTable}
      (table : Option.Rel (FlowTable.Recoded φ) t t') :
      Recoded φ μ (.called task location t) (.called task location t')
  | answered (call : Nat) {x y : Except CallError Reply} (result : Answered μ x y) :
      Recoded φ μ (.answered call x) (.answered call y)
  | locked (station task : Nat) : Recoded φ μ (.locked station task) (.locked station task)
  | outcome (task : Nat) (outcome : Outcome) :
      Recoded φ μ (.outcome task outcome) (.outcome task outcome)
  | metrics (task : Nat) {m m' : Metrics} (shown : μ m m') :
      Recoded φ μ (.metrics task m) (.metrics task m')

/-- A call that a request prepares: where to, and with what table. -/
abbrev Prepared (φ : Recoding) : Location × Option FlowTable → Location × Option FlowTable → Prop :=
  Both Eq (Option.Rel (FlowTable.Recoded φ))

inductive Turn.Recoded (φ : Recoding) (κ : Books μ) : Turn → Turn → Prop
  | turn {j j' : Job} (job : j.Recoded φ μ j') {s s' : Station} (station : s.Recoded φ κ s')
      {cs cs' : List (Location × Option FlowTable)} (calls : List.Forall₂ (Prepared φ) cs cs')
      {ns ns' : List Note} (notes : List.Forall₂ (Note.Recoded φ μ) ns ns') :
      Recoded φ κ ⟨j, s, cs, ns⟩ ⟨j', s', cs', ns'⟩

variable {κ : Books μ}

theorem conclude_alike {s s' : Station} (same : s.Recoded φ κ s') (task : Nat) {t t' : FlowTable}
    (table : t.Recoded φ t') (outcome : Outcome) :
    Traced.Alike v μ (Turn.Recoded φ κ) (conclude s task t outcome)
      (conclude s' task t' outcome) := by
  have location := same.device.stays.location
  have port : t'.port = t.port := by cases table; rfl
  simp only [conclude, Router.dispatchEnded, location, port, bind_assoc]
  exact .after _ fun _ => .after _ fun _ =>
    .pure (.turn (.update table _) same .nil (.cons (.outcome task outcome) .nil))

/-- The last turn of a request that installs its table, which may leave the lock behind it. -/
theorem install_alike {s s' : Station} (same : s.Recoded φ κ s') (task : Nat) {t t' : FlowTable}
    (table : t.Recoded φ t') (writer : Option Nat) :
    Traced.Alike v μ (Turn.Recoded φ κ)
      (s.device.install t.flows >>= fun x =>
        conclude { s with device := x.2, writer } task t (Router.installed x.1))
      (s'.device.install t'.flows >>= fun y =>
        conclude { s' with device := y.2, writer } task t' (Router.installed y.1)) := by
  obtain ⟨device, settings, sessions, opened, arrivals, submissions, _, unstarted⟩ := same
  obtain ⟨port, flows⟩ := table
  refine .bind (Device.install_alike device flows) fun x y same => ?_
  obtain ⟨result, _⟩ := x
  obtain ⟨result', _⟩ := y
  obtain ⟨same, after⟩ := same
  obtain rfl : result = result' := same
  exact conclude_alike
    (.station after settings sessions opened arrivals submissions writer unstarted) task
    (.table port flows) _

theorem updateTurn_alike (hidden : φ.Hidden v) {s s' : Station} (same : s.Recoded φ κ s')
    (place task fresh : Nat) {answer answer' : Nat → Option (Except CallError Reply)}
    (answers : ∀ call, Option.Rel (Answered μ) (answer call) (answer' call)) {t t' : FlowTable}
    (table : t.Recoded φ t') (stage : Update) :
    Traced.Alike v μ (Turn.Recoded φ κ) (updateTurn s place task fresh answer t stage)
      (updateTurn s' place task fresh answer' t' stage) := by
  cases table with
  | @table port fs gs flows =>
  have table : FlowTable.Recoded φ ⟨port, fs⟩ ⟨port, gs⟩ := .table port flows
  cases same with
  | @station d d' device settings xs ys sessions opened ps qs arrivals us ws submissions writer
      unstarted =>
  have still (writer : Option Nat) :
      Station.Recoded φ κ ⟨d, settings, xs, opened, ps, us, writer, unstarted⟩
        ⟨d', settings, ys, opened, qs, ws, writer, unstarted⟩ :=
    .station device settings sessions opened arrivals submissions writer unstarted
  have stays := device.stays
  cases stage with
  | begun =>
    simp only [updateTurn, Router.dispatchBegun, stays.location, stays.role, stays.target]
    refine .told (hidden.listed (.flowUpdateStarted _ _ _) flows) ?_
    cases Router.target d port with
    | device => exact .pure (.turn (.update table .locking) (still writer) .nil .nil)
    | child location =>
      have call : Prepared φ (location, some ⟨port, fs⟩) (location, some ⟨port, gs⟩) :=
        ⟨rfl, .some table⟩
      exact .pure (.turn (.update table _) (still writer) (.cons call .nil) .nil)
    | unknown => exact conclude_alike (still writer) task table _
  | locking =>
    simp only [updateTurn, stays.installFault]
    cases d.installFault with
    | some reason => exact install_alike (still writer) task table writer
    | none =>
      cases writer with
      | some other => exact .pure (.turn (.update table _) (still _) .nil .nil)
      | none =>
        exact .pure (.turn (.update table _) (still _) .nil (.cons (.locked place task) .nil))
  | writing => exact install_alike (still writer) task table none
  | calling call =>
    have answered := answers call
    simp only [updateTurn]
    generalize answer call = x at answered ⊢
    generalize answer' call = y at answered ⊢
    cases answered with
    | some result =>
      simp only [result.forwarded]
      exact conclude_alike (still writer) task table _
    | none => exact .pure (.turn (.update table _) (still writer) .nil .nil)
  | ended outcome => exact .pure (.turn (.update table _) (still writer) .nil .nil)
  | dropped => exact .pure (.turn (.update table _) (still writer) .nil .nil)

theorem surveyTurn_alike {s s' : Station} (same : s.Recoded φ κ s') (task fresh : Nat)
    {answer answer' : Nat → Option (Except CallError Reply)}
    (answers : ∀ call, Option.Rel (Answered μ) (answer call) (answer' call)) (choice : Nat)
    {stage stage' : Survey} (stages : stage.Recoded μ stage') :
    Traced.Alike v μ (Turn.Recoded φ κ) (surveyTurn s task fresh answer choice stage)
      (surveyTurn s' task fresh answer' choice stage') := by
  have device := same.device
  have location := device.stays.location
  cases stages with
  | begun =>
    have settings : s'.settings = s.settings := by cases same; rfl
    simp only [surveyTurn, location, device.stays.role, Router.statsCalls_recoded device, settings]
    refine .after _ fun _ => .pure (.turn (.survey (.asking _)) same ?_ .nil)
    exact List.forall₂_map_left_iff.mpr (List.forall₂_map_right_iff.mpr
      (List.forall₂_same.mpr fun call _ => ⟨rfl, .none⟩))
  | asking f =>
    have shown := Router.shownMetrics_recoded device
    simp only [surveyTurn, location]
    cases settled : f.launch.settle choice with
    | none =>
      exact .shown (.stats _ shown)
        (.pure (.turn (.survey (.ended shown)) same .nil (.cons (.metrics task shown) .nil)))
    | some next =>
      obtain ⟨ask, rest⟩ := next
      have answered := answers ask.call
      dsimp only
      generalize answer ask.call = x at answered ⊢
      generalize answer' ask.call = y at answered ⊢
      cases answered with
      | none => exact .pure (.turn (.survey (.asking _)) same .nil .nil)
      | some result =>
        exact .bind (result.childAnswered_alike κ.unshown location ask.port ask.child)
          fun _ _ _ => .pure (.turn (.survey (.asking _)) same .nil .nil)
  | ended shown => exact .pure (.turn (.survey (.ended shown)) same .nil .nil)
  | dropped => exact .pure (.turn (.survey .dropped) same .nil .nil)

theorem turn_alike (hidden : φ.Hidden v) {s s' : Station} (same : s.Recoded φ κ s')
    (place task fresh : Nat) {answer answer' : Nat → Option (Except CallError Reply)}
    (answers : ∀ call, Option.Rel (Answered μ) (answer call) (answer' call)) (choice : Nat)
    {j j' : Job} (job : j.Recoded φ μ j') :
    Traced.Alike v μ (Turn.Recoded φ κ) (turn s place task fresh answer choice j)
      (turn s' place task fresh answer' choice j') := by
  cases job with
  | update table stage => exact updateTurn_alike hidden same place task fresh answers table stage
  | survey stage => exact surveyTurn_alike same task fresh answers choice stage

end Plant
end OpticalAccess
