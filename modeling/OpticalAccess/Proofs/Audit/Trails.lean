import OpticalAccess.Proofs.Audit.Turns
import OpticalAccess.Proofs.Submission.Accounts

/-!
# Trails of requests and calls

However the requests and the calls of a network interleave, what each of them has logged is settled
by how far it is. A request that is over has logged its start, what became of it and its end; a
request for counters has logged what became of every call that it looked at. Such a call is over
then, and has logged all that it ever will.
-/

namespace OpticalAccess

namespace Plant

variable {p q : Plant} {k c : Nat} {d d' : Device} {table : FlowTable} {job job' : Job}
  {log events : List Event} {act : Act}

/-! ### What stays -/

/-- A call that a request has made. -/
def Made (p : Plant) (k c : Nat) (location : Location) (table : Option FlowTable) : Prop :=
  ∃ call, p.calls[c]? = some call ∧ call.caller = k ∧ call.location = location ∧ call.table = table

/-- Calls keep the answers that they have. -/
structure Holds (p q : Plant) : Prop where
  grows : p.Grows q
  answers : ∀ c result, p.answer c = some result → q.answer c = some result

theorem Holds.refl (p : Plant) : p.Holds p where
  grows :=
    ⟨.refl (fun s => .refl s.device) _, .refl Task.Stays.refl _, .refl ChildCall.Stays.refl _⟩
  answers _ _ answered := answered

theorem Made.later {location : Location} {table : Option FlowTable}
    (made : p.Made k c location table) (holds : p.Holds q) : q.Made k c location table := by
  obtain ⟨call, found, rfl, rfl, rfl⟩ := made
  obtain ⟨call', found', stays⟩ := holds.grows.calls c call found
  exact ⟨call', found', stays.caller, stays.location, stays.table⟩

theorem Tale.answers (tale : p.Tale act q.tasks q.calls events) {result : Except CallError Reply}
    (answered : p.answer c = some result) : q.answer c = some result := by
  obtain ⟨call, found, result_eq⟩ := Option.bind_eq_some_iff.mp answered
  obtain ⟨inside, -⟩ := List.getElem?_eq_some_iff.mp found
  suffices same : q.calls[c]? = p.calls[c]? by rw [answer, same]; exact answered
  generalize q.calls = calls at tale
  generalize q.tasks = tasks at tale
  cases tale with
  | nothing | aside | drop => rfl
  | turn => rw [List.getElem?_append_left inside]
  | move b moved found' move progress events tells =>
    refine List.getElem?_set_ne fun same => ?_
    subst same
    obtain rfl := Option.some.inj (found.symm.trans found')
    rw [tells.unanswered] at result_eq
    cases result_eq

theorem step_holds (p : Plant) (act : Act) : p.Holds ((p.step act).value .full).1 :=
  ⟨(p.step_goes act).grows, fun _ _ answered => (p.step_tale act).answers answered⟩

theorem step_links (p : Plant) (act : Act) {v : Verbosity} :
    ((p.step act).value v).1.links = p.links := by
  have goes := p.step_goes (v := v) act
  generalize ((p.step act).value v).1 = q at goes ⊢
  generalize ((p.step act).value v).2 = notes at goes
  cases goes <;> rfl

/-! ### Trails -/

/-- Where the outcome of a request with a flow table comes from, and what was logged meanwhile. -/
inductive Comes (p : Plant) (k : Nat) (d : Device) (table : FlowTable) :
    Outcome → List Event → Prop
  | installed (here : Router.target d table.port = .device) :
      Comes p k d table (Router.installed ((d.install table.flows).value .full).1)
        ((d.install table.flows).events .full)
  | forwarded (location : Location) (there : Router.target d table.port = .child location)
      (c : Nat) (made : p.Made k c location (some table)) (result : Except CallError Reply)
      (answered : p.answer c = some result) :
      Comes p k d table (Router.forwarded result) []
  | unknown (nowhere : Router.target d table.port = .unknown) :
      Comes p k d table .targetUnknown []

/-- Every child of a device is asked once, by a call of its own. -/
structure Covers (p : Plant) (k : Nat) (d : Device) (asks : List Ask) : Prop where
  children : (asks.map Ask.target).Perm (Router.statsCalls d)
  distinct : (asks.map Ask.call).Nodup
  made : ∀ ask ∈ asks, p.Made k ask.call ask.child none

/-- Asks whose calls are over, in the order in which the request looked at them. -/
structure Looked (p : Plant) (d : Device) (looked : List (Ask × Except CallError Reply))
    (log : List Event) : Prop where
  answered : ∀ look ∈ looked, p.answer look.1.call = some look.2
  log : log = .statsStarted d.location d.role ::
    looked.flatMap fun look =>
      Router.answerLog d.location (Ask.target look.1) (look.2.map Reply.metrics)

/-- What a request has logged. -/
inductive Trail (p : Plant) (k : Nat) (d : Device) : Job → List Event → Prop
  | updateBegun (table : FlowTable) : Trail p k d (.update table .begun) []
  | locking (table : FlowTable) (here : Router.target d table.port = .device) :
      Trail p k d (.update table .locking) [Router.startLog d table]
  | writing (table : FlowTable) (here : Router.target d table.port = .device) :
      Trail p k d (.update table .writing) [Router.startLog d table]
  | calling (table : FlowTable) (location : Location)
      (there : Router.target d table.port = .child location) (c : Nat)
      (made : p.Made k c location (some table)) :
      Trail p k d (.update table (.calling c)) [Router.startLog d table]
  | updated (table : FlowTable) (outcome : Outcome) (middle : List Event)
      (comes : Comes p k d table outcome middle) :
      Trail p k d (.update table (.ended outcome))
        (Router.startLog d table :: (middle ++ Router.endLog d.location table.port outcome))
  | updateDropped (table : FlowTable) (log : List Event)
      (part : log = [] ∨ log = [Router.startLog d table]) : Trail p k d (.update table .dropped) log
  | surveyBegun : Trail p k d (.survey .begun) []
  | asking (f : Fanout Ask) (positive : 0 < f.limit) (room : f.inFlight.length ≤ f.limit)
      (looked : List (Ask × Except CallError Reply))
      (covers : Covers p k d (looked.map Prod.fst ++ (f.inFlight ++ f.waiting))) (log : List Event)
      (told : Looked p d looked log) : Trail p k d (.survey (.asking f)) log
  | surveyed (looked : List (Ask × Except CallError Reply))
      (covers : Covers p k d (looked.map Prod.fst)) (log : List Event)
      (told : Looked p d looked log) (metrics : Metrics) :
      Trail p k d (.survey (.ended metrics)) (log ++ [.statsDone d.location metrics])
  | surveyDropped (log : List Event)
      (part : log = [] ∨ ∃ looked others, Covers p k d (looked.map Prod.fst ++ others) ∧
        Looked p d looked log) :
      Trail p k d (.survey .dropped) log

section Holds
variable (holds : p.Holds q) (stays : d.Stays d')
include holds stays

theorem Comes.later {outcome : Outcome} {middle : List Event}
    (comes : Comes p k d table outcome middle) : Comes q k d' table outcome middle := by
  cases comes with
  | installed here =>
    rw [← stays.installed, ← stays.events_install]
    exact .installed ((stays.target _).trans here)
  | forwarded location there c made result answered =>
    exact .forwarded location ((stays.target _).trans there) c (made.later holds) result
      (holds.answers c result answered)
  | unknown nowhere => exact .unknown ((stays.target _).trans nowhere)

theorem Covers.later {asks : List Ask} (covers : Covers p k d asks) : Covers q k d' asks where
  children := stays.statsCalls ▸ covers.children
  distinct := covers.distinct
  made ask member := (covers.made ask member).later holds

theorem Looked.later {looked : List (Ask × Except CallError Reply)} (told : Looked p d looked log) :
    Looked q d' looked log where
  answered look member := holds.answers _ _ (told.answered look member)
  log := by rw [told.log, stays.location, stays.role]

theorem Trail.later (trail : Trail p k d job log) : Trail q k d' job log := by
  cases trail with
  | updateBegun table => exact .updateBegun table
  | locking table here =>
    rw [← stays.startLog]
    exact .locking table ((stays.target _).trans here)
  | writing table here =>
    rw [← stays.startLog]
    exact .writing table ((stays.target _).trans here)
  | calling table location there c made =>
    rw [← stays.startLog]
    exact .calling table location ((stays.target _).trans there) c (made.later holds)
  | updated table outcome middle comes =>
    rw [← stays.startLog, ← stays.location]
    exact .updated table outcome middle (comes.later holds stays)
  | updateDropped table log part =>
    rw [← stays.startLog] at part
    exact .updateDropped table log part
  | surveyBegun => exact .surveyBegun
  | asking f positive room looked covers log told =>
    exact .asking f positive room looked (covers.later holds stays) log (told.later holds stays)
  | surveyed looked covers log told metrics =>
    rw [← stays.location]
    exact .surveyed looked (covers.later holds stays) log (told.later holds stays) metrics
  | surveyDropped log part =>
    refine .surveyDropped log (part.imp_right fun ⟨looked, others, covers, told⟩ => ?_)
    exact ⟨looked, others, covers.later holds stays, told.later holds stays⟩

end Holds

/-! ### Turns -/

theorem Trail.drop (trail : Trail p k d job log) : Trail p k d job.drop log := by
  cases trail with
  | updateBegun table => exact .updateDropped table [] (.inl rfl)
  | locking table here => exact .updateDropped table _ (.inr rfl)
  | writing table here => exact .writing table here
  | calling table location there c made => exact .updateDropped table _ (.inr rfl)
  | updated table outcome middle comes => exact .updated table outcome middle comes
  | updateDropped table log part => exact .updateDropped table log part
  | surveyBegun => exact .surveyDropped [] (.inl rfl)
  | asking f positive room looked covers log told =>
    exact .surveyDropped log (.inr ⟨looked, _, covers, told⟩)
  | surveyed looked covers log told metrics => exact .surveyed looked covers log told metrics
  | surveyDropped log part => exact .surveyDropped log part

theorem Covers.perm {asks asks' : List Ask} (covers : Covers p k d asks) (perm : asks'.Perm asks) :
    Covers p k d asks' where
  children := (perm.map _).trans covers.children
  distinct := (perm.map _).nodup_iff.mpr covers.distinct
  made ask member := covers.made ask (perm.mem_iff.mp member)

theorem Looked.snoc {looked : List (Ask × Except CallError Reply)} (told : Looked p d looked log)
    {ask : Ask} {result : Except CallError Reply} (answered : p.answer ask.call = some result) :
    Looked p d (looked ++ [(ask, result)])
      (log ++ Router.answerLog d.location (Ask.target ask) (result.map Reply.metrics)) where
  answered := by
    intro look member
    obtain member | rfl := (List.mem_append.mp member).imp_right List.mem_singleton.mp
    · exact told.answered look member
    · exact answered
  log := by simp [told.log]

/-- The calls of a request are numbered on from those that there are. -/
theorem covers_asks {calls : List ChildCall}
    (made : p.calls = calls ++ (Router.statsCalls d).map fun call => ⟨k, call.2, none, .waiting⟩) :
    Covers p k d (asks calls.length (Router.statsCalls d)) where
  children := by rw [asks_target]
  distinct := by
    have numbers : (asks calls.length (Router.statsCalls d)).map Ask.call =
        (List.range (Router.statsCalls d).length).map (calls.length + ·) := by
      refine List.ext_getElem (by simp [asks]) fun i _ _ => ?_
      simp [asks]
    rw [numbers]
    exact List.nodup_range.map fun _ _ => Nat.add_left_cancel
  made := by
    intro ask member
    obtain ⟨i, inside, rfl⟩ := List.mem_mapIdx.mp member
    refine ⟨⟨k, (Router.statsCalls d)[i].2, none, .waiting⟩, ?_, rfl, rfl, rfl⟩
    simp [made, inside]

theorem Tells.trail {s : Station} {calls : List (Location × Option FlowTable)}
    (tells : Tells s p.calls.length p.answer job job' calls events)
    (trail : Trail p k s.device job log) (holds : p.Holds q)
    (made : q.calls = p.calls ++ calls.map fun call => ⟨k, call.1, call.2, .waiting⟩) :
    Trail q k s.device job' (log ++ events) := by
  have trail := trail.later holds (.refl s.device)
  cases tells with
  | rest => rwa [List.append_nil]
  | own table here =>
    cases trail
    exact .locking table here
  | passed table location there =>
    cases trail
    refine .calling table location there _ ⟨⟨k, location, some table, .waiting⟩, ?_, rfl, rfl, rfl⟩
    simp [made]
  | unknown table nowhere =>
    cases trail
    exact .updated table .targetUnknown [] (.unknown nowhere)
  | locked table =>
    cases trail with
    | locking _ here => exact .writing table here
  | installed table stage own outcome same =>
    subst same
    obtain rfl | rfl := own
    · cases trail with
      | locking _ here => exact .updated table _ _ (.installed here)
    · cases trail with
      | writing _ here => exact .updated table _ _ (.installed here)
  | answered table call result found =>
    cases trail with
    | calling _ location there _ made =>
      exact .updated table _ [] (.forwarded location there call made result
        (holds.answers call result found))
  | surveyed =>
    cases trail
    have covers : Covers q k s.device (asks p.calls.length (Router.statsCalls s.device)) :=
      covers_asks (by simpa [Function.comp_def] using made)
    refine .asking _ (by simp [Fanout.new]) (Nat.zero_le _) [] ?_ _ ⟨by simp, by simp⟩
    simpa [Fanout.new] using covers
  | waited f =>
    cases trail with
    | asking _ positive room looked covers _ told =>
      rw [List.append_nil]
      rw [← f.launch_calls] at covers
      refine .asking f.launch positive ?_ looked covers log told
      rw [Fanout.launch_length room]
      exact Nat.min_le_left _ _
  | settled f rest choice ask result back found =>
    cases trail with
    | asking _ positive room looked covers _ told =>
      have round := Fanout.round positive room choice
      rw [back] at round
      cases round with
      | back _ _ split limit room =>
        -- The call that comes back goes over to those that the request has looked at.
        refine .asking rest (limit ▸ positive) (limit ▸ room) (looked ++ [(ask, result)]) ?_ _
          (told.snoc (holds.answers ask.call result found))
        refine covers.perm ?_
        simpa using split.append_left (looked.map Prod.fst)
  | done f choice nothing =>
    cases trail with
    | asking _ positive room looked covers _ told =>
      have round := Fanout.round positive room choice
      rw [nothing] at round
      cases round with
      | finished nothing =>
        -- No call is left, so all children are among those looked at.
        rw [nothing, List.append_nil] at covers
        exact .surveyed looked covers log told _

end Plant
end OpticalAccess
