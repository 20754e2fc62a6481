import OpticalAccess.Proofs.Plant.Steps

/-!
# Chains of requests

A controller's request with a flow table is served where it was made, or passed on to a child, where
it is a request again. However the requests of a network interleave, behind each of them there is a
chain that begins with a controller's request and carries the same table all the way.
-/

namespace OpticalAccess

/-! ### What stays -/

/-- Entries stay where they are and change only as they may. -/
def Evolves (R : α → α → Prop) (xs ys : List α) : Prop :=
  ∀ (i : Nat) (x : α), xs[i]? = some x → ∃ y, ys[i]? = some y ∧ R x y

namespace Evolves
variable {R : α → α → Prop}

theorem refl (same : ∀ x, R x x) (xs : List α) : Evolves R xs xs := fun _ x found =>
  ⟨x, found, same x⟩

theorem append (same : ∀ x, R x x) (xs ys : List α) : Evolves R xs (xs ++ ys) := by
  intro i x found
  obtain ⟨inside, -⟩ := List.getElem?_eq_some_iff.mp found
  exact ⟨x, by rw [List.getElem?_append_left inside, found], same x⟩

theorem set (same : ∀ x, R x x) {xs : List α} {i : Nat} {x y : α} (found : xs[i]? = some x)
    (changed : R x y) : Evolves R xs (xs.set i y) := by
  intro j z present
  by_cases hit : i = j
  · subst hit
    obtain rfl : x = z := Option.some.inj (found.symm.trans present)
    obtain ⟨inside, -⟩ := List.getElem?_eq_some_iff.mp found
    exact ⟨y, List.getElem?_set_self inside, changed⟩
  · exact ⟨z, by rw [List.getElem?_set_ne hit, present], same z⟩

end Evolves

section Lookup
variable {xs : List α} {x y : α} {i k : Nat}

theorem getElem?_append_cases {ys : List α} (found : (xs ++ ys)[k]? = some y) :
    xs[k]? = some y ∨ xs[k]? = none ∧ y ∈ ys := by
  rcases Nat.lt_or_ge k xs.length with inside | outside
  · exact .inl (by rwa [List.getElem?_append_left inside] at found)
  · rw [List.getElem?_append_right outside] at found
    exact .inr ⟨List.getElem?_eq_none outside, List.mem_of_getElem? found⟩

theorem getElem?_set_cases (found : (xs.set i x)[k]? = some y) :
    (k = i ∧ y = x) ∨ k ≠ i ∧ xs[k]? = some y := by
  by_cases hit : i = k
  · subst hit
    obtain ⟨_, rfl⟩ := List.getElem?_eq_some_iff.mp found
    exact .inl ⟨rfl, by simp⟩
  · exact .inr ⟨Ne.symm hit, by rwa [List.getElem?_set_ne hit] at found⟩

end Lookup

/-- A request keeps its place, its origin and its table, and once it is over it is over. -/
structure Task.Stays (t t' : Task) : Prop where
  station : t'.station = t.station
  origin : t'.origin = t.origin
  table : t'.job.table? = t.job.table?
  replied : ∀ reply, t.job.reply? = some reply → t'.job = t.job

structure ChildCall.Stays (c c' : ChildCall) : Prop where
  caller : c'.caller = c.caller
  location : c'.location = c.location
  table : c'.table = c.table

theorem Task.Stays.refl (t : Task) : t.Stays t := ⟨rfl, rfl, rfl, fun _ _ => rfl⟩

theorem ChildCall.Stays.refl (c : ChildCall) : c.Stays c := ⟨rfl, rfl, rfl⟩

namespace Plant

/-- Nothing that a chain of requests goes by is lost. -/
structure Grows (p q : Plant) : Prop where
  stations : Evolves (fun s s' => s.device.Stays s'.device) p.stations q.stations
  tasks : Evolves Task.Stays p.tasks q.tasks
  calls : Evolves ChildCall.Stays p.calls q.calls

variable {s : Station} {place k fresh : Nat} {job : Job} {turn : Turn}

theorem Turns.job_stays (turns : Turns s place k fresh job turn) :
    turn.job.table? = job.table? ∧ ∀ reply, job.reply? = some reply → turn.job = job := by
  cases turns with
  | surveyed stage next unfinished =>
    refine ⟨rfl, fun reply replied => ?_⟩
    obtain ⟨metrics, ended, _⟩ := Job.reply?_of_table? replied rfl
    cases ended
    exact absurd rfl (unfinished metrics)
  | rest => exact ⟨rfl, fun _ _ => rfl⟩
  | _ => exact ⟨rfl, fun _ replied => by cases replied⟩

theorem Turns.device_stays (turns : Turns s place k fresh job turn) :
    s.device.Stays turn.station.device := by
  cases turns with
  | wrote table able => exact s.device.stays_setFlows table.flows
  | _ => exact .refl _

variable {v : Verbosity} {p q : Plant} {act : Act} {notes : List Note}

theorem Goes.grows (goes : p.Goes v act q notes) : p.Grows q := by
  have stations : Evolves (fun s s' : Station => s.device.Stays s'.device) p.stations p.stations :=
    .refl (fun s => .refl s.device) p.stations
  have tasks := Evolves.refl Task.Stays.refl p.tasks
  have calls := Evolves.refl ChildCall.Stays.refl p.calls
  cases goes with
  | nothing => exact ⟨stations, tasks, calls⟩
  | station n s act here =>
    refine ⟨.set (fun s => .refl s.device) here ?_, tasks, calls⟩
    exact (s.step_keeps act).device.toStays
  | request n s table here => exact ⟨stations, .append Task.Stays.refl _ _, calls⟩
  | turn k choice t s task here turn turns =>
    obtain ⟨table, replied⟩ := turns.job_stays
    refine ⟨.set (fun s => .refl s.device) here turns.device_stays,
      .set Task.Stays.refl task ⟨rfl, rfl, table, replied⟩, .append ChildCall.Stays.refl _ _⟩
  | drop k t task =>
    have stays : t.Stays { t with job := t.job.drop } :=
      ⟨rfl, rfl, t.job.table?_drop, fun _ => Job.drop_of_reply?⟩
    exact ⟨stations, .set Task.Stays.refl task stays, calls⟩
  | progress c call found =>
    exact ⟨stations, tasks, .set ChildCall.Stays.refl found ⟨rfl, rfl, rfl⟩⟩
  | deliver c call found n s here located =>
    exact ⟨stations, .append Task.Stays.refl _ _, .set ChildCall.Stays.refl found ⟨rfl, rfl, rfl⟩⟩

/-! ### Chains -/

/-- A request of a controller that brings a table. -/
structure Asked (p : Plant) (table : FlowTable) (k : Nat) (t : Task) : Prop where
  task : p.tasks[k]? = some t
  origin : t.origin = none
  table : t.job.table? = some table

/-- A request that passes its table on by a call, because it is for the child behind its port. -/
structure Passes (p : Plant) (table : FlowTable) (k c : Nat) (t : Task) (s : Station)
    (call : ChildCall) : Prop where
  task : p.tasks[k]? = some t
  brings : t.job.table? = some table
  station : p.stations[t.station]? = some s
  found : p.calls[c]? = some call
  caller : call.caller = k
  carries : call.table = some table
  target : Router.target s.device table.port = .child call.location

/-- A call that has reached the router of the child as a request of its own. -/
structure Arrives (p : Plant) (table : FlowTable) (c k : Nat) (t : Task) (s : Station)
    (call : ChildCall) : Prop where
  found : p.calls[c]? = some call
  carries : call.table = some table
  task : p.tasks[k]? = some t
  origin : t.origin = some c
  brings : t.job.table? = some table
  station : p.stations[t.station]? = some s
  located : s.device.location = call.location

/-- The requests from a controller's one to another, each passed on with the same table. -/
inductive Chain (p : Plant) (table : FlowTable) (r : Nat) : Nat → Prop
  | asked (t : Task) (asked : p.Asked table r t) : Chain p table r r
  | hop (k c j : Nat) (t u : Task) (s s' : Station) (call : ChildCall)
      (before : Chain p table r k) (passes : p.Passes table k c t s call)
      (arrives : p.Arrives table c j u s' call) : Chain p table r j

section Grows
variable {table : FlowTable} {k c r : Nat}

theorem Asked.grows {t : Task} (asked : p.Asked table k t) (grows : p.Grows q) :
    ∃ t', q.Asked table k t' := by
  obtain ⟨t', task, stays⟩ := grows.tasks k t asked.task
  exact ⟨t', task, stays.origin.trans asked.origin, stays.table.trans asked.table⟩

theorem Passes.grows {t : Task} {s : Station} {call : ChildCall}
    (passes : p.Passes table k c t s call) (grows : p.Grows q) :
    ∃ t' s' call', q.Passes table k c t' s' call' ∧ call.Stays call' := by
  obtain ⟨t', task, stays⟩ := grows.tasks k t passes.task
  obtain ⟨s', station, device⟩ := grows.stations _ s passes.station
  obtain ⟨call', found, called⟩ := grows.calls c call passes.found
  refine ⟨t', s', call', ⟨task, stays.table.trans passes.brings, ?_, found, ?_, ?_, ?_⟩, called⟩
  · rw [stays.station, station]
  · rw [called.caller, passes.caller]
  · rw [called.table, passes.carries]
  · rw [device.target, passes.target, called.location]

theorem Arrives.grows {t : Task} {s : Station} {call : ChildCall}
    (arrives : p.Arrives table c k t s call) (grows : p.Grows q) {call' : ChildCall}
    (found : q.calls[c]? = some call') (called : call.Stays call') :
    ∃ t' s', q.Arrives table c k t' s' call' := by
  obtain ⟨t', task, stays⟩ := grows.tasks k t arrives.task
  obtain ⟨s', station, device⟩ := grows.stations _ s arrives.station
  refine ⟨t', s', found, ?_, task, stays.origin.trans arrives.origin,
    stays.table.trans arrives.brings, ?_, ?_⟩
  · rw [called.table, arrives.carries]
  · rw [stays.station, station]
  · rw [device.location, arrives.located, called.location]

theorem Chain.grows (chain : p.Chain table r k) (grows : p.Grows q) : q.Chain table r k := by
  induction chain with
  | asked t asked =>
    obtain ⟨t', asked⟩ := asked.grows grows
    exact .asked t' asked
  | hop k c j t u s s' call _ passes arrives ih =>
    obtain ⟨_, _, call', passes, called⟩ := passes.grows grows
    obtain ⟨_, _, arrives⟩ := arrives.grows grows passes.found called
    exact .hop _ _ _ _ _ _ _ _ ih passes arrives

end Grows

/-! ### Every request is at the end of a chain -/

/-- How far a request may be, by where its table belongs. -/
inductive Fits : Router.Target → Update → Prop
  | begun (target : Router.Target) : Fits target .begun
  | locking : Fits .device .locking
  | writing : Fits .device .writing
  | calling (location : Location) (call : Nat) : Fits (.child location) (.calling call)
  | ended (target : Router.Target) (outcome : Outcome) : Fits target (.ended outcome)
  | dropped (target : Router.Target) : Fits target .dropped

theorem Fits.device_of_locking {target : Router.Target} (fits : Fits target .locking) :
    target = .device := by
  cases fits
  rfl

theorem Fits.device_of_writing {target : Router.Target} (fits : Fits target .writing) :
    target = .device := by
  cases fits
  rfl

/-- A request is at a station, and no further than it may be there. -/
def Placed (p : Plant) (t : Task) : Prop :=
  ∃ s, p.stations[t.station]? = some s ∧
    ∀ table stage, t.job = .update table stage → Fits (Router.target s.device table.port) stage

theorem Placed.grows {t : Task} (placed : p.Placed t) (grows : p.Grows q) : q.Placed t := by
  obtain ⟨s, here, fits⟩ := placed
  obtain ⟨s', there, stays⟩ := grows.stations _ s here
  exact ⟨s', there, fun table stage same => stays.target table.port ▸ fits table stage same⟩

theorem placed_new {n : Nat} (here : p.stations[n]? = some s) (origin : Option Nat)
    (table : Option FlowTable) : p.Placed ⟨n, origin, .new table⟩ := by
  refine ⟨s, here, fun table' stage same => ?_⟩
  cases table with
  | none => cases same
  | some table =>
    cases same
    exact .begun _

theorem Turns.fits (turns : Turns s place k fresh job turn)
    (fits : ∀ table stage, job = .update table stage →
      Fits (Router.target s.device table.port) stage) :
    ∀ table stage, turn.job = .update table stage →
      Fits (Router.target s.device table.port) stage := by
  intro table stage same
  cases turns with
  | own table' here =>
    cases same
    exact here ▸ .locking
  | passed table' location there =>
    cases same
    exact there ▸ .calling location fresh
  | locked table' able free =>
    cases same
    rw [(fits table .locking rfl).device_of_locking]
    exact .writing
  | unknown | refused | wrote | failed | answered =>
    cases same
    exact .ended _ _
  | surveyed => cases same
  | rest job => exact fits table stage same

theorem Placed.drop {t : Task} (placed : p.Placed t) : p.Placed { t with job := t.job.drop } := by
  obtain ⟨s, here, fits⟩ := placed
  refine ⟨s, here, fun table stage same => ?_⟩
  obtain ⟨station, origin, job⟩ := t
  cases job with
  | survey stage => cases stage <;> cases same
  | update table' stage' =>
    have before := fits table' stage' rfl
    cases stage' <;> cases same
    · exact .dropped _
    · exact .dropped _
    · exact before
    · exact .dropped _
    · exact .ended _ _
    · exact .dropped _

/-- Requests and calls are where they belong, and come from where they say. -/
structure Routed (p : Plant) : Prop where
  placed : ∀ (k : Nat) (t : Task), p.tasks[k]? = some t → p.Placed t
  chains : ∀ (k : Nat) (t : Task) (table : FlowTable), p.tasks[k]? = some t →
    t.job.table? = some table → ∃ r, p.Chain table r k
  passes : ∀ (c : Nat) (call : ChildCall) (table : FlowTable), p.calls[c]? = some call →
    call.table = some table → ∃ t s, p.Passes table call.caller c t s call

theorem ofNetwork_routed (w : Network) : (ofNetwork w).Routed := by
  refine ⟨fun k t task => ?_, fun k t table task => ?_, fun c call table found => ?_⟩
  · cases task
  · cases task
  · cases found

theorem Routed.placed_step (routed : p.Routed) (goes : p.Goes v act q notes) (k : Nat) (t : Task)
    (task : q.tasks[k]? = some t) : q.Placed t := by
  have grows := goes.grows
  cases goes with
  | nothing | station | progress => exact (routed.placed k t task).grows grows
  | request n s table here =>
    rcases getElem?_append_cases task with before | ⟨-, last⟩
    · exact (routed.placed k t before).grows grows
    · obtain rfl := List.mem_singleton.mp last
      exact placed_new here none table
  | turn j choice u s found here turn turns =>
    rcases getElem?_set_cases task with ⟨rfl, rfl⟩ | ⟨-, before⟩
    · obtain ⟨s', at', fits⟩ := routed.placed k u found
      obtain rfl : s = s' := Option.some.inj (here.symm.trans at')
      exact Placed.grows ⟨s, here, turns.fits fits⟩ grows
    · exact (routed.placed k t before).grows grows
  | drop j u found =>
    rcases getElem?_set_cases task with ⟨rfl, rfl⟩ | ⟨-, before⟩
    · exact ((routed.placed k u found).drop).grows grows
    · exact (routed.placed k t before).grows grows
  | deliver c call found n s here located =>
    rcases getElem?_append_cases task with before | ⟨-, last⟩
    · exact (routed.placed k t before).grows grows
    · obtain rfl := List.mem_singleton.mp last
      exact placed_new here (some c) call.table

theorem Routed.passes_step (routed : p.Routed) (goes : p.Goes v act q notes) (c : Nat)
    (call : ChildCall) (table : FlowTable) (found : q.calls[c]? = some call)
    (carries : call.table = some table) : ∃ t s, q.Passes table call.caller c t s call := by
  have grows := goes.grows
  cases known : p.calls[c]? with
  | some call' =>
    obtain ⟨call'', found', stays⟩ := grows.calls c call' known
    obtain rfl : call'' = call := Option.some.inj (found'.symm.trans found)
    obtain ⟨t, s, passes⟩ := routed.passes c call' table known (stays.table ▸ carries)
    obtain ⟨t', s', _, passes, _⟩ := passes.grows grows
    obtain rfl := Option.some.inj (passes.found.symm.trans found)
    exact ⟨t', s', stays.caller ▸ passes⟩
  | none =>
    cases goes with
    | turn k choice t s task here turn turns =>
      rcases getElem?_append_cases found with before | ⟨-, fresh⟩
      · cases known.symm.trans before
      · obtain ⟨prepared, member, rfl⟩ := List.mem_map.mp fresh
        obtain ⟨n, origin, job⟩ := t
        obtain ⟨next, task', stays⟩ := grows.tasks k _ task
        obtain ⟨s', here', device⟩ := grows.stations n s here
        cases turns with
        | passed table' location there =>
          obtain rfl := List.mem_singleton.mp member
          obtain rfl : table' = table := Option.some.inj carries
          refine ⟨next, s', task', stays.table, ?_, found, rfl, rfl, ?_⟩
          · rw [stays.station]
            exact here'
          · rw [device.target, there]
        | surveyed stage next unfinished calls bare =>
          cases (bare prepared member).symm.trans carries
        | _ => cases member
    | nothing | station | request | drop => cases known.symm.trans found
    | progress j call' found' =>
      rcases getElem?_set_cases found with ⟨rfl, -⟩ | ⟨-, before⟩
      · cases known.symm.trans found'
      · cases known.symm.trans before
    | deliver j call' found' =>
      rcases getElem?_set_cases found with ⟨rfl, -⟩ | ⟨-, before⟩
      · cases known.symm.trans found'
      · cases known.symm.trans before

theorem Routed.chains_step (routed : p.Routed) (goes : p.Goes v act q notes) (k : Nat) (t : Task)
    (table : FlowTable) (task : q.tasks[k]? = some t) (brings : t.job.table? = some table) :
    ∃ r, q.Chain table r k := by
  have grows := goes.grows
  cases known : p.tasks[k]? with
  | some t' =>
    obtain ⟨t'', task', stays⟩ := grows.tasks k t' known
    obtain rfl : t'' = t := Option.some.inj (task'.symm.trans task)
    obtain ⟨r, chain⟩ := routed.chains k t' table known (stays.table ▸ brings)
    exact ⟨r, chain.grows grows⟩
  | none =>
    cases goes with
    | nothing | station | progress => cases known.symm.trans task
    | turn j choice u s found | drop j u found =>
      rcases getElem?_set_cases task with ⟨rfl, -⟩ | ⟨-, before⟩
      · cases known.symm.trans found
      · cases known.symm.trans before
    | request n s table' here =>
      rcases getElem?_append_cases task with before | ⟨-, last⟩
      · cases known.symm.trans before
      · obtain rfl := List.mem_singleton.mp last
        exact ⟨k, .asked _ ⟨task, rfl, brings⟩⟩
    | deliver c call found n s here located =>
      rcases getElem?_append_cases task with before | ⟨-, last⟩
      · cases known.symm.trans before
      · obtain rfl := List.mem_singleton.mp last
        have carries : call.table = some table := (Job.table?_new call.table).symm.trans brings
        obtain ⟨u, s', passes⟩ := routed.passes c call table found carries
        obtain ⟨r, chain⟩ := routed.chains call.caller u table passes.task passes.brings
        obtain ⟨u', s'', call', passes', called⟩ := passes.grows grows
        exact ⟨r, .hop call.caller c k u' _ s'' s call' (chain.grows grows) passes'
          ⟨passes'.found, passes'.carries, task, rfl, brings, here,
            located.trans called.location.symm⟩⟩

theorem Routed.step (routed : p.Routed) (goes : p.Goes v act q notes) : q.Routed :=
  ⟨routed.placed_step goes, routed.chains_step goes, routed.passes_step goes⟩

end Plant
end OpticalAccess
