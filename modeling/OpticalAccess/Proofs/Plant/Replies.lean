import OpticalAccess.Proofs.Plant.Chains

/-!
# Where replies come from

A call from a router to a child is served by a request at the child's own router, and if it does not
fail, it is answered what that request replied. So a router that asks for counters gets those that
the router of the child answered, and never anything else.
-/

namespace OpticalAccess.Plant

variable {v : Verbosity} {p q : Plant} {act : Act} {notes : List Note} {c k : Nat}
  {call call' : ChildCall} {t : Task} {s : Station} {progress : Progress}

/-- The request that serves a call, at a station where the call went. -/
structure Serves (p : Plant) (c : Nat) (call : ChildCall) (k : Nat) (t : Task) (s : Station) :
    Prop where
  task : p.tasks[k]? = some t
  origin : t.origin = some c
  brings : t.job.table? = call.table
  station : p.stations[t.station]? = some s
  located : s.device.location = call.location

theorem Serves.grows (serves : p.Serves c call k t s) (grows : p.Grows q)
    (called : call.Stays call') : ∃ t' s', q.Serves c call' k t' s' ∧ t.Stays t' := by
  obtain ⟨t', task, stays⟩ := grows.tasks k t serves.task
  obtain ⟨s', station, device⟩ := grows.stations _ s serves.station
  refine ⟨t', s', ⟨task, stays.origin.trans serves.origin, ?_, ?_, ?_⟩, stays⟩
  · rw [stays.table, serves.brings, called.table]
  · rw [stays.station, station]
  · rw [device.location, serves.located, called.location]

/-- How far a call is, as far as there is a request that has brought it there. -/
inductive Backed (p : Plant) (c : Nat) (call : ChildCall) : Progress → Prop
  | waiting : Backed p c call .waiting
  | made : Backed p c call .made
  | serving (k : Nat) (t : Task) (s : Station) (serves : p.Serves c call k t s) :
      Backed p c call (.serving k)
  | replied (k : Nat) (t : Task) (s : Station) (serves : p.Serves c call k t s) (reply : Reply)
      (replies : t.job.reply? = some reply) : Backed p c call (.answered (.ok reply))
  | failed (error : CallError) : Backed p c call (.answered (.error error))

theorem Backed.grows (backed : p.Backed c call progress) (grows : p.Grows q)
    (called : call.Stays call') : q.Backed c call' progress := by
  cases backed with
  | waiting => exact .waiting
  | made => exact .made
  | serving k t s serves =>
    obtain ⟨t', s', serves, _⟩ := serves.grows grows called
    exact .serving k t' s' serves
  | replied k t s serves reply replies =>
    obtain ⟨t', s', serves, stays⟩ := serves.grows grows called
    refine .replied k t' s' serves reply ?_
    rw [stays.replied reply replies, replies]
  | failed error => exact .failed error

/-- No call is further than a request has brought it. -/
def Replied (p : Plant) : Prop :=
  ∀ c call, p.calls[c]? = some call → p.Backed c call call.progress

theorem Replied.step (replied : p.Replied) (goes : p.Goes v act q notes) : q.Replied := by
  have grows := goes.grows
  intro c call found
  have still (known : p.calls[c]? = some call) : q.Backed c call call.progress :=
    (replied c call known).grows grows (.refl call)
  cases goes with
  | nothing | station | request | drop => exact still found
  | turn k choice t s task here turn turns =>
    rcases getElem?_append_cases found with known | ⟨-, fresh⟩
    · exact still known
    · obtain ⟨_, _, rfl⟩ := List.mem_map.mp fresh
      exact .waiting
  | progress b before known move progress becomes =>
    rcases getElem?_set_cases found with ⟨rfl, rfl⟩ | ⟨-, known⟩
    · cases becomes with
      | made => exact .made
      | failed error => exact .failed error
      | replied k t reply serving task replies =>
        -- The request that serves the call has been serving it since it reached the child.
        have backed := replied c before known
        rw [serving] at backed
        cases backed with
        | serving _ t' s serves =>
          obtain rfl := Option.some.inj (serves.task.symm.trans task)
          exact (Backed.replied k t' s serves reply replies).grows grows ⟨rfl, rfl, rfl⟩
    · exact still known
  | deliver b before known n s here located =>
    rcases getElem?_set_cases found with ⟨rfl, rfl⟩ | ⟨-, known⟩
    · exact .serving _ ⟨n, some c, .new before.table⟩ s
        ⟨by simp, rfl, by simp, here, located⟩
    · exact still known

theorem Replied.run (replied : p.Replied) (acts : List Act) :
    ((p.run acts).value v).1.Replied := by
  induction acts generalizing p with
  | nil => exact replied
  | cons act rest ih => exact ih (replied.step (p.step_goes act))

theorem ofNetwork_replied (w : Network) : (ofNetwork w).Replied := by
  intro c call found
  cases found

/-- A call that succeeds is answered what was replied where it went, and in kind. -/
theorem Replied.answered (replied : p.Replied) (found : p.calls[c]? = some call) {reply : Reply}
    (answered : call.progress = .answered (.ok reply)) :
    ∃ k t s, p.Serves c call k t s ∧ t.job.reply? = some reply ∧
      (call.table = none → ∃ metrics,
        t.job = .survey (.ended metrics) ∧ reply = .counters metrics) := by
  have backed := replied c call found
  rw [answered] at backed
  cases backed with
  | replied k t s serves _ replies =>
    exact ⟨k, t, s, serves, replies,
      fun bare => Job.reply?_of_table? replies (serves.brings.trans bare)⟩

end OpticalAccess.Plant
