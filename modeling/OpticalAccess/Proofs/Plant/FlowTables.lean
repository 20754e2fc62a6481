import OpticalAccess.Proofs.Plant.Chains
import OpticalAccess.Proofs.Plant.Setup

/-!
# Flow tables under concurrent requests

Requests with flow tables may work on the same devices at the same time. The lock of a flow table
makes a table the work of one request: it is written as a whole, and only by the request that has
the lock.
-/

namespace OpticalAccess.Plant

variable {v : Verbosity} {p q : Plant} {act : Act} {notes log : List Note}

/-! ### Locks -/

/-- The requests that took the lock of a station's flow table, in the order in which they did. -/
def lockers (n : Nat) (log : List Note) : List Nat :=
  log.filterMap fun
    | .locked m k => if m = n then some k else none
    | _ => none

@[simp] theorem lockers_append (n : Nat) (xs ys : List Note) :
    lockers n (xs ++ ys) = lockers n xs ++ lockers n ys := List.filterMap_append

theorem lockers_silent {n : Nat} (silent : ∀ k, .locked n k ∉ notes) : lockers n notes = [] := by
  refine List.filterMap_eq_nil_iff.mpr fun note member => ?_
  cases note with
  | locked m k =>
    have other : m ≠ n := fun same => silent k (same ▸ member)
    simp [other]
  | _ => rfl

/-- A turn takes no other lock than that of its own station. -/
theorem Turns.locked_here {s : Station} {place k fresh : Nat} {job : Job} {turn : Turn}
    (turns : Turns s place k fresh job turn) {n i : Nat} (taken : .locked n i ∈ turn.notes) :
    n = place := by
  cases turns with
  | locked table able free =>
    cases List.mem_singleton.mp taken
    rfl
  | surveyed stage next unfinished calls bare notes silent => exact absurd taken (silent n i)
  | _ => simp at taken

/-- A request that is about to write its table, as the one that has the lock. -/
def Writing (p : Plant) (n k : Nat) (table : FlowTable) : Prop :=
  ∃ origin, p.tasks[k]? = some ⟨n, origin, .update table .writing⟩

/-- A request that has written its table to the device of its own station. -/
def Installed (p : Plant) (n k : Nat) (table : FlowTable) : Prop :=
  ∃ s origin, p.stations[n]? = some s ∧
    p.tasks[k]? = some ⟨n, origin, .update table (.ended .applied)⟩ ∧
    Router.target s.device table.port = .device

theorem Installed.grows {n k : Nat} {table : FlowTable} (installed : p.Installed n k table)
    (grows : p.Grows q) : q.Installed n k table := by
  obtain ⟨s, origin, here, task, target⟩ := installed
  obtain ⟨s', here', device⟩ := grows.stations n s here
  obtain ⟨⟨n', origin', job⟩, task', stays⟩ := grows.tasks k _ task
  obtain rfl : n' = n := stays.station
  obtain rfl : job = _ := stays.replied .taken rfl
  exact ⟨s', origin', here', task', by rw [device.target, target]⟩

theorem writing_set {k : Nat} {t : Task} (task : p.tasks[k]? = some t) {job : Job}
    (changed : q.tasks = p.tasks.set k { t with job }) {n i : Nat} {table : FlowTable} :
    q.Writing n i table ↔
      if i = k then t.station = n ∧ job = .update table .writing else p.Writing n i table := by
  obtain ⟨inside, -⟩ := List.getElem?_eq_some_iff.mp task
  unfold Writing
  rw [changed]
  split
  · rename_i hit
    subst hit
    simp only [List.getElem?_set_self inside, Option.some.injEq, Task.mk.injEq]
    exact ⟨fun ⟨_, station, _, same⟩ => ⟨station, same⟩,
      fun ⟨station, same⟩ => ⟨t.origin, station, rfl, same⟩⟩
  · rename_i other
    rw [List.getElem?_set_ne (Ne.symm other)]

theorem writing_here {k : Nat} {t : Task} (task : p.tasks[k]? = some t) {n : Nat}
    {table : FlowTable} :
    p.Writing n k table ↔ t.station = n ∧ t.job = .update table .writing := by
  constructor
  · rintro ⟨origin, found⟩
    obtain rfl := Option.some.inj (task.symm.trans found)
    exact ⟨rfl, rfl⟩
  · rintro ⟨rfl, writes⟩
    exact ⟨t.origin, by rw [task, ← writes]⟩

/-- A request that has just come in does not write. -/
theorem writing_append {t : Task} (grown : q.tasks = p.tasks ++ [t])
    (idle : ∀ table, t.job ≠ .update table .writing) {n i : Nat} {table : FlowTable} :
    q.Writing n i table ↔ p.Writing n i table := by
  unfold Writing
  rw [grown]
  refine exists_congr fun origin => ⟨fun found => ?_, fun found => ?_⟩
  · rcases getElem?_append_cases found with before | ⟨-, last⟩
    · exact before
    · obtain rfl := List.mem_singleton.mp last
      exact absurd rfl (idle table)
  · obtain ⟨inside, -⟩ := List.getElem?_eq_some_iff.mp found
    rw [List.getElem?_append_left inside, found]

/-! ### What a station's table is -/

/-- By the last request that took the lock: it has yet to write, or the table is its. -/
def LastWritten (first : List FlowRule) (p : Plant) (n : Nat) (s : Station) : Option Nat → Prop
  | none => s.writer = none ∧ s.device.flows = first
  | some k => s.writer = some k ∨
      s.writer = none ∧ ∃ table, p.Installed n k table ∧ s.device.flows = table.flows

/-- What is known of the flow table of a station and of its lock. -/
structure Kept (first : List FlowRule) (log : List Note) (p : Plant) (n : Nat) (s : Station) :
    Prop where
  writer : ∀ k, s.writer = some k ↔ ∃ table, p.Writing n k table
  able : s.writer ≠ none → s.device.installFault = none
  flows : s.device.flows = first ∨
    ∃ k table, p.Installed n k table ∧ s.device.flows = table.flows
  last : LastWritten first p n s (lockers n log).getLast?

variable {first : List FlowRule} {n : Nat} {s s' : Station}

/-- What leaves a table and its lock alone changes nothing of it. -/
theorem Kept.frame (kept : Kept first log p n s) (keeps : s.Keeps s')
    (writing : ∀ k table, q.Writing n k table ↔ p.Writing n k table) (grows : p.Grows q)
    (silent : lockers n notes = []) : Kept first (log ++ notes) q n s' := by
  obtain ⟨writer, able, flows, last⟩ := kept
  refine ⟨fun k => ?_, ?_, ?_, ?_⟩
  · rw [keeps.writer, writer]
    exact exists_congr fun table => (writing k table).symm
  · rw [keeps.writer, keeps.device.installFault]
    exact able
  · rw [keeps.device.flows]
    exact flows.imp_right fun ⟨k, table, installed, same⟩ => ⟨k, table, installed.grows grows, same⟩
  · rw [lockers_append, silent, List.append_nil]
    cases latest : (lockers n log).getLast? with
    | none =>
      rw [latest] at last
      exact ⟨keeps.writer.trans last.1, keeps.device.flows.trans last.2⟩
    | some k =>
      rw [latest] at last
      refine last.imp keeps.writer.trans fun ⟨free, table, installed, same⟩ => ?_
      exact ⟨keeps.writer.trans free, table, installed.grows grows, keeps.device.flows.trans same⟩

/-- A request takes the lock. -/
theorem Kept.lock (kept : Kept first log p n s) (able : s.device.installFault = none) {k : Nat}
    (table : FlowTable) (only : ∀ i table', q.Writing n i table' ↔ i = k ∧ table' = table)
    (grows : p.Grows q) :
    Kept first (log ++ [.locked n k]) q n { s with writer := some k } := by
  refine ⟨fun i => ⟨fun same => ?_, fun ⟨table', writes⟩ => ?_⟩, fun _ => able, ?_, ?_⟩
  · exact ⟨table, (only i table).mpr ⟨(Option.some.inj same).symm, rfl⟩⟩
  · exact congrArg some ((only i table').mp writes).1.symm
  · exact kept.flows.imp_right fun ⟨j, other, installed, same⟩ =>
      ⟨j, other, installed.grows grows, same⟩
  · have latest : (lockers n (log ++ [.locked n k])).getLast? = some k := by simp [lockers]
    rw [latest]
    exact .inl rfl

/-- The request that has the lock writes its table. -/
theorem Kept.write (kept : Kept first log p n s) {k : Nat} {table : FlowTable}
    (held : p.Writing n k table) (installed : q.Installed n k table)
    (nobody : ∀ i table', ¬ q.Writing n i table') (silent : lockers n notes = []) :
    Kept first (log ++ notes) q n
      { s with device := s.device.setFlows table.flows, writer := none } := by
  obtain ⟨writer, able, -, last⟩ := kept
  have mine : s.writer = some k := (writer k).mpr ⟨table, held⟩
  have written : (s.device.setFlows table.flows).flows = table.flows := s.device.flows_setFlows _
  refine ⟨fun i => ⟨nofun, fun ⟨table', writes⟩ => absurd writes (nobody i table')⟩,
    fun taken => absurd rfl taken, .inr ⟨k, table, installed, written⟩, ?_⟩
  rw [lockers_append, silent, List.append_nil]
  cases latest : (lockers n log).getLast? with
  | none =>
    rw [latest] at last
    cases mine.symm.trans last.1
  | some j =>
    rw [latest] at last
    obtain holder | ⟨free, -⟩ := last
    · obtain rfl : k = j := Option.some.inj (mine.symm.trans holder)
      exact .inr ⟨rfl, table, installed, written⟩
    · cases mine.symm.trans free

/-! ### One step -/

/-- A turn of a request of the station itself. -/
theorem Kept.turn {k : Nat} {t : Task} {turn : Turn} (routed : p.Routed)
    (kept : Kept first log p t.station s) (task : p.tasks[k]? = some t)
    (here : p.stations[t.station]? = some s)
    (turns : Turns s t.station k p.calls.length t.job turn) (grows : p.Grows (p.settle k t turn)) :
    Kept first (log ++ turn.notes) (p.settle k t turn) t.station turn.station := by
  have writing {i : Nat} {table : FlowTable} : (p.settle k t turn).Writing t.station i table ↔
      if i = k then t.station = t.station ∧ turn.job = .update table .writing
      else p.Writing t.station i table := writing_set task rfl
  have before {table : FlowTable} : p.Writing t.station k table ↔
      t.station = t.station ∧ t.job = .update table .writing := writing_here task
  obtain ⟨n, origin, job⟩ := t
  -- the lock stays with the others as long as the request does not begin or end to write
  have idle (s' : Station) (keeps : s.Keeps s')
      (same : ∀ table, turn.job = .update table .writing ↔ job = .update table .writing)
      (silent : lockers n turn.notes = []) :
      Kept first (log ++ turn.notes) (p.settle k ⟨n, origin, job⟩ turn) n s' := by
    refine kept.frame keeps (fun i table => ?_) grows silent
    rw [writing]
    split
    · rename_i hit
      rw [hit, before, same]
    · rfl
  cases turns with
  | own | passed | unknown | refused | answered =>
    exact idle s (.refl s) (fun table => ⟨nofun, nofun⟩) rfl
  | rest job => exact idle s (.refl s) (fun table => .rfl) rfl
  | surveyed stage next unfinished calls bare notes silent =>
    exact idle s (.refl s) (fun table => ⟨nofun, nofun⟩) (lockers_silent (silent n))
  | failed table fault broken =>
    have mine : s.writer = some k := (kept.writer k).mpr ⟨table, before.mpr ⟨rfl, rfl⟩⟩
    cases broken.symm.trans (kept.able (by rw [mine]; nofun))
  | locked table able free =>
    refine kept.lock able table (fun i table' => ?_) grows
    rw [writing]
    split
    · rename_i hit
      exact ⟨fun ⟨_, same⟩ => ⟨hit, by cases same; rfl⟩, fun ⟨_, same⟩ => ⟨rfl, by rw [same]⟩⟩
    · rename_i other
      refine ⟨fun writes => ?_, fun ⟨hit, _⟩ => absurd hit other⟩
      cases free.symm.trans ((kept.writer i).mpr ⟨table', writes⟩)
  | wrote table able =>
    have held : p.Writing n k table := before.mpr ⟨rfl, rfl⟩
    have mine : s.writer = some k := (kept.writer k).mpr ⟨table, held⟩
    have target : Router.target s.device table.port = .device := by
      obtain ⟨s', at', fits⟩ := routed.placed k _ task
      obtain rfl : s = s' := Option.some.inj (here.symm.trans at')
      exact (fits table .writing rfl).device_of_writing
    refine kept.write held ?_ (fun i table' writes => ?_) rfl
    · obtain ⟨s', here', device⟩ := grows.stations n s here
      obtain ⟨inside, -⟩ := List.getElem?_eq_some_iff.mp task
      exact ⟨s', origin, here', List.getElem?_set_self inside, by rw [device.target, target]⟩
    · rw [writing] at writes
      split at writes
      · cases writes.2
      · rename_i other
        have theirs : s.writer = some i := (kept.writer i).mpr ⟨table', writes⟩
        exact other (Option.some.inj (theirs.symm.trans mine))

/-- A step of anybody keeps what is known of every station. -/
theorem Kept.step {first : Nat → List FlowRule} (routed : p.Routed)
    (kept : ∀ (n : Nat) (s : Station), p.stations[n]? = some s → Kept (first n) log p n s)
    (goes : p.Goes v act q notes) (n : Nat) (s : Station) (found : q.stations[n]? = some s) :
    Kept (first n) (log ++ notes) q n s := by
  have grows := goes.grows
  cases goes with
  | nothing => exact (kept n s found).frame (.refl s) (fun _ _ => .rfl) grows rfl
  | station m s' act here =>
    have silent : lockers n (((s'.step act).value v).2.map (.station m)) = [] :=
      lockers_silent fun k member => by
        obtain ⟨_, _, same⟩ := List.mem_map.mp member
        cases same
    rcases getElem?_set_cases found with ⟨rfl, rfl⟩ | ⟨-, before⟩
    · exact (kept n s' here).frame (s'.step_keeps act) (fun _ _ => .rfl) grows silent
    · exact (kept n s before).frame (.refl s) (fun _ _ => .rfl) grows silent
  | request m s' table here =>
    have idle (table' : FlowTable) : Job.new table ≠ .update table' .writing := by
      cases table <;> nofun
    exact (kept n s found).frame (.refl s) (fun _ _ => writing_append rfl idle) grows rfl
  | turn k choice t s' task here turn turns =>
    rcases getElem?_set_cases found with ⟨rfl, rfl⟩ | ⟨other, before⟩
    · exact (kept t.station s' here).turn routed task here turns grows
    · refine (kept n s before).frame (.refl s) (fun i table => ?_) grows ?_
      · rw [writing_set task rfl]
        split
        · rename_i hit
          rw [hit, writing_here task]
          exact ⟨fun ⟨same, _⟩ => absurd same.symm other, fun ⟨same, _⟩ => absurd same.symm other⟩
        · rfl
      · exact lockers_silent fun i member => other (turns.locked_here member)
  | drop k t task =>
    refine (kept n s found).frame (.refl s) (fun i table => ?_) grows rfl
    rw [writing_set task rfl, t.job.drop_writing]
    split
    · rename_i hit
      rw [hit, writing_here task]
    · rfl
  | progress c call callFound move progress becomes notes silent apart =>
    exact (kept n s found).frame (.refl s) (fun _ _ => .rfl) grows (lockers_silent (silent n))
  | deliver c call callFound m s' here located =>
    have idle (table' : FlowTable) : Job.new call.table ≠ .update table' .writing := by
      cases call.table <;> nofun
    exact (kept n s found).frame (.refl s) (fun _ _ => writing_append rfl idle) grows rfl

/-! ### Runs -/

theorem ofNetwork_kept (w : Network) (n : Nat) (s : Station)
    (here : (ofNetwork w).stations[n]? = some s) : Kept s.device.flows [] (ofNetwork w) n s := by
  obtain ⟨node, -, rfl⟩ : ∃ node ∈ w.nodes, _ = s := List.mem_map.mp (List.mem_of_getElem? here)
  refine ⟨fun k => ⟨nofun, fun ⟨_, _, task⟩ => ?_⟩, nofun, .inl rfl, ⟨rfl, rfl⟩⟩
  cases task

theorem run_kept {first : Nat → List FlowRule} (acts : List Act) {p : Plant} {log : List Note}
    (routed : p.Routed)
    (kept : ∀ (n : Nat) (s : Station), p.stations[n]? = some s → Kept (first n) log p n s) :
    ((p.run acts).value v).1.Routed ∧
      ∀ (n : Nat) (s : Station), ((p.run acts).value v).1.stations[n]? = some s →
        Kept (first n) (log ++ ((p.run acts).value v).2) ((p.run acts).value v).1 n s := by
  induction acts generalizing p log with
  | nil => exact ⟨routed, fun n s here => by simpa [run] using kept n s here⟩
  | cons act rest ih =>
    have goes := step_goes (v := v) p act
    obtain ⟨routed, kept⟩ := ih (routed.step goes) (Kept.step routed kept goes)
    exact ⟨routed, fun n s here => by simpa [run] using kept n s here⟩

/-- Only a request that is about to write changes a flow table, and then to its own. -/
theorem step_flows (p : Plant) (act : Act) {n : Nat} {s s' : Station}
    (before : p.stations[n]? = some s)
    (after : ((p.step act).value v).1.stations[n]? = some s') :
    s'.device.flows = s.device.flows ∨
      ∃ k choice table, act = .task k choice ∧ p.Writing n k table ∧
        s'.device.flows = table.flows := by
  have goes := step_goes (v := v) p act
  generalize ((p.step act).value v).1 = q at goes after
  generalize ((p.step act).value v).2 = notes at goes
  cases goes with
  | nothing | request | drop | progress | deliver =>
    obtain rfl : s = s' := Option.some.inj (before.symm.trans after)
    exact .inl rfl
  | station m u act here =>
    rcases getElem?_set_cases after with ⟨rfl, rfl⟩ | ⟨-, same⟩
    · obtain rfl : s = u := Option.some.inj (before.symm.trans here)
      exact .inl (s.step_keeps act).device.flows
    · obtain rfl : s = s' := Option.some.inj (before.symm.trans same)
      exact .inl rfl
  | turn k choice t u task here turn turns =>
    rcases getElem?_set_cases after with ⟨rfl, rfl⟩ | ⟨-, same⟩
    · obtain rfl : s = u := Option.some.inj (before.symm.trans here)
      obtain ⟨n, origin, job⟩ := t
      cases turns with
      | wrote table able =>
        exact .inr ⟨k, choice, table, rfl, ⟨origin, task⟩, s.device.flows_setFlows _⟩
      | _ => exact .inl rfl
    · obtain rfl : s = s' := Option.some.inj (before.symm.trans same)
      exact .inl rfl

/--
Flow tables are neither torn nor mixed. Let requests with flow tables, made anywhere in a new
network, interleave in any way with one another and with all other work. At any moment the table of
a station is empty, or it is all of the table of one request, at the end of a chain of requests that
carried it there. When all requests are over, it is the table of the one that took the lock last.
And nothing changes it but the write of a request that has the lock.
-/
theorem flow_tables_stay_whole {w : Network} (new : w.New) (acts : List Act) (v : Verbosity)
    {p : Plant} {log : List Note} (run : ((ofNetwork w).run acts).value v = (p, log)) {n : Nat}
    {s : Station} (here : p.stations[n]? = some s) :
    (s.device.flows = [] ∨
      ∃ r k table, p.Chain table r k ∧ p.Installed n k table ∧ s.device.flows = table.flows) ∧
    ((∀ t ∈ p.tasks, t.job.isOver) →
      ((lockers n log).getLast? = none → s.device.flows = []) ∧
      ∀ k, (lockers n log).getLast? = some k →
        ∃ table, p.Installed n k table ∧ s.device.flows = table.flows) ∧
    ∀ act s', ((p.step act).value v).1.stations[n]? = some s' →
      s'.device.flows = s.device.flows ∨
        ∃ k choice table, act = .task k choice ∧ p.Writing n k table ∧
          s'.device.flows = table.flows := by
  have empty (n : Nat) (s : Station) (here : (ofNetwork w).stations[n]? = some s) :
      Kept [] [] (ofNetwork w) n s := by
    have kept := ofNetwork_kept w n s here
    obtain ⟨node, member, rfl⟩ : ∃ node ∈ w.nodes, _ = s :=
      List.mem_map.mp (List.mem_of_getElem? here)
    rwa [show node.device.flows = [] from (new node member).device.flows] at kept
  obtain ⟨routed, kept⟩ := run_kept (v := v) acts (ofNetwork_routed w) empty
  rw [run] at routed kept
  obtain ⟨writer, -, flows, last⟩ := kept n s here
  rw [List.nil_append] at last
  have whole : s.device.flows = [] ∨
      ∃ r k table, p.Chain table r k ∧ p.Installed n k table ∧ s.device.flows = table.flows := by
    obtain blank | ⟨k, table, installed, same⟩ := flows
    · exact .inl blank
    · have ⟨_, _, _, task, _⟩ := installed
      obtain ⟨r, chain⟩ := routed.chains k _ table task rfl
      exact .inr ⟨r, k, table, chain, installed, same⟩
  refine ⟨whole, fun ended => ?_, fun act s' after => step_flows p act here after⟩
  have free (k : Nat) : s.writer ≠ some k := by
    intro taken
    obtain ⟨table, origin, task⟩ := (writer k).mp taken
    cases ended _ (List.mem_of_getElem? task)
  constructor
  · intro nobody
    rw [nobody] at last
    exact last.2
  · intro k latest
    rw [latest] at last
    exact last.elim (fun taken => absurd taken (free k)) And.right

/-- Two controllers send a table each; the second is the first to take the lock. -/
def race : List Act :=
  [.request 0 (some ⟨0, [⟨1, 0, 0, 0, [], []⟩]⟩),
    .request 0 (some ⟨0, [⟨2, 0, 0, 0, [], []⟩, ⟨3, 0, 0, 0, [], []⟩]⟩),
    .task 0 0, .task 1 0, .task 1 0, .task 0 0, .task 1 0, .task 0 0, .task 0 0]

theorem flow_tables_stay_whole_race :
    Network.lone.New ∧
      ∃ p log s, ((ofNetwork .lone).run race).value .off = (p, log) ∧ p.stations[0]? = some s ∧
        (∀ t ∈ p.tasks, t.job.isOver) ∧ (lockers 0 log).getLast? = some 0 ∧
        ∃ table, p.Installed 0 0 table ∧ s.device.flows = table.flows := by
  let after := ((ofNetwork .lone).run race).value .off
  obtain ⟨s, here⟩ : ∃ s, after.1.stations[0]? = some s := ⟨_, rfl⟩
  have ended : ∀ t ∈ after.1.tasks, t.job.isOver := List.all_eq_true.mp (by decide)
  have latest : (lockers 0 after.2).getLast? = some 0 := by decide
  obtain ⟨-, last, -⟩ := flow_tables_stay_whole Network.lone_new race .off rfl here
  exact ⟨Network.lone_new, after.1, after.2, s, rfl, here, ended, latest, (last ended).2 0 latest⟩

end OpticalAccess.Plant
