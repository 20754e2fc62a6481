import OpticalAccess.Proofs.Plant.Chains
import OpticalAccess.Proofs.Submission.Accounts
import Mathlib.Logic.Function.Basic

/-!
# A network with and without the frames of its controllers

Leave out of a run whatever is about frames of controllers: that they are sent, and the turns of
their tasks. What is left does the same and logs the same, and the network comes to the same, but
for the frames that the devices have counted, where counters are shown too.
-/

namespace OpticalAccess

variable {v : Verbosity}

/-- All contents are left as they are. -/
def Recoding.same : Recoding where
  payload := Eq
  flows := Eq
  length_payload same := same ▸ rfl
  length_flows same := same ▸ rfl

theorem Recoding.same_discreet : same.Discreet := ⟨fun same => same ▸ rfl, fun same => same ▸ rfl⟩

/-! ### Counters that are shown -/

/-- A report with the same counters, all of which are at zero. -/
def Metrics.uncounted (m : Metrics) : Metrics :=
  { m with
    ports := m.ports.map fun port =>
      { port with packets := port.packets.map fun packet => { packet with value := 0 } } }

/-- Reports that differ in what has been counted, and in nothing else. -/
def Metrics.Alike (m m' : Metrics) : Prop := m'.uncounted = m.uncounted

/-- Whatever has been counted, a device reports the same counters. -/
theorem Counters.metrics_alike (c c' : Counters) (device : String) :
    (c.metrics device).Alike (c'.metrics device) := rfl

/-- An event as it were if nothing had been counted. -/
def Event.uncounted : Event → Event
  | .childStatsReceived device child m => .childStatsReceived device child m.uncounted
  | .statsDone device m => .statsDone device m.uncounted
  | event => event

/-- A reply as it were if nothing had been counted. -/
def Reply.uncounted : Reply → Reply
  | .counters m => .counters m.uncounted
  | .taken => .taken

theorem Event.Recoded.uncounted {e e' : Event} (same : e.Recoded Metrics.Alike e') :
    e'.uncounted = e.uncounted := by
  cases same with
  | same e => rfl
  | childStats device child shown => exact congrArg (childStatsReceived device child) shown
  | stats device shown => exact congrArg (statsDone device) shown

/-! ### What frames add to the counters -/

/-- The frames of the controller that a device has counted. -/
def Role.load (role : Role) (us : List (Frame × Delivery)) (side : Side) (direction : Direction)
    (bin : SizeBin) : Nat :=
  if role.counts side direction then
    us.countP fun e => e.2.counted ∧ SizeBin.ofLength e.1.length = bin
  else 0

namespace Role
variable {us : List (Frame × Delivery)} {frame : Frame} {delivery next : Delivery} {i : Nat}
  {side : Side} {direction : Direction} {bin : SizeBin}

theorem load_append (role : Role) (uncounted : delivery.counted = false) :
    role.load (us ++ [(frame, delivery)]) side direction bin = role.load us side direction bin := by
  simp [load, uncounted]

theorem load_set (role : Role) (found : us[i]? = some (frame, delivery))
    (same : next.counted = delivery.counted) :
    role.load (us.set i (frame, next)) side direction bin = role.load us side direction bin := by
  have count := countP_set_of_getElem? (y := (frame, next))
    (fun e : Frame × Delivery => e.2.counted ∧ SizeBin.ofLength e.1.length = bin) found
  simp only [same, Nat.add_right_cancel_iff] at count
  simp only [load, count]

theorem load_set_sent (role : Role) (found : us[i]? = some (frame, delivery))
    (before : delivery.counted = false) (after : next.counted = true) :
    role.load (us.set i (frame, next)) side direction bin =
      role.load us side direction bin +
        if role.counts side direction ∧ SizeBin.ofLength frame.length = bin then 1 else 0 := by
  have count := countP_set_of_getElem? (y := (frame, next))
    (fun e : Frame × Delivery => e.2.counted ∧ SizeBin.ofLength e.1.length = bin) found
  cases counts : role.counts side direction <;> simp_all [load]

end Role

/-- Whatever two counters have in common may be counted on both. -/
theorem Counters.exceeds_count {c c' : Counters} (more : Side → Direction → SizeBin → Nat)
    (exceeds : ∀ side direction bin, c.get side direction bin =
      c'.get side direction bin + more side direction bin)
    (side : Side) (direction : Direction) (length : Nat) (other : Side) (direction' : Direction)
    (bin : SizeBin) : (c.count side direction length).get other direction' bin =
      (c'.count side direction length).get other direction' bin + more other direction' bin := by
  simp only [count, get_countMany, exceeds other direction' bin]
  omega

/-- The books of a station with frames of its controller, against those of one without. -/
def Books.load (role : Role) (us : List (Frame × Delivery)) : Books Metrics.Alike where
  counters c c' := ∀ side direction bin,
    c.get side direction bin = c'.get side direction bin + role.load us side direction bin
  count side direction length _ _ loaded :=
    Counters.exceeds_count (role.load us) loaded side direction length
  shown device c c' _ := c.metrics_alike c' device
  unshown := rfl
  submissions us' ws := us' = us ∧ ws = []

namespace Device.Recoded
variable {φ : Recoding} {μ : Metrics → Metrics → Prop} {κ κ' : Books μ} {d d' : Device}

theorem mono (same : d.Recoded φ κ d')
    (weaker : ∀ c c', κ.counters c c' → κ'.counters c c') : d.Recoded φ κ' d' := by
  obtain ⟨⟨⟨location, registry, flows, counters, queue⟩⟩ | ⟨⟨location, flows, counters⟩⟩,
    _, _, _⟩ := same
  · exact .device (.terminal (.terminal location registry flows (weaker _ _ counters) queue)) _ _ _
  · exact .device (.subscriber (.subscriber location flows (weaker _ _ counters))) _ _ _

theorem sent (same : d.Recoded φ κ d') (length : Nat)
    (more : ∀ c c', κ.counters c c' → κ'.counters (c.sent d.role length) c') :
    (d.sent length).Recoded φ κ' d' := by
  obtain ⟨⟨⟨location, registry, flows, counters, queue⟩⟩ | ⟨⟨location, flows, counters⟩⟩,
    _, _, _⟩ := same
  · exact .device (.terminal (.terminal location registry flows (more _ _ counters) queue)) _ _ _
  · exact .device (.subscriber (.subscriber location flows (more _ _ counters))) _ _ _

end Device.Recoded

/-- A step of the task of a frame is seen on the counters only. -/
theorem Router.Delivers.recoded {us : List (Frame × Delivery)} {frame : Frame}
    {delivery next : Delivery} {d after u : Device} {events : List Event} {i : Nat}
    (delivers : Delivers d frame delivery next after events)
    (found : us[i]? = some (frame, delivery))
    (same : d.Recoded .same (.load d.role us) u) :
    after.Recoded .same (.load d.role (us.set i (frame, next))) u := by
  have still (counted : next.counted = delivery.counted) :
      d.Recoded .same (.load d.role (us.set i (frame, next))) u :=
    same.mono fun c c' loaded side direction bin => by
      rw [loaded, d.role.load_set found counted]
  cases delivers with
  | sent =>
    refine same.sent frame.length fun c c' loaded side direction bin => ?_
    rw [Counters.get_sent, loaded, d.role.load_set_sent found rfl rfl, Nat.add_assoc]
  | told result => exact still (by cases result <;> rfl)
  | called | refused | rest => exact still rfl

/-! ### Acts and notes that are the same -/

theorem Station.Act.recoded_same (act : Act) : act.Recoded .same act := by
  cases act with
  | submit payload => exact .submit rfl
  | deliver index => exact .deliver index
  | arrive port payload => exact .arrive port rfl
  | forward index => exact .forward index
  | closeIngress => exact .closeIngress
  | outage fault => exact .outage fault
  | info => exact .info
  | openStream => exact .openStream
  | startRelay index => exact .startRelay index
  | session index move => exact .session index move

theorem Session.Note.Recoded.eq {n n' : Note} (same : n.Recoded .same n') : n' = n := by
  cases same with
  | pulled payload | lost payload => exact congrArg _ payload.symm
  | received item | handed item =>
    cases item with
    | frame id payload => cases payload; rfl
    | status s => rfl
  | ended => rfl

theorem Station.Note.Recoded.eq {n n' : Note} (same : n.Recoded .same n') : n' = n := by
  cases same with
  | called index port payload => exact congrArg _ payload.symm
  | session index note => exact congrArg _ note.eq
  | _ => rfl

namespace Plant

theorem Act.recoded_same (act : Act) : act.Recoded .same act := by
  cases act with
  | station n act => exact .station n act.recoded_same
  | request n table =>
    cases table with
    | none => exact .request n .none
    | some table => exact .request n (.some (.table table.port rfl))
  | task k choice => exact .task k choice
  | drop k => exact .drop k
  | call k move => exact .call k move

/-- A note as it were if nothing had been counted. -/
def Note.uncounted : Note → Note
  | .answered call result => .answered call (result.map Reply.uncounted)
  | .metrics task m => .metrics task m.uncounted
  | note => note

theorem Answered.uncounted {x y : Except CallError Reply} (same : Answered Metrics.Alike x y) :
    y.map Reply.uncounted = x.map Reply.uncounted := by
  cases same with
  | ok reply =>
    cases reply with
    | taken => rfl
    | counters shown => exact congrArg (fun m => Except.ok (Reply.counters m)) shown
  | error error => rfl

theorem Note.Recoded.uncounted {n n' : Note} (same : n.Recoded .same Metrics.Alike n') :
    n'.uncounted = n.uncounted := by
  cases same with
  | station n note => exact congrArg (Note.station n) note.eq
  | called task location table =>
    cases table with
    | none => rfl
    | some table => cases table with | table port flows => cases flows; rfl
  | answered call result => exact congrArg (Note.answered call) (Answered.uncounted result)
  | metrics task shown => exact congrArg (Note.metrics task) shown
  | _ => rfl

/-! ### Two runs -/

/-- The first network is the second, with frames of controllers besides. -/
structure Loaded (roles : Nat → Role) (us : Nat → List (Frame × Delivery)) (p q : Plant) :
    Prop where
  role : ∀ (n : Nat) (s : Station), p.stations[n]? = some s → s.device.role = roles n
  follows : ∀ (n : Nat), ∀ e ∈ us n, e.2.Follows e.1
  same : p.Recoded .same (fun n => .load (roles n) (us n)) q

namespace Loaded
variable {roles : Nat → Role} {us : Nat → List (Frame × Delivery)} {p q : Plant} {n : Nat}
  {s : Station} {act : Act}

theorem role_step (loaded : Loaded roles us p q) (act : Act) (n : Nat) (s : Station)
    (here : ((p.step act).value v).1.stations[n]? = some s) : s.device.role = roles n := by
  have goes := p.step_goes (v := v) act
  obtain ⟨inside, -⟩ := List.getElem?_eq_some_iff.mp here
  have before := List.getElem?_eq_getElem (goes.length ▸ inside)
  obtain ⟨_, after, stays⟩ := goes.grows.stations n _ before
  obtain rfl := Option.some.inj (after.symm.trans here)
  exact stays.role.trans (loaded.role n _ before)

/-- The books of a station that is there. -/
theorem station (loaded : Loaded roles us p q) (here : p.stations[n]? = some s) :
    ∃ u, q.stations[n]? = some u ∧ s.Recoded .same (.load (roles n) (us n)) u := by
  have entry := loaded.same.station? n
  rw [here] at entry
  generalize q.stations[n]? = y at entry ⊢
  cases entry with
  | some station => exact ⟨_, rfl, station⟩

/-- Whatever else is done is done in both. -/
theorem step_plain (loaded : Loaded roles us p q) (plain : act.isFrame = false) :
    Loaded roles us ((p.step act).value v).1 ((q.step act).value v).1 ∧
      ((q.step act).value v).2.map Note.uncounted = ((p.step act).value v).2.map Note.uncounted ∧
      ((q.step act).events v).map Event.uncounted =
        ((p.step act).events v).map Event.uncounted := by
  obtain ⟨⟨same, notes⟩, events⟩ :=
    step_alike (v := v) (.inr Recoding.same_discreet) loaded.same act.recoded_same (.inl plain)
  exact ⟨⟨loaded.role_step act, loaded.follows, same⟩, map_rel notes Note.Recoded.uncounted,
    map_rel events Event.Recoded.uncounted⟩

/-- One station of the first network has gone on alone. -/
theorem set {s' u : Station} {es : List (Frame × Delivery)} (loaded : Loaded roles us p q)
    (here : p.stations[n]? = some s) (there : q.stations[n]? = some u)
    (role : s'.device.role = s.device.role) (follows : ∀ e ∈ es, e.2.Follows e.1)
    (entry : s'.Recoded .same (.load (roles n) es) u) :
    Loaded roles (Function.update us n es) { p with stations := p.stations.set n s' } q := by
  refine ⟨fun m x found => ?_, fun m => ?_, ?_⟩
  · rcases getElem?_set_cases found with ⟨rfl, rfl⟩ | ⟨-, before⟩
    · exact role.trans (loaded.role _ s here)
    · exact loaded.role m x before
  · by_cases hit : m = n
    · subst hit
      rwa [Function.update_self]
    · rw [Function.update_of_ne hit]
      exact loaded.follows m
  · obtain ⟨stations, links, tasks, calls⟩ := loaded.same
    obtain ⟨inside, -⟩ := List.getElem?_eq_some_iff.mp here
    refine .plant (fun m => ?_) links tasks calls
    by_cases hit : n = m
    · subst hit
      rw [List.getElem?_set_self inside, there, Function.update_self]
      exact .some entry
    · rw [List.getElem?_set_ne hit, Function.update_of_ne (Ne.symm hit)]
      exact stations m

theorem submit (loaded : Loaded roles us p q) (n : Nat) (payload : Bytes) :
    ∃ us', Loaded roles us' ((p.step (.station n (.submit payload))).value v).1 q := by
  cases here : p.stations[n]? with
  | none => exact ⟨us, by simpa [step, here] using loaded⟩
  | some s =>
    obtain ⟨u, there, station⟩ := loaded.station here
    simp only [step, here, Traced.value_bind, Traced.value_pure, Station.step]
    have follows : ∀ e ∈ us n ++ [(⟨payload⟩, .waiting)], e.2.Follows e.1 :=
      List.forall_mem_append.mpr ⟨loaded.follows n, List.forall_mem_singleton.mpr .waiting⟩
    refine ⟨_, loaded.set here there rfl follows ?_⟩
    obtain ⟨device, settings, sessions, opened, arrivals, submissions, writer, unstarted⟩ := station
    obtain ⟨rfl, none⟩ := submissions
    have more : (Books.load (roles n) (us n ++ [(⟨payload⟩, .waiting)])).submissions
        (us n ++ [(⟨payload⟩, .waiting)]) _ := ⟨rfl, none⟩
    refine .station (device.mono fun c c' same side direction bin => ?_) settings sessions opened
      arrivals more writer unstarted
    rw [same, (roles n).load_append rfl]

theorem deliver (loaded : Loaded roles us p q) (n index : Nat) :
    ∃ us', Loaded roles us' ((p.step (.station n (.deliver index))).value v).1 q := by
  cases here : p.stations[n]? with
  | none => exact ⟨us, by simpa [step, here] using loaded⟩
  | some s =>
    obtain ⟨u, there, station⟩ := loaded.station here
    have submissions : s.submissions = us n := by
      obtain ⟨_, _, _, _, _, submissions, _, _⟩ := station
      exact submissions.1
    have follows := loaded.follows n
    rw [← submissions] at follows
    have goes := s.step_goes (v := v) follows (.deliver index)
    simp only [step, here, Traced.value_bind, Traced.value_pure]
    generalize ((s.step (.deliver index)).value v).1 = after at goes ⊢
    generalize ((s.step (.deliver index)).value v).2 = notes at goes
    generalize (s.step (.deliver index)).events v = events at goes
    cases goes with
    | missing index missing => exact ⟨us, by simpa only [set_of_getElem? here] using loaded⟩
    | rest act plain => cases plain
    | delivered index frame delivery next found device' events delivers =>
      have after : ∀ e ∈ s.submissions.set index (frame, next), e.2.Follows e.1 :=
        forall_mem_set follows delivers.follows
      refine ⟨_, loaded.set here there delivers.stays.role after ?_⟩
      rw [← loaded.role n s here, ← submissions] at station
      rw [← loaded.role n s here]
      obtain ⟨device, settings, sessions, opened, arrivals, ⟨-, none⟩, writer, unstarted⟩ := station
      exact .station (delivers.recoded found device) settings sessions opened arrivals ⟨rfl, none⟩
        writer unstarted

theorem step_frame (loaded : Loaded roles us p q) (frame : act.isFrame = true) :
    ∃ us', Loaded roles us' ((p.step act).value v).1 q := by
  cases act with
  | station n act =>
    cases act with
    | submit payload => exact loaded.submit n payload
    | deliver index => exact loaded.deliver n index
    | _ => cases frame
  | _ => cases frame

end Loaded

/-- The same act with the same notes and events, but for what is counted where these show it. -/
structure Entry.Same (e e' : Entry) : Prop where
  act : e'.act = e.act
  notes : e'.notes.map Note.uncounted = e.notes.map Note.uncounted
  events : e'.events.map Event.uncounted = e.events.map Event.uncounted

theorem run_loaded {roles : Nat → Role} {us : Nat → List (Frame × Delivery)} {p q : Plant}
    (acts : List Act) (loaded : Loaded roles us p q) :
    ∃ us', Loaded roles us' ((p.run acts).value v).1
        ((q.run (acts.filter fun act => !act.isFrame)).value v).1 ∧
      List.Forall₂ Entry.Same ((transcript v p acts).filter fun entry => !entry.act.isFrame)
        (transcript v q (acts.filter fun act => !act.isFrame)) := by
  induction acts generalizing p q us with
  | nil => exact ⟨us, loaded, .nil⟩
  | cons act rest ih =>
    cases frame : act.isFrame with
    | true =>
      obtain ⟨us', next⟩ := loaded.step_frame (v := v) frame
      obtain ⟨us'', last, entries⟩ := ih next
      refine ⟨us'', ?_, ?_⟩
      · simpa [frame, run] using last
      · simpa [frame, transcript] using entries
    | false =>
      obtain ⟨next, notes, events⟩ := loaded.step_plain (v := v) frame
      obtain ⟨us', last, entries⟩ := ih next
      have entry : Entry.Same ⟨act, ((p.step act).value v).2, (p.step act).events v⟩
          ⟨act, ((q.step act).value v).2, (q.step act).events v⟩ := ⟨rfl, notes, events⟩
      refine ⟨us', ?_, ?_⟩
      · simpa [frame, run] using last
      · simpa [frame, transcript] using List.Forall₂.cons entry entries

/-- A new network is the same in both runs. -/
theorem ofNetwork_loaded {w : Network} (new : w.New) :
    ∃ roles, Loaded roles (fun _ => []) (ofNetwork w) (ofNetwork w) := by
  refine ⟨fun n => ((ofNetwork w).stations[n]?.map (·.device.role)).getD .terminal, ?_⟩
  refine ⟨fun n s here => by simp [here], by simp, ofNetwork_recoded new rfl fun n node found => ?_⟩
  exact ⟨fun side direction bin => by simp [Role.load], rfl, rfl⟩

end Plant
end OpticalAccess
