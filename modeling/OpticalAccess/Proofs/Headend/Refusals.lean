import OpticalAccess.Proofs.Headend.ChildFrames
import OpticalAccess.Proofs.Headend.Ending

/-!
# Forwards that fail

A forward fails if nobody is behind its port, or if the queue has no place for its frame: the queue
is closed, or it holds as many frames as it ever may. Which of these it is can be told from the
error, and with the error from what the terminal is left with.
-/

namespace OpticalAccess

/-! ### Forwards on their own -/

namespace Terminal

/-- What comes of a forward with which nothing interferes, and what it logs once it has begun. -/
inductive Forwarded (t : Terminal) (port : Int32) (frame : Frame) :
    Except DeviceError Unit × Terminal → List Event → Prop where
  | sent (egress : port = egressPort) : Forwarded t port frame (t.sent frame) []
  | unknown (apart : port ≠ egressPort) (absent : port ∉ t.registry.ports) :
      Forwarded t port frame (.error (.portNotFound port), t) []
  | queued (apart : port ≠ egressPort) (present : port ∈ t.registry.ports)
      (producer : t.queue.isOpen = true) (room : t.queue.payloads.length < t.queue.capacity) :
      Forwarded t port frame (.ok (), { t with
        counters := (t.counters.count .pon .rx frame.length).count .nni .tx frame.length
        queue := { t.queue with payloads := t.queue.payloads ++ [frame.payload] } }) []
  | full (apart : port ≠ egressPort) (present : port ∈ t.registry.ports)
      (producer : t.queue.isOpen = true) (full : t.queue.capacity ≤ t.queue.payloads.length) :
      Forwarded t port frame (.error (.unavailable "outgoing queue full"), { t with
        counters := t.counters.count .pon .rx frame.length }) [.ingressDropped t.location port]
  | closed (apart : port ≠ egressPort) (present : port ∈ t.registry.ports)
      (gone : t.queue.isOpen = false) :
      Forwarded t port frame (.error (.unavailable "outgoing channel closed"), { t with
        counters := t.counters.count .pon .rx frame.length }) []

theorem kept_cons (v : Verbosity) (e : Event) (logged : List Event) :
    ((if v.enables e.level then [e] else []) ++ logged.filter fun e => v.enables e.level) =
      (e :: logged).filter fun e => v.enables e.level := by
  cases kept : v.enables e.level <;> simp [kept]

theorem forward_forwarded (t : Terminal) (port : Int32) (frame : Frame) (v : Verbosity) :
    ∃ logged, t.Forwarded port frame ((t.forward port frame).value v) logged ∧
      (t.forward port frame).events v =
        (.forwarding .terminal t.location port frame.describe :: logged).filter
          fun e => v.enables e.level := by
  by_cases egress : port = egressPort
  · refine ⟨[], ?_, ?_⟩
    · subst egress
      rw [forward_egress]
      exact .sent rfl
    · rw [← kept_cons]
      simp [forward, step, egress]
  · cases found : t.registry.find? port with
    | none =>
      have absent := Registry.find?_eq_none_iff.mp found
      refine ⟨[], ?_, ?_⟩
      · simpa [forward, step, egress, found, Forward.result] using
          (.unknown egress absent : t.Forwarded port frame _ [])
      · rw [← kept_cons]
        simp [forward, step, egress, found]
    | some child =>
      have present : port ∈ t.registry.ports := by
        by_contra absent
        rw [Registry.find?_eq_none_iff.mpr absent] at found
        cases found
      have offered := t.queue.offer_offered frame.payload
      generalize outcome : t.queue.offer frame.payload = offer at offered
      obtain ⟨offer, queue⟩ := offer
      cases offered with
      | accepted producer room =>
        refine ⟨[], ?_, ?_⟩
        · simpa [forward, step, egress, found, outcome, Forward.result] using
            (.queued egress present producer room : t.Forwarded port frame _ [])
        · rw [← kept_cons]
          simp [forward, step, egress, found, outcome]
      | full producer full =>
        refine ⟨[.ingressDropped t.location port], ?_, ?_⟩
        · simpa [forward, step, egress, found, outcome, Forward.result, DeviceError.queueFull] using
            (.full egress present producer full :
              t.Forwarded port frame _ [.ingressDropped t.location port])
        · rw [← kept_cons, ← kept_cons]
          simp [forward, step, egress, found, outcome]
      | closed gone =>
        refine ⟨[], ?_, ?_⟩
        · simpa [forward, step, egress, found, outcome, Forward.result, DeviceError.channelClosed]
            using (.closed egress present gone : t.Forwarded port frame _ [])
        · rw [← kept_cons]
          simp [forward, step, egress, found, outcome]

end Terminal

/-! ### The bound of the queue -/

namespace Session

/-- A session only takes payloads out of the queue. -/
theorem move_takes (s : Session) (v : Verbosity) (address : String) (q : IngressQueue Nat)
    (m : Move) :
    (∃ taken, q.payloads = taken ++ (s.move v address q m).2.1.payloads) ∧
      (s.move v address q m).2.1.capacity = q.capacity := by
  cases m with
  | report | fetch | read | drop => exact ⟨⟨[], rfl⟩, rfl⟩
  | relay =>
    cases moved : (Relay.step address Relay.streamSink s.call ⟨q, s.stream, s.phase⟩).value v with
    | none => simp only [move, moved, and_true]; exact ⟨[], rfl⟩
    | some after =>
      have goes := Relay.step_goes moved
      simp only [move, moved]
      obtain ⟨call, phase, stream⟩ := s
      cases goes with
      | leave | giveUp | write | refused => exact ⟨⟨[], rfl⟩, rfl⟩
      | ask =>
        have polled := IngressQueue.poll_polled { q with line := q.line ++ [call] } call
        obtain ⟨payloads, capacity, -⟩ := polled.payloads
        exact ⟨⟨_, payloads⟩, capacity⟩
      | receive =>
        obtain ⟨payloads, capacity, -⟩ := (q.poll_polled call).payloads
        exact ⟨⟨_, payloads⟩, capacity⟩

end Session

namespace Headend

/-- The queue of a terminal holds no more frames than the size that it was made with. -/
structure Bounded (size : Nat) (h : Headend) : Prop where
  capacity : h.terminal.queue.capacity = size
  room : h.terminal.queue.payloads.length ≤ size

theorem new_bounded (location : Location) (registry : Registry) (queueSize : Nat)
    (settings : Settings) :
    Bounded (max 1 queueSize) (new location registry queueSize settings) :=
  ⟨rfl, Nat.zero_le _⟩

theorem step_bounded {size : Nat} {h : Headend} (bounded : Bounded size h) (v : Verbosity)
    (act : Act) : Bounded size (h.step v act).1 := by
  obtain ⟨capacity, room⟩ := bounded
  cases act with
  | arrive | closeIngress | install => exact ⟨capacity, room⟩
  | openStream =>
    simp only [step]
    split <;> exact ⟨capacity, room⟩
  | forward index =>
    cases found : h.forwards[index]? with
    | none =>
      simp only [step, found]
      exact ⟨capacity, room⟩
    | some f =>
      have goes := h.terminal.step_goes f v
      simp only [step, found]
      generalize (h.terminal.step f).value v = outcome at goes
      obtain ⟨next, after⟩ := outcome
      cases goes with
      | sent | unknown | arrived | dropped | refused | counted | rest => exact ⟨capacity, room⟩
      | queued port frame producer free =>
        refine ⟨capacity, ?_⟩
        simp only [List.length_append, List.length_singleton]
        omega
  | session index m =>
    cases found : h.sessions[index]? with
    | none =>
      simp only [step, found]
      exact ⟨capacity, room⟩
    | some s =>
      obtain ⟨⟨taken, payloads⟩, same⟩ :=
        s.move_takes v h.terminal.location.address h.terminal.queue m
      have length := congrArg List.length payloads
      rw [List.length_append] at length
      simp only [step, found]
      refine ⟨same.trans capacity, ?_⟩
      show (s.move v _ _ m).2.1.payloads.length ≤ size
      omega

theorem run_bounded {size : Nat} {h : Headend} (bounded : Bounded size h) (v : Verbosity)
    (acts : List Act) : Bounded size (h.run v acts).1 := by
  induction acts generalizing h with
  | nil => exact bounded
  | cons act rest ih => exact ih (step_bounded bounded v act)

/-- A forward with which nothing interferes is three steps of a task. -/
theorem run_forward (v : Verbosity) (h : Headend) (port : Int32) (payload : Bytes) :
    let last := h.forwards.length
    (h.run v [.arrive port payload, .forward last, .forward last, .forward last]).1.terminal =
      ((h.terminal.forward port ⟨payload⟩).value v).2 := by
  simp [run, step, Terminal.forward]

/-- What a forward at a port says about a terminal whose queue has room for `size` frames. -/
structure Accounted (v : Verbosity) (registry : Registry) (size : Nat) (t : Terminal)
    (port : Int32) (frame : Frame) (outcome : Except DeviceError Unit × Terminal) : Prop where
  unknown : ∀ p, outcome.1 = .error (.portNotFound p) ↔
    p = port ∧ port ≠ egressPort ∧ port ∉ registry.ports
  untouched : outcome.1 = .error (.portNotFound port) → outcome.2 = t
  unavailable : ∀ reason, outcome.1 = .error (.unavailable reason) ↔
    port ≠ egressPort ∧ port ∈ registry.ports ∧
      (t.queue.isOpen = false ∧ reason = "outgoing channel closed" ∨
        t.queue.isOpen = true ∧ t.queue.payloads.length = size ∧ reason = "outgoing queue full")
  /-- A frame without a place is counted where it came from, and nothing else happens. -/
  counted : ∀ reason, outcome.1 = .error (.unavailable reason) →
    outcome.2 = { t with counters := outcome.2.counters } ∧
      ∀ side direction bin, outcome.2.counters.get side direction bin =
        t.counters.get side direction bin +
          if side = .pon ∧ direction = .rx ∧ bin = .ofLength frame.length then 1 else 0
  only : ∀ reason, outcome.1 ≠ .error (.flowsRejected reason)
  room : t.queue.payloads.length ≤ size
  /-- A warning is logged exactly if the queue is full, and it is there to be warned of. -/
  warned : ((t.forward port frame).events v).filter (·.name? = some "sim_ingress_dropped") =
    if v.enables .warn ∧ port ≠ egressPort ∧ port ∈ registry.ports ∧ t.queue.isOpen = true ∧
        t.queue.payloads.length = size then
      [.ingressDropped t.location port]
    else []

/-- The frames that a log says were dropped; what a forward logs when it begins is none. -/
theorem filter_dropped {e : Event} (other : e.name? ≠ some "sim_ingress_dropped")
    (v : Verbosity) (logged : List Event) :
    ((e :: logged).filter fun e => v.enables e.level).filter
        (·.name? = some "sim_ingress_dropped") =
      (logged.filter (·.name? = some "sim_ingress_dropped")).filter fun e => v.enables e.level := by
  rw [List.filter_comm, List.filter_cons_of_neg (by simpa using other)]

theorem get_refused (c : Counters) (frame : Frame) (side : Side) (direction : Direction)
    (bin : SizeBin) :
    (c.count .pon .rx frame.length).get side direction bin = c.get side direction bin +
      if side = .pon ∧ direction = .rx ∧ bin = .ofLength frame.length then 1 else 0 := by
  rw [Counters.count, Counters.get_countMany]
  simp only [eq_comm]

theorem Bounded.accounted {size : Nat} {h : Headend} (bounded : Bounded size h) (v : Verbosity)
    (port : Int32) (frame : Frame) :
    Accounted v h.terminal.registry size h.terminal port frame
      ((h.terminal.forward port frame).value v) := by
  obtain ⟨capacity, room⟩ := bounded
  obtain ⟨logged, forwarded, events⟩ := h.terminal.forward_forwarded port frame v
  have warned := filter_dropped (e := .forwarding .terminal h.terminal.location port frame.describe)
    (by simp [Event.name?]) v logged
  rw [← events] at warned
  generalize (h.terminal.forward port frame).value v = outcome at forwarded
  cases forwarded with
  | sent egress =>
    refine ⟨?_, ?_, ?_, ?_, ?_, room, ?_⟩
    · simp [Terminal.sent, egress]
    · simp [Terminal.sent]
    · simp [Terminal.sent, egress]
    · simp [Terminal.sent]
    · simp [Terminal.sent]
    · rw [warned]
      simp [egress]
  | unknown apart absent =>
    refine ⟨?_, fun _ => rfl, ?_, ?_, ?_, room, ?_⟩
    · simp [apart, absent, eq_comm]
    · simp [absent]
    · simp
    · simp
    · simp [warned, absent]
  | queued apart present producer free =>
    have short : h.terminal.queue.payloads.length ≠ size := by omega
    refine ⟨?_, ?_, ?_, ?_, ?_, room, ?_⟩
    · simp [present]
    · simp
    · simp [producer, short]
    · simp
    · simp
    · simp [warned, short]
  | full apart present producer full =>
    have whole : h.terminal.queue.payloads.length = size := by omega
    refine ⟨?_, ?_, ?_, ?_, ?_, room, ?_⟩
    · simp [present]
    · simp
    · simp [apart, present, producer, whole, eq_comm]
    · exact fun _ _ => ⟨rfl, get_refused _ _⟩
    · simp
    · rw [warned]
      cases kept : v.enables .warn <;>
        simp [Event.name?, Event.level, kept, apart, present, producer, whole]
  | closed apart present gone =>
    refine ⟨?_, ?_, ?_, ?_, ?_, room, ?_⟩
    · simp [present]
    · simp
    · simp [apart, present, gone, eq_comm]
    · exact fun _ _ => ⟨rfl, get_refused _ _⟩
    · simp
    · simp [warned, gone]

/--
In every state of a terminal, an error of a forward says why it failed and what is left of it: the
terminal as it was, or one more frame counted where it came from. No other failure occurs. Once no
more frames are let in, every forward from a child fails.
-/
theorem failed_forward_accounted (v : Verbosity) (location : Location) (registry : Registry)
    (queueSize : Nat) (settings : Settings) (acts : List Act) (port : Int32) (frame : Frame) :
    let h := ((new location registry queueSize settings).run v acts).1
    let outcome := (h.terminal.forward port frame).value v
    Accounted v registry (max 1 queueSize) h.terminal port frame outcome ∧
      (.closeIngress ∈ acts → port ≠ egressPort → port ∈ registry.ports →
        outcome.1 = .error (.unavailable "outgoing channel closed")) ∧
      -- Step by step and with nothing in between, a task makes the same of it.
      let last := h.forwards.length
      (h.run v [.arrive port frame.payload, .forward last, .forward last,
        .forward last]).1.terminal = outcome.2 := by
  intro h outcome
  have bounded : Bounded (max 1 queueSize) h :=
    run_bounded (new_bounded location registry queueSize settings) v acts
  have same : h.terminal.registry = registry :=
    run_registry v (new location registry queueSize settings) acts
  have accounted := bounded.accounted v port frame
  rw [same] at accounted
  refine ⟨accounted, fun closing apart present => ?_, run_forward v h port frame.payload⟩
  have gone : h.terminal.queue.isOpen = false := run_closed v (.inr closing)
  exact (accounted.unavailable _).mpr ⟨apart, present, .inl ⟨gone, rfl⟩⟩

end Headend
end OpticalAccess
