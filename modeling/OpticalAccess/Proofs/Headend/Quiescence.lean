import OpticalAccess.Proofs.Headend.Counting
import OpticalAccess.Proofs.Headend.Ending

/-!
# When nothing can go on

Once no more frames come and no task can take a step, every controller has been told so at the end
of its stream, every frame that the queue took is on exactly one stream, and every frame from a
child has been answered. There is nothing that a relay could still be waiting for.
-/

namespace OpticalAccess

namespace Relay

/-- A relay takes every step that it can. -/
theorem goes_step {device : String} {call : Nat} {s after : State Nat Stream}
    (goes : Goes device call s after) (v : Verbosity) :
    (step device streamSink call s).value v = some after := by
  cases goes with
  | leave gone => simp [step, streamSink, leave, gone]
  | ask reader => simp [step, streamSink, reader, receive_value]
  | giveUp gone => simp [step, streamSink, leave, gone]
  | receive reader ready =>
    simp only [step, streamSink, reader, Bool.not_true, Bool.false_eq_true, ↓reduceIte]
    split
    · rename_i queue pending
      rw [pending] at ready
      exact absurd rfl ready
    · simp only [Traced.value_bind, Traced.value_pure, receive_value]
  | write payload reader room =>
    simp [step, streamSink, Stream.write, reader, Nat.not_le_of_lt room]
  | refused payload gone => simp [step, streamSink, Stream.write, gone]

theorem Goes.phase_ne {device : String} {call : Nat} {s after : State Nat Stream}
    (goes : Goes device call s after) : after.phase ≠ s.phase := by
  cases goes with
  | leave | giveUp | write | refused => simp
  | ask =>
    simp only [answered]
    split <;> simp
  | receive reader ready => simpa [Session.answered_waiting] using ready

end Relay

/-! ### A session at rest -/

namespace Session

/-- A session in which no move does anything, unless its controller has read to the end. -/
structure Still (v : Verbosity) (address : String) (q : IngressQueue Nat) (log : List Note)
    (s : Session) : Prop where
  relay : (s.move v address q .relay).1 = s
  report : (s.move v address q .report).1 = s
  fetch : (s.move v address q .fetch).1 = s
  read : readNotes s.stream = [] ∨ .ended ∈ log

section Still
variable {v : Verbosity} {address : String} {q : IngressQueue Nat} {log : List Note} {s : Session}

theorem Still.blocked (still : Still v address q log s) (after : Relay.State Nat Stream) :
    ¬ Relay.Goes address s.call ⟨q, s.stream, s.phase⟩ after := by
  intro goes
  have same := congrArg Session.phase still.relay
  simp only [move, Relay.goes_step goes v] at same
  exact goes.phase_ne same

theorem Still.buffer (still : Still v address q log s) : s.stream.buffer = [] := by
  have same := congrArg (fun s => s.stream.buffer.length) still.fetch
  simp only [move, Stream.fetch, List.length_drop] at same
  exact List.length_eq_zero_iff.mp (by omega)

/-- A relay at rest has ended, or the queue has no answer for it yet. -/
theorem Still.phase (still : Still v address q log s) (reader : s.stream.reading = true)
    (room : 0 < s.stream.capacity) :
    (s.phase = .waiting ∧ (q.poll s.call).1 = .pending) ∨ ∃ result, s.phase = .ended result := by
  have blocked := still.blocked
  cases phase : s.phase with
  | ready =>
    rw [phase] at blocked
    exact absurd (.ask reader) (blocked _)
  | waiting =>
    rw [phase] at blocked
    by_cases pending : (q.poll s.call).1 = .pending
    · exact .inl ⟨rfl, pending⟩
    · exact absurd (.receive reader pending) (blocked _)
  | holding payload =>
    rw [phase] at blocked
    have free : s.stream.buffer.length < s.stream.capacity := by simpa [still.buffer] using room
    exact absurd (.write payload reader free) (blocked _)
  | ended result => exact .inr ⟨result, rfl⟩

/-- A relay that has ended has told its controller why, and the controller has read to the end. -/
theorem Still.told (still : Still v address q log s) (orderly : Orderly address log s)
    (room : 0 < s.stream.capacity) (ended : ∃ result, s.phase = .ended result) :
    s.stream.writing = false ∧ s.stream.taken = [] ∧ .ended ∈ log := by
  obtain ⟨result, ended⟩ := ended
  obtain rfl := orderly.reason result ended
  have buffer := still.buffer
  have done : s.stream.writing = false := by
    by_contra working
    have working : s.stream.writing = true := by simpa using working
    have same := congrArg (fun s => s.stream.writing) still.report
    simp [move, working, Session.report, ended, Stream.write, Stream.finish, orderly.reader, buffer,
      Nat.not_le_of_lt room] at same
  rcases still.read with quiet | read
  · -- A read would hand out an item or tell the end; with nobody writing, it does not wait.
    have reads := s.stream.read_reads
    have working : s.stream.refill.writing = s.stream.writing := by
      obtain ⟨_, _, refilled⟩ := s.stream.refill_moves
      rw [refilled]
    obtain ⟨-, quiet⟩ := List.append_eq_nil_iff.mp quiet
    generalize s.stream.read = outcome at reads quiet
    obtain ⟨read, next⟩ := outcome
    cases reads with
    | item => cases quiet
    | pending _ writing => exact absurd (done.symm.trans (working.symm.trans writing)) (by decide)
    | ended => cases quiet
  · exact ⟨done, (orderly.spent read).2.1, read⟩

end Still

theorem Streamed.finished {address : String} {payloads : List Bytes} {given : List Stream.Read}
    (streamed : Streamed address payloads given) (spent : .ended ∈ given) :
    ∃ ends, given = (frames address payloads).map .item ++
      .item (.status closing) :: List.replicate (ends + 1) .ended := by
  cases streamed with
  | working => simp at spent
  | told ends =>
    cases ends with
    | zero => simp at spent
    | succ ends => exact ⟨ends, rfl⟩

/-- What a relay took has all been read, once the controller has read to the end. -/
theorem Balanced.handed_all {log : List Note} {s : Session} (balanced : Balanced log s)
    (reader : s.stream.reading = true) (taken : s.stream.taken = []) (buffer : s.stream.buffer = [])
    (free : s.held = []) : Session.handed log = pulled log := by
  obtain ⟨kept, whole⟩ := balanced.present reader
  rw [balanced.places, whole, kept, taken, buffer, free]
  simp

end Session

namespace Terminal

theorem forward_closed {t : Terminal} {port : Int32} {child : Location}
    (found : t.registry.find? port = some child) (apart : port ≠ egressPort)
    (closed : t.queue.isOpen = false) (frame : Frame) (v : Verbosity) :
    ((t.forward port frame).value v).1 = .error .channelClosed ∧
      ((t.forward port frame).value v).2.queue = t.queue := by
  simp [forward, step, apart, found, IngressQueue.offer, closed, Forward.result]

end Terminal

/-! ### Sharing the queue -/

namespace Headend

/-- The relay that took a payload off the queue, and the payload. -/
def owner? : Note → Option (Nat × Bytes)
  | .session i (.pulled payload) => some (i, payload)
  | _ => none

def owners (log : List Note) : List (Nat × Bytes) := log.filterMap owner?

theorem owners_pulled (log : List Note) : (owners log).map (·.2) = log.filterMap pulled? := by
  rw [owners, List.map_filterMap]
  congr 1
  funext note
  cases note with
  | accepted => rfl
  | session i note => cases note <;> rfl

theorem owners_about (i : Nat) (log : List Note) :
    ((owners log).filter (·.1 = i)).map (·.2) = Session.pulled (about i log) := by
  rw [owners, about, Session.pulled, List.filterMap_filterMap, List.filter_filterMap,
    List.map_filterMap]
  congr 1
  funext note
  cases note with
  | accepted => rfl
  | session j note =>
    by_cases own : j = i
    · cases note <;> simp [owner?, own]
    · cases note <;> simp [owner?, own]

theorem owners_opened {log : List Note} {n : Nat} (unopened : ∀ i, n ≤ i → about i log = [])
    {owner : Nat × Bytes} (member : owner ∈ owners log) : owner.1 < n := by
  by_contra beyond
  have here : owner.2 ∈ Session.pulled (about owner.1 log) := by
    rw [← owners_about]
    exact List.mem_map_of_mem (List.mem_filter.mpr ⟨member, by simp⟩)
  rw [unopened owner.1 (Nat.not_lt.mp beyond)] at here
  cases here

/-! ### A terminal at rest -/

/-- No task can take a step; of the controllers only those that have read to the end may read. -/
structure Idle (v : Verbosity) (log : List Note) (h : Headend) : Prop where
  forwards : ∀ index, h.step v (.forward index) = (h, [])
  sessions : ∀ i m, m ≠ .drop →
    h.step v (.session i m) = (h, []) ∨ m = .read ∧ .ended ∈ about i log

theorem Idle.forward_done {v : Verbosity} {log : List Note} {h : Headend} (idle : Idle v log h) :
    ∀ f ∈ h.forwards, ∃ result, f = .done result := by
  intro f member
  obtain ⟨index, inside, here⟩ := List.mem_iff_getElem.mp member
  have found : h.forwards[index]? = some f := List.getElem?_eq_some_iff.mpr ⟨inside, here⟩
  have goes := h.terminal.step_goes f v
  have same := congrArg (fun after => after.1.forwards[index]?) (idle.forwards index)
  simp only [step, found, List.getElem?_set_self inside, Option.some.injEq] at same
  generalize (h.terminal.step f).value v = outcome at goes same
  obtain ⟨next, after⟩ := outcome
  obtain rfl : next = f := same
  -- Every step but that of a forward that is done leads further.
  cases goes with
  | rest result => exact ⟨result, rfl⟩

theorem Idle.still {v : Verbosity} {log : List Note} {h : Headend} (idle : Idle v log h) {i : Nat}
    {s : Session} (found : h.sessions[i]? = some s) :
    s.Still v h.terminal.location.address h.terminal.queue (about i log) := by
  have inside := (List.getElem?_eq_some_iff.mp found).1
  have kept : ∀ m, m ≠ .drop → m ≠ .read →
      (s.move v h.terminal.location.address h.terminal.queue m).1 = s := by
    intro m stays other
    rcases idle.sessions i m stays with same | ⟨read, -⟩
    · have same := congrArg (fun after => after.1.sessions[i]?) same
      simpa only [step, found, List.getElem?_set_self inside, Option.some.injEq] using same
    · exact absurd read other
  refine ⟨kept .relay (by simp) (by simp), kept .report (by simp) (by simp),
    kept .fetch (by simp) (by simp), ?_⟩
  rcases idle.sessions i .read (by simp) with same | ⟨-, spent⟩
  · have quiet := congrArg Prod.snd same
    simp only [step, found, Session.move, List.map_eq_nil_iff] at quiet
    exact .inl quiet
  · exact .inr spent

/-- With the producer gone, the first in line would be answered: nobody waits. -/
theorem Idle.ended {v : Verbosity} {address : String} {log : List Note} {h : Headend}
    (idle : Idle v log h) (ending : Ending address log h) (lined : Lined h)
    (closed : h.terminal.queue.isOpen = false) {i : Nat} {s : Session}
    (found : h.sessions[i]? = some s) : ∃ result, s.phase = .ended result := by
  have phase : ∀ (j : Nat) (t : Session), h.sessions[j]? = some t →
      (t.phase = .waiting ∧ (h.terminal.queue.poll j).1 = .pending) ∨
        ∃ result, t.phase = .ended result := by
    intro j t there
    have room : 0 < t.stream.capacity := by
      rw [(ending.conserved.sessions j t there).2]
      omega
    have phase := (idle.still there).phase (ending.sessions j t there).reader room
    rwa [lined.calls j t there] at phase
  have nobody : h.terminal.queue.line = [] := by
    cases line : h.terminal.queue.line with
    | nil => rfl
    | cons j others =>
      obtain ⟨t, there, waits⟩ := (lined.waiting j).mp (line ▸ List.mem_cons_self)
      rcases phase j t there with ⟨-, pending⟩ | ⟨result, ended⟩
      · have polled := h.terminal.queue.poll_polled j
        rw [pending] at polled
        generalize (h.terminal.queue.poll j).2 = after at polled
        cases polled with
        | idle _ _ _ producer => exact absurd (closed.symm.trans producer) (by decide)
        | behind other => exact absurd (by rw [line]; rfl) other
      · rw [waits] at ended
        cases ended
  rcases phase i s found with ⟨waits, -⟩ | ended
  · have member := (lined.waiting i).mpr ⟨s, found, waits⟩
    rw [nobody] at member
    cases member
  · exact ended

theorem Idle.finished_streams {v : Verbosity} {address : String} {log : List Note} {h : Headend}
    (idle : Idle v log h) (ending : Ending address log h) (lined : Lined h)
    (closed : h.terminal.queue.isOpen = false) {i : Nat} (inside : i < h.sessions.length) :
    (∃ ends, Session.reads (about i log) =
      (Session.frames address (Session.handed (about i log))).map .item ++
        .item (.status Session.closing) :: List.replicate (ends + 1) .ended) ∧
      Session.handed (about i log) = Session.pulled (about i log) := by
  have found : h.sessions[i]? = some h.sessions[i] := List.getElem?_eq_getElem inside
  have orderly := ending.sessions i _ found
  obtain ⟨balanced, capacity⟩ := ending.conserved.sessions i _ found
  have room : 0 < h.sessions[i].stream.capacity := by omega
  have ended := idle.ended ending lined closed found
  have still := idle.still found
  rw [ending.located] at still
  obtain ⟨-, taken, spent⟩ := still.told orderly room ended
  refine ⟨orderly.streamed.finished (List.mem_filterMap.mpr ⟨.ended, spent, rfl⟩), ?_⟩
  obtain ⟨result, ended⟩ := ended
  exact balanced.handed_all orderly.reader taken still.buffer (by simp [Session.held, ended])

/-- How everything has come to an end on a terminal with the frames `arrived`. -/
structure Finished (v : Verbosity) (address : String) (registry : Registry)
    (arrived : List Passage) (log : List Note) (h : Headend) : Prop where
  /-- Every controller was told why there are no more frames, and then that its stream has ended. -/
  streams : ∀ i < h.sessions.length, ∃ ends,
    Session.reads (about i log) =
      (Session.frames address (Session.handed (about i log))).map .item ++
        .item (.status Session.closing) :: List.replicate (ends + 1) .ended
  /-- Each payload that the queue took belongs to one stream, which has its payloads in order. -/
  shared : ∃ owners : List (Nat × Bytes), owners.map (·.2) = log.filterMap accepted? ∧
    (∀ owner ∈ owners, owner.1 < h.sessions.length) ∧
    ∀ i < h.sessions.length,
      Session.handed (about i log) = (owners.filter (·.1 = i)).map (·.2)
  empty : h.terminal.queue.payloads = []
  /-- Every frame from a child was answered, and the queue took it exactly if that was `ok`. -/
  answered : ∀ p ∈ arrived, ∀ child, p.port ≠ egressPort → registry.find? p.port = some child →
    p.forward = .done (.ok ()) ∨ p.forward = .done (.error .queueFull) ∨
      p.forward = .done (.error .channelClosed)
  accepted : (log.filterMap accepted?).Perm
    ((arrived.filter (·.stage = .through)).map (·.frame.payload))
  /-- A frame from a child that comes now is refused. -/
  later : ∀ port child frame, port ≠ egressPort → registry.find? port = some child →
    ((h.terminal.forward port frame).value v).1 = .error .channelClosed ∧
      ((h.terminal.forward port frame).value v).2.queue = h.terminal.queue

theorem Idle.finished {v : Verbosity} {address : String} {registry : Registry}
    {arrived : List (Int32 × Bytes)} {log : List Note} {h : Headend} (idle : Idle v log h)
    (ending : Ending address log h) (lined : Lined h) (reckoned : Reckoned arrived log h)
    (same : h.terminal.registry = registry) (closed : h.terminal.queue.isOpen = false)
    (some : h.sessions ≠ []) : Finished v address registry (passages arrived h) log h := by
  have done := idle.forward_done
  have empty : h.terminal.queue.payloads = [] := by
    have first : 0 < h.sessions.length := List.length_pos_iff.mpr some
    have found : h.sessions[0]? = Option.some h.sessions[0] := List.getElem?_eq_getElem first
    obtain ⟨result, ended⟩ := idle.ended ending lined closed found
    exact (ending.exhausted 0 _ result found ended).2
  have took : log.filterMap accepted? = log.filterMap pulled? := by
    rw [ending.conserved.order, empty, List.append_nil]
  have finished : ∀ p ∈ passages arrived h, ∃ result, p.forward = .done result := by
    intro p member
    exact done p.forward (passages_forwards reckoned.whole ▸ List.mem_map_of_mem member)
  refine ⟨fun i inside => (idle.finished_streams ending lined closed inside).1,
    ⟨owners log, ?_, fun owner => owners_opened fun i beyond => ?_, fun i inside => ?_⟩, empty,
    fun p member child apart present => ?_, ?_, fun port child frame apart present => ?_⟩
  · rw [owners_pulled, took]
  · exact ending.conserved.unopened i (List.getElem?_eq_none beyond)
  · rw [owners_about]
    exact (idle.finished_streams ending lined closed inside).2
  · have follows := reckoned.follows p member
    obtain ⟨result, spent⟩ := finished p member
    rw [same] at follows
    cases follows with
    | begun | arrived | queued => cases spent
    | sent => exact absurd rfl apart
    | unknown _ _ _ absent => cases absent.symm.trans present
    | through => exact .inl rfl
    | full => exact .inr (.inl rfl)
    | closed => exact .inr (.inr rfl)
  · refine reckoned.accepted.trans (.of_eq (congrArg _ (List.filter_congr fun p member => ?_)))
    obtain ⟨-, queued⟩ := Passage.stage_done (finished p member)
    cases stage : p.stage <;> simp_all [Passage.Stage.accepted]
  · exact Terminal.forward_closed (same ▸ present) apart closed frame v

/--
As long as controllers keep reading, they are given frames and then at most the reason why there are
no more, and no stream ends before that. Once no more frames come and no task can go on, every
stream has ended so, and every frame that the queue took is on exactly one of them.
-/
theorem streams_end_told (v : Verbosity) (location : Location) (registry : Registry)
    (queueSize : Nat) (settings : Settings) (acts : List Act)
    (stays : ∀ i, .session i .drop ∉ acts) :
    let run := (new location registry queueSize settings).run v acts
    (∀ i, Session.Streamed location.address (Session.handed (about i run.2))
      (Session.reads (about i run.2))) ∧
      (.closeIngress ∈ acts → run.1.sessions ≠ [] → Idle v run.2 run.1 →
        Finished v location.address registry (passages (arrivals acts) run.1) run.2 run.1) := by
  intro run
  have ending : Ending location.address run.2 run.1 :=
    run_ending (new_ending location registry queueSize settings) v stays
  refine ⟨fun i => ?_, fun closes some idle => ?_⟩
  · cases found : run.1.sessions[i]? with
    | none =>
      rw [ending.conserved.unopened i found]
      exact .working
    | some s => exact (ending.sessions i s found).streamed
  · have lined : Lined run.1 := run_lined (new_lined location registry queueSize settings) v acts
    have reckoned : Reckoned (arrivals acts) run.2 run.1 :=
      run_reckoned (new_reckoned location registry queueSize settings) v acts
    exact idle.finished ending lined reckoned
      (run_registry v (new location registry queueSize settings) acts) (run_closed v (.inr closes))
      some

/-- A terminal with one child, which is behind port 1. -/
def oneChild : Headend :=
  new ⟨"olt", 1⟩ ⟨[⟨1, ⟨"onu", 1⟩⟩], by decide, by decide⟩ 4 { relayBuffer := 2 }

/-- A frame of the child goes through a stream, and then no more come. -/
def oneFrame : List Act :=
  [.openStream, .arrive 1 [7], .forward 0, .forward 0, .forward 0, .closeIngress,
    .session 0 .relay, .session 0 .relay, .session 0 .fetch, .session 0 .read, .session 0 .relay,
    .session 0 .report, .session 0 .fetch, .session 0 .read, .session 0 .read]

theorem streams_end_told_one :
    ∃ h log, oneChild.run (.upTo .info) oneFrame = (h, log) ∧
      (∀ i, .session i .drop ∉ oneFrame) ∧ Idle (.upTo .info) log h ∧
      Finished (.upTo .info) "olt" oneChild.terminal.registry (passages (arrivals oneFrame) h)
        log h ∧
      Session.reads (about 0 log) =
        [.item (.frame ⟨"olt", [7]⟩), .item (.status Session.closing), .ended] := by
  have ran : oneChild.run (.upTo .info) oneFrame =
      ({ terminal :=
          { location := ⟨"olt", 1⟩, registry := oneChild.terminal.registry
            counters := { pon := { rx := { upTo64 := 1 } }, nni := { tx := { upTo64 := 1 } } }
            queue := { capacity := 4, isOpen := false } }
         settings := { relayBuffer := 2 }
         forwards := [.done (.ok ())]
         sessions := [⟨0, .ended (.error .sourceClosed), { capacity := 2, writing := false }⟩] },
       [.accepted [7], .session 0 (.pulled [7]), .session 0 (.received (.frame ⟨"olt", [7]⟩)),
         .session 0 (.handed (.frame ⟨"olt", [7]⟩)),
         .session 0 (.received (.status Session.closing)),
         .session 0 (.handed (.status Session.closing)), .session 0 .ended]) := rfl
  have stays : ∀ i, .session i .drop ∉ oneFrame := by simp [oneFrame]
  have start : new ⟨"olt", 1⟩ oneChild.terminal.registry 4 { relayBuffer := 2 } = oneChild := rfl
  have ended := streams_end_told (.upTo .info) ⟨"olt", 1⟩ oneChild.terminal.registry 4
    { relayBuffer := 2 } oneFrame stays
  simp only [start, ran] at ended
  refine ⟨_, _, ran, stays, ?idle, ended.2 (by simp [oneFrame]) (by simp) ?idle, rfl⟩
  refine ⟨fun index => ?_, fun i m stays => ?_⟩
  · match index with
    | 0 | _ + 1 => rfl
  · match i with
    | 0 =>
      cases m with
      | relay | report | fetch => exact .inl rfl
      | read => exact .inr ⟨rfl, by simp [about]⟩
      | drop => exact absurd rfl stays
    | _ + 1 => exact .inl rfl

end Headend
end OpticalAccess
