import OpticalAccess.Proofs.Headend.Conservation
import OpticalAccess.Proofs.Headend.Line

/-!
# How a stream ends

A controller that keeps reading is given frames, and then at most once the reason why there are no
more: the terminal's source has closed. Its stream does not end before that, and its relay does not
end while the queue has something for it.
-/

namespace OpticalAccess

namespace IngressQueue

/-- Nothing is in the queue, and nothing more comes. -/
def Exhausted (q : IngressQueue Nat) : Prop := q.isOpen = false ∧ q.payloads = []

theorem Polled.exhausted {q after : IngressQueue Nat} {call : Nat} {answer : Answer}
    (polled : Polled q call answer after) :
    (q.Exhausted → after.Exhausted) ∧ (answer = .closed → after.Exhausted) := by
  cases polled with
  | payload bytes rest others first content =>
    refine ⟨fun exhausted => ?_, fun closed => by cases closed⟩
    rw [exhausted.2] at content
    cases content
  | closed others first empty gone => exact ⟨fun _ => ⟨gone, empty⟩, fun _ => ⟨gone, empty⟩⟩
  | idle | behind => exact ⟨id, fun closed => by cases closed⟩

end IngressQueue

namespace Stream

/-- A read that finds nothing in hand has found nothing in the buffer either. -/
theorem refill_idle {s : Stream} (idle : s.refill.taken = []) : s.refill.buffer = [] := by
  unfold refill at idle ⊢
  split at idle
  · cases content : s.buffer with
    | nil => simp [batch, *]
    | cons item rest =>
      rw [content] at idle
      simp only [batch] at idle
      split at idle <;> cases idle
  · simp_all

def Read.payload? : Read → Option Bytes
  | item i => i.payload?
  | _ => none

end Stream

namespace Session

/-! ### What a controller learns -/

/-- The status that tells a controller that its terminal has no more frames. -/
def closing : Status := ⟨.unavailable, "incoming data channel has closed"⟩

@[simp] def Note.read? : Note → Option Stream.Read
  | handed item => some (.item item)
  | ended => some .ended
  | _ => none

/-- What the reads of a controller gave it, oldest first. -/
def reads (log : List Note) : List Stream.Read := log.filterMap Note.read?

/-- What a read gives of frames from a device. -/
def frames (address : String) (payloads : List Bytes) : List Item :=
  payloads.map fun payload => .frame ⟨address, payload⟩

section Reads
variable (xs ys : List Note)

@[simp] theorem reads_append : reads (xs ++ ys) = reads xs ++ reads ys := List.filterMap_append

@[simp] theorem reads_received (items : List Item) : reads (items.map .received) = [] := by
  simp [reads, Function.comp_def]

@[simp] theorem reads_relay (before after : Relay.Phase) :
    reads (relayNotes before after) = [] := by
  unfold relayNotes
  split <;> rfl

end Reads

/--
The session of a controller that keeps reading: what the controller was given and what waits for it
are frames of the device, and behind them the reason once the relay has ended.
-/
structure Orderly (address : String) (log : List Note) (s : Session) : Prop where
  reader : s.stream.reading = true
  content : ∃ given payloads n, reads log = given.map .item ++ List.replicate n .ended ∧
    given ++ s.stream.taken ++ s.stream.buffer =
      frames address payloads ++ (if s.stream.writing then [] else [.status closing]) ∧
    (n ≠ 0 → s.stream.writing = false ∧ s.stream.taken = [] ∧ s.stream.buffer = [])
  reason : ∀ result, s.phase = .ended result → result = .error .sourceClosed
  writing : s.stream.writing = false → ∃ result, s.phase = .ended result

theorem opened_orderly (address : String) (call capacity : Nat) :
    Orderly address [] ⟨call, .ready, { capacity }⟩ := by
  refine ⟨rfl, ⟨[], [], 0, rfl, rfl, fun some => absurd rfl some⟩, fun result ended => ?_,
    fun done => ?_⟩
  · cases ended
  · cases done

/-- The controller learns that the stream has ended only when there is nothing left to read. -/
theorem Orderly.spent {address : String} {log : List Note} {s : Session}
    (orderly : Orderly address log s) (read : .ended ∈ log) :
    s.stream.writing = false ∧ s.stream.taken = [] ∧ s.stream.buffer = [] := by
  obtain ⟨-, ⟨given, payloads, n, learned, -, spent⟩, -, -⟩ := orderly
  refine spent fun none => ?_
  have member : Stream.Read.ended ∈ reads log := List.mem_filterMap.mpr ⟨.ended, read, rfl⟩
  rw [learned, none] at member
  simp at member

theorem Orderly.receive {address : String} {log : List Note} {s : Session}
    (orderly : Orderly address log s) {items rest : List Item}
    (moved : s.stream.buffer = items ++ rest) :
    Orderly address (log ++ items.map .received)
      { s with stream := { s.stream with buffer := rest, taken := s.stream.taken ++ items } } := by
  obtain ⟨reader, ⟨given, payloads, n, learned, content, spent⟩, reason, writing⟩ := orderly
  refine ⟨reader, ⟨given, payloads, n, ?_, ?_, fun some => ?_⟩, reason, writing⟩
  · simpa using learned
  · simpa [moved] using content
  · obtain ⟨done, taken, buffer⟩ := spent some
    rw [moved, List.append_eq_nil_iff] at buffer
    exact ⟨done, by simp [taken, buffer.1], buffer.2⟩

theorem Orderly.hand {address : String} {log : List Note} {s : Session}
    (orderly : Orderly address log s) {item : Item} {rest : List Item}
    (next : s.stream.taken = item :: rest) :
    Orderly address (log ++ [.handed item])
      { s with stream := { s.stream with taken := rest } } := by
  obtain ⟨reader, ⟨given, payloads, n, learned, content, spent⟩, reason, writing⟩ := orderly
  -- The end has not been read yet: there is an item in hand.
  have early : n = 0 := by
    by_contra some
    rw [(spent some).2.1] at next
    cases next
  subst early
  refine ⟨reader, ⟨given ++ [item], payloads, 0, ?_, ?_, fun some => absurd rfl some⟩, reason,
    writing⟩
  · simpa [reads] using learned
  · simpa [next] using content

theorem Orderly.finish {address : String} {log : List Note} {s : Session}
    (orderly : Orderly address log s) (done : s.stream.writing = false)
    (taken : s.stream.taken = []) (buffer : s.stream.buffer = []) :
    Orderly address (log ++ [.ended]) s := by
  obtain ⟨reader, ⟨given, payloads, n, learned, content, spent⟩, reason, writing⟩ := orderly
  refine ⟨reader, ⟨given, payloads, n + 1, ?_, content, fun _ => ⟨done, taken, buffer⟩⟩, reason,
    writing⟩
  rw [reads_append, learned, List.replicate_succ', List.append_assoc]
  rfl

theorem Orderly.read {address : String} {log : List Note} {s : Session}
    (orderly : Orderly address log s) :
    Orderly address (log ++ readNotes s.stream) { s with stream := s.stream.read.2 } := by
  obtain ⟨items, moved, refilled⟩ := s.stream.refill_moves
  have fresh : s.stream.refill.taken.drop s.stream.taken.length = items := by
    rw [refilled]
    exact List.drop_left
  have after := orderly.receive moved
  rw [← refilled] at after
  have idle := s.stream.refill_idle
  have reads := s.stream.read_reads
  unfold readNotes
  rw [fresh]
  generalize s.stream.read = outcome at reads
  generalize s.stream.refill = filled at after reads idle
  obtain ⟨result, next⟩ := outcome
  cases reads with
  | item item rest found =>
    have handed := after.hand found
    rwa [List.append_assoc] at handed
  | pending => simpa using after
  | ended none done =>
    have ended := after.finish done none (idle none)
    rwa [List.append_assoc] at ended

theorem Orderly.report {address : String} {log : List Note} {s : Session}
    (orderly : Orderly address log s) (working : s.stream.writing = true) :
    Orderly address log s.report := by
  obtain ⟨reader, ⟨given, payloads, n, learned, content, spent⟩, reason, writing⟩ := orderly
  have kept : Orderly address log s :=
    ⟨reader, ⟨given, payloads, n, learned, content, spent⟩, reason, writing⟩
  have early : n = 0 := by
    by_contra some
    rw [(spent some).1] at working
    cases working
  unfold Session.report
  split
  · rename_i ended
    cases reason _ ended
  · rename_i error ended
    obtain rfl : error = .sourceClosed := by
      have same := reason _ ended
      injection same
    have writes := s.stream.write_writes (.status RelayError.sourceClosed.status)
    generalize s.stream.write (.status RelayError.sourceClosed.status) = outcome at writes
    obtain ⟨written, next⟩ := outcome
    cases writes with
    | accepted _ free =>
      refine ⟨reader, ⟨given, payloads, 0, ?_, ?_, fun some => absurd rfl some⟩, reason,
        fun _ => ⟨_, ended⟩⟩
      · simpa [early] using learned
      · simp only [working, ↓reduceIte, List.append_nil] at content
        simp only [Stream.finish, Bool.false_eq_true, ↓reduceIte, ← content, List.append_assoc]
        rfl
    | full _ _ => exact kept
    | closed gone =>
      rw [gone] at reader
      cases reader
  · exact kept

theorem answered_ended {answer : IngressQueue.Answer} {result : Except RelayError Unit}
    (ended : Relay.answered answer = .ended result) :
    answer = .closed ∧ result = .error .sourceClosed := by
  cases answer with
  | closed => exact ⟨rfl, (Relay.Phase.ended.inj ended).symm⟩
  | payload | pending => cases ended

theorem Orderly.relay {address : String} {log : List Note} {s : Session}
    (orderly : Orderly address log s) {q : IngressQueue Nat} {after : Relay.State Nat Stream}
    (goes : Relay.Goes address s.call ⟨q, s.stream, s.phase⟩ after) :
    Orderly address (log ++ relayNotes s.phase after.phase)
      { s with phase := after.phase, stream := after.sink } := by
  obtain ⟨call, phase, stream⟩ := s
  obtain ⟨reader, ⟨given, payloads, n, learned, content, spent⟩, reason, writing⟩ := orderly
  simp only at reader content spent reason writing
  cases goes with
  | leave gone | giveUp gone | refused _ gone =>
    rw [gone] at reader
    cases reader
  | ask | receive =>
    refine ⟨reader, ⟨given, payloads, n, by simpa using learned, content, spent⟩,
      fun _ ended => (answered_ended ended).2, fun done => ?_⟩
    obtain ⟨result, ended⟩ := writing done
    cases ended
  | write payload =>
    -- The relay has not ended, so that the reason is not written yet.
    have working : stream.writing = true := by
      by_contra done
      obtain ⟨result, ended⟩ := writing (by simpa using done)
      cases ended
    have early : n = 0 := by
      by_contra some
      exact absurd ((spent some).1.symm.trans working) (by decide)
    refine ⟨reader, ⟨given, payloads ++ [payload], 0, ?_, ?_, fun some => absurd rfl some⟩,
      fun result ended => (by cases ended), fun done => ?_⟩
    · simpa [early] using learned
    · simp only [working, ↓reduceIte, List.append_nil] at content
      simp only [working, ↓reduceIte, List.append_nil, frames, List.map_append, ← List.append_assoc,
        content]
      rfl
    · exact absurd (done.symm.trans working) (by decide)

/-- Whatever a session does, its stream stays in order as long as the controller keeps reading. -/
theorem move_orderly {address : String} {log : List Note} {s : Session}
    (orderly : Orderly address log s) (v : Verbosity) (q : IngressQueue Nat) {m : Move}
    (stays : m ≠ .drop) :
    Orderly address (log ++ (s.move v address q m).2.2) (s.move v address q m).1 := by
  cases m with
  | relay =>
    cases moved : (Relay.step address Relay.streamSink s.call ⟨q, s.stream, s.phase⟩).value v with
    | none => simpa [move, moved] using orderly
    | some after => simpa only [move, moved] using orderly.relay (Relay.step_goes moved)
  | report =>
    simp only [move, List.append_nil]
    split
    · rename_i working
      exact orderly.report working
    · exact orderly
  | fetch => exact orderly.receive (List.take_append_drop 1 s.stream.buffer).symm
  | read => exact orderly.read
  | drop => exact absurd rfl stays

/-- A relay with a reader ends only when the queue is exhausted, and it stays so. -/
theorem move_exhausted {s : Session} (v : Verbosity) (address : String) (q : IngressQueue Nat)
    (m : Move) :
    (q.Exhausted → (s.move v address q m).2.1.Exhausted) ∧
      (s.move v address q m).2.1.isOpen = q.isOpen ∧
      ∀ result, s.stream.reading = true → (s.move v address q m).1.phase = .ended result →
        s.phase = .ended result ∨ (s.move v address q m).2.1.Exhausted := by
  cases m with
  | relay =>
    cases moved : (Relay.step address Relay.streamSink s.call ⟨q, s.stream, s.phase⟩).value v with
    | none =>
      simp only [move, moved]
      exact ⟨id, trivial, fun _ _ ended => .inl ended⟩
    | some after =>
      have goes := Relay.step_goes moved
      simp only [move, moved]
      obtain ⟨call, phase, stream⟩ := s
      cases goes with
      | leave gone | giveUp gone | refused _ gone =>
        exact ⟨id, rfl, fun _ reader => absurd (gone.symm.trans reader) (by decide)⟩
      | write => exact ⟨id, rfl, fun _ _ ended => by cases ended⟩
      | ask =>
        have polled := IngressQueue.poll_polled { q with line := q.line ++ [call] } call
        exact ⟨fun exhausted => polled.exhausted.1 exhausted, polled.payloads.2.2,
          fun _ _ ended => .inr (polled.exhausted.2 (answered_ended ended).1)⟩
      | receive =>
        have polled := q.poll_polled call
        exact ⟨polled.exhausted.1, polled.payloads.2.2,
          fun _ _ ended => .inr (polled.exhausted.2 (answered_ended ended).1)⟩
  | report =>
    refine ⟨id, rfl, fun result _ ended => .inl ?_⟩
    simp only [move] at ended
    split at ended
    · exact s.report_phase.1 ▸ ended
    · exact ended
  | fetch | read | drop => exact ⟨id, rfl, fun _ _ ended => .inl ended⟩

/-- Frames, and then the reason why there are no more, after which the stream has ended. -/
inductive Streamed (address : String) (payloads : List Bytes) : List Stream.Read → Prop where
  | working : Streamed address payloads ((frames address payloads).map .item)
  | told (ends : Nat) :
      Streamed address payloads
        ((frames address payloads).map .item ++
          .item (.status closing) :: List.replicate ends .ended)

theorem payloads_frames (address : String) (payloads : List Bytes) :
    Item.payloads (frames address payloads) = payloads := by
  simp [Item.payloads, frames, Item.payload?, Function.comp_def]

theorem frames_prefix {address : String} {payloads : List Bytes} {given : List Item}
    (first : given <+: frames address payloads) :
    given = frames address (Item.payloads given) := by
  have cut : given = frames address (payloads.take given.length) := by
    rw [frames, List.map_take]
    exact List.prefix_iff_eq_take.mp first
  rw [cut, payloads_frames]

theorem handed_reads {log : List Note} {given : List Item} {n : Nat}
    (learned : reads log = given.map .item ++ List.replicate n .ended) :
    handed log = Item.payloads given := by
  have through : handed log = (reads log).filterMap Stream.Read.payload? := by
    rw [handed, reads, List.filterMap_filterMap]
    congr 1
    funext note
    cases note <;> rfl
  rw [through, learned]
  simp [Item.payloads, Function.comp_def, Stream.Read.payload?]

theorem Orderly.streamed {address : String} {log : List Note} {s : Session}
    (orderly : Orderly address log s) : Streamed address (handed log) (reads log) := by
  obtain ⟨reader, ⟨given, payloads, n, learned, content, spent⟩, reason, writing⟩ := orderly
  have first : given <+: frames address payloads ++
      (if s.stream.writing then [] else [.status closing]) :=
    ⟨s.stream.taken ++ s.stream.buffer, by rw [← List.append_assoc, content]⟩
  have told : given = frames address payloads ++ [.status closing] →
      Streamed address (handed log) (reads log) := by
    intro whole
    have all : handed log = payloads := by
      rw [handed_reads learned, whole, Item.payloads_append, payloads_frames,
        Item.payloads_status, List.append_nil]
    rw [learned, whole, all]
    simpa using Streamed.told n
  have working : given <+: frames address payloads →
      Streamed address (handed log) (reads log) := by
    intro first
    -- Had the end been read, then so had the reason before it.
    have early : n = 0 := by
      by_contra some
      obtain ⟨done, taken, buffer⟩ := spent some
      have longer := congrArg List.length content
      have shorter := first.length_le
      simp only [done, taken, buffer, List.append_nil, Bool.false_eq_true, ↓reduceIte,
        List.length_append, List.length_singleton] at longer
      omega
    have same := frames_prefix first
    rw [← handed_reads learned] at same
    rw [learned, early, List.replicate_zero, List.append_nil, same]
    exact .working
  cases state : s.stream.writing with
  | true => exact working (by simpa [state] using first)
  | false =>
    rw [state] at first
    rcases List.prefix_concat_iff.mp first with whole | part
    · exact told whole
    · exact working part

end Session

/-! ### Runs -/

namespace Terminal

theorem step_exhausted (t : Terminal) (f : Forward) (v : Verbosity) :
    (t.queue.Exhausted → ((t.step f).value v).2.queue.Exhausted) ∧
      ((t.step f).value v).2.queue.isOpen = t.queue.isOpen ∧
      ((t.step f).value v).2.location = t.location := by
  have goes := t.step_goes f v
  generalize (t.step f).value v = outcome at goes
  obtain ⟨next, after⟩ := outcome
  cases goes with
  | queued _ _ producer =>
    exact ⟨fun exhausted => absurd (exhausted.1.symm.trans producer) (by decide), rfl, rfl⟩
  | sent | unknown | arrived | dropped | refused | counted | rest => exact ⟨id, rfl, rfl⟩

end Terminal

namespace Headend

theorem step_exhausted (v : Verbosity) (h : Headend) (act : Act) :
    (h.terminal.queue.Exhausted → (h.step v act).1.terminal.queue.Exhausted) ∧
      (h.terminal.queue.isOpen = false → (h.step v act).1.terminal.queue.isOpen = false) ∧
      (h.step v act).1.terminal.location = h.terminal.location := by
  cases act with
  | arrive => exact ⟨id, id, rfl⟩
  | install flows => exact ⟨id, id, by simp [step, Terminal.install]⟩
  | closeIngress => exact ⟨fun exhausted => ⟨rfl, exhausted.2⟩, fun _ => rfl, rfl⟩
  | forward index =>
    cases found : h.forwards[index]? with
    | none => simp only [step, found, imp_self, and_self]
    | some f =>
      obtain ⟨exhausted, isOpen, location⟩ := h.terminal.step_exhausted f v
      simp only [step, found]
      exact ⟨exhausted, fun gone => isOpen.trans gone, location⟩
  | openStream =>
    simp only [step]
    split <;> exact ⟨id, id, rfl⟩
  | session index m =>
    cases found : h.sessions[index]? with
    | none => simp only [step, found, imp_self, and_self]
    | some s =>
      obtain ⟨exhausted, isOpen, -⟩ :=
        s.move_exhausted v h.terminal.location.address h.terminal.queue m
      simp only [step, found]
      exact ⟨exhausted, fun gone => isOpen.trans gone, trivial⟩

/-- All streams are in order, and where a relay has ended, the queue is exhausted. -/
structure Ending (address : String) (log : List Note) (h : Headend) : Prop where
  conserved : Conserved log h
  located : h.terminal.location.address = address
  sessions : ∀ (i : Nat) (s : Session), h.sessions[i]? = some s →
    s.Orderly address (about i log)
  exhausted : ∀ (i : Nat) (s : Session) (result : Except RelayError Unit),
    h.sessions[i]? = some s → s.phase = .ended result → h.terminal.queue.Exhausted

theorem new_ending (location : Location) (registry : Registry) (queueSize : Nat)
    (settings : Settings) :
    Ending location.address [] (new location registry queueSize settings) := by
  refine ⟨new_conserved location registry queueSize settings, rfl, fun i s found => ?_,
    fun i s result found => ?_⟩
  · cases found
  · cases found

theorem step_ending {address : String} {log : List Note} {h : Headend}
    (ending : Ending address log h) (v : Verbosity) {act : Act}
    (stays : ∀ i, act ≠ .session i .drop) :
    Ending address (log ++ (h.step v act).2) (h.step v act).1 := by
  obtain ⟨conserved, location, sessions, exhausted⟩ := ending
  obtain ⟨still, -, same⟩ := step_exhausted v h act
  have each : ∀ (i : Nat) (s : Session), (h.step v act).1.sessions[i]? = some s →
      s.Orderly address (about i log ++ about i (h.step v act).2) ∧
        ∀ result, s.phase = .ended result → (h.step v act).1.terminal.queue.Exhausted := by
    intro i s found
    have place := step_place v h act i
    rw [found] at place
    generalize about i (h.step v act).2 = notes at place
    generalize at_ : some s = entry at place
    cases place with
    | kept =>
      rw [List.append_nil]
      exact ⟨sessions i s at_.symm, fun result ended => still (exhausted i s result at_.symm ended)⟩
    | opened _ last =>
      obtain rfl := Option.some.inj at_
      rw [conserved.unopened i (List.getElem?_eq_none (Nat.le_of_eq last))]
      exact ⟨Session.opened_orderly address i _, fun _ ended => by cases ended⟩
    | moved before m eq here =>
      obtain rfl := Option.some.inj at_
      subst eq
      have orderly := sessions i before here
      refine ⟨?_, fun result ended => ?_⟩
      · rw [location]
        exact Session.move_orderly orderly v _ fun drop => stays i (by rw [drop])
      · obtain ⟨-, -, ends⟩ :=
          before.move_exhausted v h.terminal.location.address h.terminal.queue m
        rcases ends result orderly.reader ended with earlier | now
        · exact still (exhausted i before result here earlier)
        · simpa only [step, here] using now
  refine ⟨step_conserved conserved v act, by rw [same, location], fun i s found => ?_,
    fun i s result found => (each i s found).2 result⟩
  rw [about_append]
  exact (each i s found).1

theorem run_ending {address : String} {log : List Note} {h : Headend}
    (ending : Ending address log h) (v : Verbosity) {acts : List Act}
    (stays : ∀ i, .session i .drop ∉ acts) :
    Ending address (log ++ (h.run v acts).2) (h.run v acts).1 := by
  induction acts generalizing log h with
  | nil => simpa [run] using ending
  | cons act rest ih =>
    have here : ∀ i, act ≠ .session i .drop := fun i same =>
      stays i (same ▸ List.mem_cons_self)
    have after := ih (step_ending ending v here) fun i member =>
      stays i (List.mem_cons_of_mem _ member)
    rwa [List.append_assoc] at after

theorem run_closed {h : Headend} (v : Verbosity) {acts : List Act}
    (closed : h.terminal.queue.isOpen = false ∨ .closeIngress ∈ acts) :
    (h.run v acts).1.terminal.queue.isOpen = false := by
  induction acts generalizing h with
  | nil => simpa [run] using closed
  | cons act rest ih =>
    refine ih ?_
    rcases closed with gone | member
    · exact .inl ((step_exhausted v h act).2.1 gone)
    · rcases List.mem_cons.mp member with rfl | later
      · exact .inl rfl
      · exact .inr later

end Headend
end OpticalAccess
