import OpticalAccess.Proofs.Headend.Basic

/-!
# What single steps do

Each operation on the queue, on a stream, of a forward and of a relay is described once, with the
condition under which it happens. Later proofs go by these cases and do not open the operations.
-/

namespace OpticalAccess

/-! ### The queue -/

namespace IngressQueue

/-- The payload that an answer hands over. -/
def Answer.payloads : Answer → List Bytes
  | .payload bytes => [bytes]
  | .closed => []
  | .pending => []

/-- What a poll does: only the first in line is answered, unless it has to wait for a payload. -/
inductive Polled (q : IngressQueue Nat) (call : Nat) : Answer → IngressQueue Nat → Prop where
  | payload (bytes : Bytes) (rest : List Bytes) (others : List Nat) (first : q.line = call :: others)
      (content : q.payloads = bytes :: rest) :
      Polled q call (.payload bytes) { q with payloads := rest, line := others }
  | closed (others : List Nat) (first : q.line = call :: others) (empty : q.payloads = [])
      (gone : q.isOpen = false) : Polled q call .closed { q with line := others }
  | idle (others : List Nat) (first : q.line = call :: others) (empty : q.payloads = [])
      (producer : q.isOpen = true) : Polled q call .pending q
  | behind (other : q.line.head? ≠ some call) : Polled q call .pending q

theorem poll_polled (q : IngressQueue Nat) (call : Nat) :
    Polled q call (q.poll call).1 (q.poll call).2 := by
  unfold poll
  split
  · rename_i nobody
    exact .behind (by simp [nobody])
  · rename_i first others line
    split
    · rename_i same
      subst same
      split
      · rename_i bytes rest content
        exact .payload bytes rest others line content
      · rename_i empty
        split
        · rename_i producer
          exact .idle others line empty producer
        · rename_i gone
          exact .closed others line empty (by simpa using gone)
    · rename_i other
      exact .behind (by simpa [line] using other)

/-- A poll moves the payload of its answer out of the queue. -/
theorem Polled.payloads {q after : IngressQueue Nat} {call : Nat} {answer : Answer}
    (polled : Polled q call answer after) :
    q.payloads = answer.payloads ++ after.payloads ∧ after.capacity = q.capacity ∧
      after.isOpen = q.isOpen := by
  cases polled with
  | payload bytes rest others first content => exact ⟨content, rfl, rfl⟩
  | closed | idle | behind => exact ⟨rfl, rfl, rfl⟩

theorem poll_payloads (q : IngressQueue Nat) (call : Nat) :
    q.payloads = (q.poll call).1.payloads ++ (q.poll call).2.payloads :=
  (q.poll_polled call).payloads.1

theorem start_payloads (q : IngressQueue Nat) (call : Nat) :
    q.payloads = (q.start call).1.payloads ++ (q.start call).2.payloads :=
  poll_payloads { q with line := q.line ++ [call] } call

/-- What an offer does: it is taken exactly if the producer is there and there is room. -/
inductive Offered (q : IngressQueue Nat) (bytes : Bytes) : Offer → IngressQueue Nat → Prop where
  | accepted (producer : q.isOpen = true) (room : q.payloads.length < q.capacity) :
      Offered q bytes .accepted { q with payloads := q.payloads ++ [bytes] }
  | full (producer : q.isOpen = true) (full : q.capacity ≤ q.payloads.length) :
      Offered q bytes .full q
  | closed (gone : q.isOpen = false) : Offered q bytes .closed q

theorem offer_offered (q : IngressQueue Nat) (bytes : Bytes) :
    Offered q bytes (q.offer bytes).1 (q.offer bytes).2 := by
  unfold offer
  split
  · rename_i gone
    exact .closed (by simpa using gone)
  · rename_i producer
    have producer : q.isOpen = true := by simpa using producer
    split
    · rename_i full
      exact .full producer full
    · rename_i room
      exact .accepted producer (by omega)

end IngressQueue

/-! ### Streams -/

namespace Stream

theorem batch_append_drop (size : Nat) (items : List Item) :
    batch size items ++ items.drop (batch size items).length = items := by
  induction items generalizing size with
  | nil => rfl
  | cons item rest ih =>
    simp only [batch]
    split
    · rfl
    · exact congrArg (item :: ·) (ih _)

theorem refill_moves (s : Stream) :
    ∃ items, s.buffer = items ++ s.refill.buffer ∧
      s.refill = { s with taken := s.taken ++ items, buffer := s.refill.buffer } := by
  unfold refill
  split
  · rename_i idle
    have idle : s.taken = [] := List.isEmpty_iff.mp idle
    exact ⟨batch 0 s.buffer, (batch_append_drop 0 s.buffer).symm, by simp [idle]⟩
  · exact ⟨[], rfl, by simp⟩

/-- What a read does after the refill: it hands out the oldest item that is taken. -/
inductive Reads (s : Stream) : Read → Stream → Prop where
  | item (item : Item) (rest : List Item) (next : s.taken = item :: rest) :
      Reads s (.item item) { s with taken := rest }
  | pending (idle : s.taken = []) (writing : s.writing = true) : Reads s .pending s
  | ended (idle : s.taken = []) (done : s.writing = false) : Reads s .ended s

theorem read_reads (s : Stream) : Reads s.refill s.read.1 s.read.2 := by
  cases taken : s.refill.taken with
  | cons item rest => simpa only [read, taken] using Reads.item item rest taken
  | nil =>
    cases writing : s.refill.writing with
    | true => simpa [read, taken, writing] using Reads.pending taken writing
    | false => simpa [read, taken, writing] using Reads.ended taken writing

/-- What a write does: it is taken exactly if the reader is there and there is room. -/
inductive Writes (s : Stream) (item : Item) : Written → Stream → Prop where
  | accepted (reader : s.reading = true) (room : s.buffer.length < s.capacity) :
      Writes s item .accepted { s with buffer := s.buffer ++ [item] }
  | full (reader : s.reading = true) (full : s.capacity ≤ s.buffer.length) : Writes s item .full s
  | closed (gone : s.reading = false) : Writes s item .closed s

theorem write_writes (s : Stream) (item : Item) :
    Writes s item (s.write item).1 (s.write item).2 := by
  unfold write
  split
  · rename_i gone
    exact .closed (by simpa using gone)
  · rename_i reader
    have reader : s.reading = true := by simpa using reader
    split
    · rename_i full
      exact .full reader full
    · rename_i room
      exact .accepted reader (by omega)

end Stream

/-! ### Relays -/

namespace Relay

/-- The phase of a relay that the queue has answered. -/
def answered : IngressQueue.Answer → Phase
  | .payload payload => .holding payload
  | .closed => .ended (.error .sourceClosed)
  | .pending => .waiting

/-- The steps of a relay that writes to a stream. -/
inductive Goes (device : String) (call : Nat) : State Nat Stream → State Nat Stream → Prop where
  | leave {q : IngressQueue Nat} {s : Stream} (gone : s.reading = false) :
      Goes device call ⟨q, s, .ready⟩ ⟨q, s, .ended (.error .streamClosed)⟩
  | ask {q : IngressQueue Nat} {s : Stream} (reader : s.reading = true) :
      Goes device call ⟨q, s, .ready⟩ ⟨(q.start call).2, s, answered (q.start call).1⟩
  | giveUp {q : IngressQueue Nat} {s : Stream} (gone : s.reading = false) :
      Goes device call ⟨q, s, .waiting⟩ ⟨q.cancel call, s, .ended (.error .streamClosed)⟩
  | receive {q : IngressQueue Nat} {s : Stream} (reader : s.reading = true)
      (ready : (q.poll call).1 ≠ .pending) :
      Goes device call ⟨q, s, .waiting⟩ ⟨(q.poll call).2, s, answered (q.poll call).1⟩
  | write {q : IngressQueue Nat} {s : Stream} (payload : Bytes) (reader : s.reading = true)
      (room : s.buffer.length < s.capacity) :
      Goes device call ⟨q, s, .holding payload⟩
        ⟨q, { s with buffer := s.buffer ++ [.frame ⟨device, payload⟩] }, .ready⟩
  | refused {q : IngressQueue Nat} {s : Stream} (payload : Bytes) (gone : s.reading = false) :
      Goes device call ⟨q, s, .holding payload⟩ ⟨q, s, .ended (.error .streamClosed)⟩

theorem receive_value (device : String) (sink : Stream)
    (answer : IngressQueue.Answer × IngressQueue Nat) (v : Verbosity) :
    (receive device sink answer).value v = ⟨answer.2, sink, answered answer.1⟩ := by
  obtain ⟨answer, queue⟩ := answer
  cases answer <;> rfl

theorem step_goes {device : String} {call : Nat} {s after : State Nat Stream} {v : Verbosity}
    (h : (step device streamSink call s).value v = some after) : Goes device call s after := by
  obtain ⟨q, stream, phase⟩ := s
  cases phase with
  | ready =>
    cases reader : stream.reading with
    | false =>
      simp only [step, streamSink, reader, Bool.not_false, ↓reduceIte] at h
      obtain rfl := Option.some.inj h
      exact .leave reader
    | true =>
      simp only [step, streamSink, reader, Bool.not_true, Bool.false_eq_true, ↓reduceIte,
        Traced.value_bind, Traced.value_pure, receive_value] at h
      obtain rfl := Option.some.inj h
      exact .ask reader
  | waiting =>
    cases reader : stream.reading with
    | false =>
      simp only [step, streamSink, reader, Bool.not_false, ↓reduceIte] at h
      obtain rfl := Option.some.inj h
      exact .giveUp reader
    | true =>
      simp only [step, streamSink, reader, Bool.not_true, Bool.false_eq_true, ↓reduceIte] at h
      split at h
      · cases h
      · rename_i blocked
        simp only [Traced.value_bind, Traced.value_pure, receive_value] at h
        obtain rfl := Option.some.inj h
        exact .receive reader fun same => blocked (q.poll call).2 (Prod.ext same rfl)
  | holding payload =>
    simp only [step, streamSink] at h
    have writes := stream.write_writes (.frame ⟨device, payload⟩)
    generalize stream.write (.frame ⟨device, payload⟩) = outcome at writes h
    obtain ⟨written, next⟩ := outcome
    simp only at writes h
    cases writes with
    | accepted reader room =>
      obtain rfl := Option.some.inj h
      exact .write payload reader room
    | full reader full => cases h
    | closed gone =>
      obtain rfl := Option.some.inj h
      exact .refused payload gone
  | ended result => cases h

end Relay

/-! ### Forwards -/

namespace Terminal

/-- The steps of a forward. -/
inductive Goes (t : Terminal) : Forward → Forward → Terminal → Prop where
  | sent (frame : Frame) :
      Goes t (.begun egressPort frame) (.done (.ok ()))
        { t with
          counters := (t.counters.count .nni .rx frame.length).count .pon .tx frame.length }
  | unknown (port : Int32) (frame : Frame) (apart : port ≠ egressPort)
      (absent : t.registry.find? port = none) :
      Goes t (.begun port frame) (.done (.error (.portNotFound port))) t
  | arrived (port : Int32) (frame : Frame) (child : Location) (apart : port ≠ egressPort)
      (present : t.registry.find? port = some child) :
      Goes t (.begun port frame) (.queueing port frame)
        { t with counters := t.counters.count .pon .rx frame.length }
  | queued (port : Int32) (frame : Frame) (producer : t.queue.isOpen = true)
      (room : t.queue.payloads.length < t.queue.capacity) :
      Goes t (.queueing port frame) (.counting frame.length)
        { t with queue := { t.queue with payloads := t.queue.payloads ++ [frame.payload] } }
  | dropped (port : Int32) (frame : Frame) (producer : t.queue.isOpen = true)
      (full : t.queue.capacity ≤ t.queue.payloads.length) :
      Goes t (.queueing port frame) (.done (.error .queueFull)) t
  | refused (port : Int32) (frame : Frame) (gone : t.queue.isOpen = false) :
      Goes t (.queueing port frame) (.done (.error .channelClosed)) t
  | counted (length : Nat) :
      Goes t (.counting length) (.done (.ok ()))
        { t with counters := t.counters.count .nni .tx length }
  | rest (result : Except DeviceError Unit) : Goes t (.done result) (.done result) t

theorem step_goes (t : Terminal) (f : Forward) (v : Verbosity) :
    Goes t f ((t.step f).value v).1 ((t.step f).value v).2 := by
  cases f with
  | begun port frame =>
    by_cases same : port = egressPort
    · subst same
      simpa [step] using Goes.sent (t := t) frame
    · cases found : t.registry.find? port with
      | none => simpa [step, same, found] using Goes.unknown port frame same found
      | some child => simpa [step, same, found] using Goes.arrived port frame child same found
  | queueing port frame =>
    have offered := t.queue.offer_offered frame.payload
    cases outcome : t.queue.offer frame.payload with
    | mk offer queue =>
      rw [outcome] at offered
      cases offered with
      | accepted producer room => simpa [step, outcome] using Goes.queued port frame producer room
      | full producer full => simpa [step, outcome] using Goes.dropped port frame producer full
      | closed gone => simpa [step, outcome] using Goes.refused port frame gone
  | counting length => exact .counted length
  | done result => exact .rest result

end Terminal

/-! ### The terminal and its tasks -/

namespace Headend

section Log
variable (i : Nat) (xs ys : List Note) (notes : List Session.Note)

@[simp] theorem about_nil : about i [] = [] := rfl

@[simp] theorem about_append : about i (xs ++ ys) = about i xs ++ about i ys :=
  List.filterMap_append

@[simp] theorem about_session : about i (notes.map (.session i)) = notes := by
  simp [about, Function.comp_def]

theorem about_session_other {j : Nat} (other : j ≠ i) : about i (notes.map (.session j)) = [] := by
  simp [about, other, Function.comp_def]

@[simp] theorem about_forward (f g : Forward) : about i (forwardNotes f g) = [] := by
  unfold forwardNotes
  split <;> rfl

end Log

/-- What a step does to the place of a session, and what is noted of that session. -/
inductive Place (v : Verbosity) (h : Headend) (act : Act) (i : Nat) :
    Option Session → List Session.Note → Prop where
  | kept : Place v h act i h.sessions[i]? []
  | opened (act_eq : act = .openStream) (last : h.sessions.length = i) :
      Place v h act i (some ⟨i, .ready, { capacity := max 1 h.settings.relayBuffer }⟩) []
  | moved (s : Session) (m : Session.Move) (act_eq : act = .session i m)
      (found : h.sessions[i]? = some s) :
      Place v h act i
        (some (s.move v h.terminal.location.address h.terminal.queue m).1)
        (s.move v h.terminal.location.address h.terminal.queue m).2.2

theorem step_place (v : Verbosity) (h : Headend) (act : Act) (i : Nat) :
    Place v h act i (h.step v act).1.sessions[i]? (about i (h.step v act).2) := by
  cases act with
  | arrive | closeIngress | install => exact .kept
  | forward index =>
    cases found : h.forwards[index]? with
    | none => simpa only [step, found, about_nil] using Place.kept
    | some f => simpa only [step, found, about_forward] using Place.kept
  | openStream =>
    by_cases valid : IngressQueue.validCapacity (max 1 h.settings.relayBuffer) = true
    · simp only [step, valid, ↓reduceIte, about_nil]
      rcases Nat.lt_trichotomy i h.sessions.length with before | last | beyond
      · rw [List.getElem?_append_left before]
        exact .kept
      · subst last
        rw [List.getElem?_append_right (Nat.le_refl _), Nat.sub_self]
        exact .opened rfl rfl
      · have none : h.sessions[i]? = none := List.getElem?_eq_none (Nat.le_of_lt beyond)
        rw [List.getElem?_eq_none (by simpa using Nat.succ_le_of_lt beyond), ← none]
        exact .kept
    · have same : Place v h .openStream i h.sessions[i]? [] := .kept
      simpa [step, valid] using same
  | session index m =>
    cases found : h.sessions[index]? with
    | none => simpa only [step, found, about_nil] using Place.kept
    | some s =>
      simp only [step, found]
      by_cases hit : index = i
      · subst hit
        rw [List.getElem?_set_self (List.getElem?_eq_some_iff.mp found).1, about_session]
        exact .moved s m rfl found
      · rw [List.getElem?_set_ne hit, about_session_other _ _ hit]
        exact .kept

end Headend
end OpticalAccess
