import OpticalAccess.Proofs.Receiver.Mirror

/-!
# Every payload is delivered once

Payloads go to the calls in the order in which the producer sent them, whichever calls start, wait
and are dropped. A call that is dropped takes no payload along, wherever it waited, and leaves the
others in their order. Once a call has been told that nothing more comes, every later call is.
-/

namespace OpticalAccess.Receiver
open IngressQueue (Answer Polled)

/-! ### Answers -/

theorem Fit.polled {r : Receiver} (fit : r.Fit) (call : Nat) :
    Polled r.queue call (r.poll call).1 (r.poll call).2.queue := by
  obtain ⟨answer, after, -⟩ := fit.poll call
  rw [answer, after]
  exact r.queue.poll_polled call

/-- A call that starts is polled as the last in line. -/
theorem Fit.started {r : Receiver} (fit : r.Fit) :
    Polled { r.queue with line := r.lock.line ++ [r.calls.length] } r.calls.length
      r.start.1 r.start.2.queue := by
  obtain ⟨answer, after, -⟩ := fit.start
  rw [answer, after]
  exact IngressQueue.poll_polled _ _

theorem answer_accounts (call : Nat) (answer : Answer) :
    accepted (answerNotes call answer) = [] ∧
      returned (answerNotes call answer) = answer.payloads := by
  cases answer <;> simp [answerNotes, accepted, returned, Answer.payloads]

/-! ### Payloads in order -/

/-- The payloads that were sent have been handed out in order or are still in the channel. -/
structure Delivered (capacity : Nat) (log : List Note) (r : Receiver) : Prop where
  fit : r.Fit
  order : accepted log = returned log ++ r.channel.payloads
  size : r.channel.capacity = capacity
  room : r.channel.payloads.length ≤ capacity

theorem new_delivered (capacity : Nat) : Delivered capacity [] (new capacity) :=
  ⟨new_fit capacity, rfl, rfl, Nat.zero_le _⟩

section Steps
variable {capacity : Nat} {log : List Note} {r : Receiver}

theorem Delivered.answer (delivered : Delivered capacity log r) {after : Receiver}
    (fit : after.Fit) {q : IngressQueue Nat} {call : Nat} {answer : Answer}
    (same : q.payloads = r.channel.payloads ∧ q.capacity = r.channel.capacity)
    (polled : Polled q call answer after.queue) :
    Delivered capacity (log ++ answerNotes call answer) after := by
  obtain ⟨payloads, size, -⟩ := polled.payloads
  obtain ⟨sent, returns⟩ := answer_accounts call answer
  rw [same.1] at payloads
  refine ⟨fit, ?_, size.trans (same.2.trans delivered.size), ?_⟩
  · rw [accepted_append, returned_append, sent, returns, List.append_nil, List.append_assoc,
      delivered.order, payloads]
    rfl
  · have room := delivered.room
    rw [payloads, List.length_append] at room
    exact Nat.le_trans (Nat.le_add_left _ _) room

theorem drop_channel (r : Receiver) (call : Nat) : (r.drop call).channel = r.channel := by
  unfold drop
  split <;> rfl

theorem step_offer (r : Receiver) (bytes : Bytes) :
    (r.channel.isOpen = true ∧ r.channel.payloads.length < r.channel.capacity ∧
      r.step (.offer bytes) =
        ({ r with channel := { r.channel with payloads := r.channel.payloads ++ [bytes] } },
          [.accepted bytes])) ∨
    ((r.channel.isOpen = false ∨ r.channel.capacity ≤ r.channel.payloads.length) ∧
      r.step (.offer bytes) = (r, [])) := by
  unfold step Channel.offer
  cases producer : r.channel.isOpen with
  | false => exact .inr ⟨.inl rfl, rfl⟩
  | true =>
    by_cases room : r.channel.payloads.length < r.channel.capacity
    · exact .inl ⟨rfl, room, by simp [room, producer]⟩
    · exact .inr ⟨.inr (Nat.not_lt.mp room), by simp [room]⟩

theorem step_delivered (delivered : Delivered capacity log r) (act : Act) :
    Delivered capacity (log ++ (r.step act).2) (r.step act).1 := by
  have fit := step_fit delivered.fit act
  cases act with
  | offer bytes =>
    rcases r.step_offer bytes with ⟨-, room, stepped⟩ | ⟨-, stepped⟩
    · rw [stepped] at fit ⊢
      rw [delivered.size] at room
      refine ⟨fit, ?_, delivered.size, ?_⟩
      · have accounts : accepted [.accepted bytes] = [bytes] ∧ returned [.accepted bytes] = [] :=
          ⟨rfl, rfl⟩
        simp only [accepted_append, returned_append, accounts, delivered.order, List.append_nil,
          List.append_assoc]
      · simpa using Nat.succ_le_of_lt room
    · rw [stepped, List.append_nil]
      exact delivered
  | close =>
    rw [step, List.append_nil]
    exact ⟨fit, delivered.order, delivered.size, delivered.room⟩
  | start =>
    -- The note that a call started is in neither account.
    obtain ⟨fit, order, size, room⟩ := delivered.answer fit ⟨rfl, rfl⟩ delivered.fit.started
    rw [accepted_append, returned_append] at order
    refine ⟨fit, ?_, size, room⟩
    rw [accepted_append, returned_append]
    exact order
  | poll call => exact delivered.answer fit ⟨rfl, rfl⟩ (delivered.fit.polled call)
  | drop call =>
    have quiet : accepted (r.step (.drop call)).2 = [] ∧ returned (r.step (.drop call)).2 = [] := by
      simp only [step]
      split <;> exact ⟨rfl, rfl⟩
    have channel := r.drop_channel call
    refine ⟨fit, ?_, ?_, ?_⟩
    · rw [accepted_append, returned_append, quiet.1, quiet.2, List.append_nil, List.append_nil,
        delivered.order, step, channel]
    · rw [step, channel]
      exact delivered.size
    · rw [step, channel]
      exact delivered.room

end Steps

theorem run_delivered {capacity : Nat} {log : List Note} {r : Receiver}
    (delivered : Delivered capacity log r) (acts : List Act) :
    Delivered capacity (log ++ (r.run acts).2) (r.run acts).1 := by
  induction acts generalizing log r with
  | nil => simpa [run] using delivered
  | cons act rest ih =>
    have after := ih (step_delivered delivered act)
    rwa [List.append_assoc] at after

/-! ### The end of the payloads -/

/-- Nothing is in the channel, and nothing more comes. -/
def Drained (r : Receiver) : Prop := r.channel.isOpen = false ∧ r.channel.payloads = []

theorem mem_answerNotes {call other : Nat} {answer given : Answer}
    (member : .answered other given ∈ answerNotes call answer) :
    other = call ∧ given = answer ∧ answer ≠ .pending := by
  cases answer <;> simp_all [answerNotes]

/-- Only a poll has an answer to note: of the call itself, or of one that has just started. -/
theorem Fit.answered {r : Receiver} (fit : r.Fit) {act : Act} {call : Nat} {answer : Answer}
    (member : .answered call answer ∈ (r.step act).2) :
    ∃ q after, q.payloads = r.channel.payloads ∧ q.isOpen = r.channel.isOpen ∧
      Polled q call answer after ∧ answer ≠ .pending := by
  cases act with
  | offer bytes =>
    rcases r.step_offer bytes with ⟨-, -, stepped⟩ | ⟨-, stepped⟩ <;> simp [stepped] at member
  | close => cases member
  | start =>
    rcases List.mem_cons.mp member with start | member
    · cases start
    · obtain ⟨rfl, rfl, ready⟩ := mem_answerNotes member
      exact ⟨_, _, rfl, rfl, fit.started, ready⟩
  | poll asker =>
    obtain ⟨rfl, rfl, ready⟩ := mem_answerNotes member
    exact ⟨_, _, rfl, rfl, fit.polled call, ready⟩
  | drop other =>
    simp only [step] at member
    split at member <;> simp at member

theorem polled_drained {q : IngressQueue Nat} {call : Nat} {answer : Answer} {after : Receiver}
    (gone : q.isOpen = false) (empty : q.payloads = [])
    (polled : Polled q call answer after.queue) : after.Drained := by
  obtain ⟨payloads, -, producer⟩ := polled.payloads
  rw [empty] at payloads
  exact ⟨producer.trans gone, (List.append_eq_nil_iff.mp payloads.symm).2⟩

theorem step_drained {r : Receiver} (fit : r.Fit) (drained : r.Drained) (act : Act) :
    (r.step act).1.Drained := by
  obtain ⟨gone, empty⟩ := drained
  cases act with
  | offer bytes =>
    rcases r.step_offer bytes with ⟨producer, -, -⟩ | ⟨-, stepped⟩
    · exact absurd (gone.symm.trans producer) (by decide)
    · rw [stepped]
      exact ⟨gone, empty⟩
  | close => exact ⟨rfl, empty⟩
  | start => exact polled_drained gone empty fit.started
  | poll call => exact polled_drained gone empty (fit.polled call)
  | drop call =>
    simp only [step, Drained, drop_channel]
    exact ⟨gone, empty⟩

/-- With no payload to be had, an answer can only be that nothing more comes. -/
theorem closed_of_drained {r : Receiver} (fit : r.Fit) (drained : r.Drained) {act : Act}
    {call : Nat} {answer : Answer} (member : .answered call answer ∈ (r.step act).2) :
    answer = .closed := by
  obtain ⟨q, after, payloads, -, polled, ready⟩ := fit.answered member
  rw [drained.2] at payloads
  cases polled with
  | payload _ _ _ _ content => cases payloads.symm.trans content
  | closed => rfl
  | idle | behind => exact absurd rfl ready

theorem drained_of_closed {r : Receiver} (fit : r.Fit) {act : Act} {call : Nat}
    (told : .answered call .closed ∈ (r.step act).2) : r.Drained := by
  obtain ⟨q, after, payloads, producer, polled, -⟩ := fit.answered told
  cases polled with
  | closed _ _ empty gone => exact ⟨producer ▸ gone, payloads ▸ empty⟩

theorem run_drained {r : Receiver} (fit : r.Fit) (drained : r.Drained) (acts : List Act) :
    ∀ call answer, .answered call answer ∈ (r.run acts).2 → answer = .closed := by
  induction acts generalizing r with
  | nil => exact fun _ _ member => by cases member
  | cons act rest ih =>
    intro call answer member
    rcases List.mem_append.mp member with now | later
    · exact closed_of_drained fit drained now
    · exact ih (step_fit fit act) (step_drained fit drained act) call answer later

/-! ### Delivery -/

theorem Delivered.full_iff {capacity : Nat} {log : List Note} {r : Receiver}
    (delivered : Delivered capacity log r) (bytes : Bytes) :
    (r.channel.offer bytes).1 = .full ↔
      r.channel.isOpen = true ∧ r.channel.payloads.length = capacity := by
  have room := delivered.room
  rw [← delivered.size] at room ⊢
  unfold Channel.offer
  cases producer : r.channel.isOpen with
  | false => simp
  | true =>
    by_cases free : r.channel.payloads.length < r.channel.capacity
    · simp [free, Nat.ne_of_lt free]
    · simp only [Bool.not_true, Bool.false_eq_true, free, ↓reduceIte, true_and, true_iff]
      omega

theorem Fit.drop_line {r : Receiver} (fit : r.Fit) (call : Nat) :
    (r.drop call).lock.line = r.lock.line.filter (· != call) := by
  have line := congrArg IngressQueue.line (fit.drop call).1
  exact line.trans (fit.nodup.erase_eq_filter call)

/--
Calls that share a receiver get the payloads in the order in which they were sent, each once, and
the others are still in the channel, which refuses a payload for want of room exactly when it is
full. That nothing more comes is told only when the producer is gone and the channel is empty, and
then to everybody who asks. Dropping a call takes nothing out of the channel and only this call out
of the line. All this is what the queue with a line of calls shows.
-/
theorem payloads_delivered_once (capacity : Nat) (acts : List Act) :
    let r := ((new capacity).run acts).1
    let log := ((new capacity).run acts).2
    accepted log = returned log ++ r.channel.payloads ∧
      r.channel.payloads.length ≤ capacity ∧
      (∀ bytes, (r.channel.offer bytes).1 = .full ↔
        r.channel.isOpen = true ∧ r.channel.payloads.length = capacity) ∧
      (∀ act call, .answered call .closed ∈ (r.step act).2 → r.Drained ∧
        ∀ later other answer, .answered other answer ∈ ((r.step act).1.run later).2 →
          answer = .closed) ∧
      (∀ call, (r.drop call).channel = r.channel ∧
        (r.drop call).lock.line = r.lock.line.filter (· != call)) ∧
      r.Mirrored := by
  intro r log
  have delivered : Delivered capacity log r := run_delivered (new_delivered capacity) acts
  refine ⟨delivered.order, delivered.room, delivered.full_iff, fun act call told => ?_,
    fun call => ⟨r.drop_channel call, delivered.fit.drop_line call⟩, delivered.fit.mirrored⟩
  have drained := drained_of_closed delivered.fit told
  refine ⟨drained, ?_⟩
  exact run_drained (step_fit delivered.fit act) (step_drained delivered.fit drained act)

end OpticalAccess.Receiver
