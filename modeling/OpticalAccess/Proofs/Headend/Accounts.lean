import OpticalAccess.Proofs.Headend.Steps

/-!
# The accounts of a session

A payload that a relay took is received by the controller of its stream, waits in the stream's
buffer, is held by the relay, or is gone with the controller. Every move of a session keeps this
balance, and with it the order of the payloads.
-/

namespace OpticalAccess

namespace Session

/-! ### The accounts of a session -/

def pulled (log : List Note) : List Bytes := log.filterMap Note.pulled?

def received (log : List Note) : List Bytes := log.filterMap Note.received?

def handed (log : List Note) : List Bytes := log.filterMap Note.handed?

def lost (log : List Note) : List Bytes := log.filterMap Note.lost?

section Accounts
variable (xs ys : List Note)

@[simp] theorem pulled_append : pulled (xs ++ ys) = pulled xs ++ pulled ys := List.filterMap_append

@[simp] theorem received_append : received (xs ++ ys) = received xs ++ received ys :=
  List.filterMap_append

@[simp] theorem handed_append : handed (xs ++ ys) = handed xs ++ handed ys := List.filterMap_append

@[simp] theorem lost_append : lost (xs ++ ys) = lost xs ++ lost ys := List.filterMap_append

/-! A list of notes of one kind shows in one account only. -/

theorem accounts_pulled (payloads : List Bytes) :
    pulled (payloads.map .pulled) = payloads ∧ received (payloads.map .pulled) = [] ∧
      handed (payloads.map .pulled) = [] ∧ lost (payloads.map .pulled) = [] := by
  simp [pulled, received, handed, lost, Function.comp_def]

theorem accounts_received (items : List Item) :
    pulled (items.map .received) = [] ∧ received (items.map .received) = Item.payloads items ∧
      handed (items.map .received) = [] ∧ lost (items.map .received) = [] := by
  simp [pulled, received, handed, lost, Item.payloads, Function.comp_def]

theorem accounts_handed (item : Item) :
    pulled [.handed item] = [] ∧ received [.handed item] = [] ∧
      handed [.handed item] = Item.payloads [item] ∧ lost [.handed item] = [] := by
  simp [pulled, received, handed, lost, Item.payloads, List.filterMap_cons]

theorem accounts_ended :
    pulled [.ended] = [] ∧ received [.ended] = [] ∧ handed [.ended] = [] ∧ lost [.ended] = [] :=
  ⟨rfl, rfl, rfl, rfl⟩

theorem accounts_lost (payloads : List Bytes) :
    pulled (payloads.map .lost) = [] ∧ received (payloads.map .lost) = [] ∧
      handed (payloads.map .lost) = [] ∧ lost (payloads.map .lost) = payloads := by
  simp [pulled, received, handed, lost, Function.comp_def]

end Accounts

/-- The accounts of a session balance: what its relay took is received, gone, buffered or held. -/
structure Balanced (log : List Note) (s : Session) : Prop where
  places : pulled log =
    received log ++ lost log ++ Item.payloads s.stream.buffer ++ s.held
  handed : handed log <+: received log
  present : s.stream.reading = true →
    lost log = [] ∧ received log = Session.handed log ++ Item.payloads s.stream.taken
  absent : s.stream.reading = false → s.stream.buffer = [] ∧ s.stream.taken = []
  room : s.stream.buffer.length ≤ s.stream.capacity
  loss : (lost log).length + s.held.length ≤ s.stream.capacity + 1

theorem held_answered (answer : IngressQueue.Answer) (call : Nat) (stream : Stream) :
    held ⟨call, Relay.answered answer, stream⟩ = answer.payloads := by
  cases answer <;> rfl

theorem relayNotes_answered {phase : Relay.Phase} (answer : IngressQueue.Answer)
    (idle : phase = .ready ∨ phase = .waiting) :
    relayNotes phase (Relay.answered answer) = answer.payloads.map .pulled := by
  rcases idle with rfl | rfl <;> cases answer <;> rfl

@[simp] theorem held_holding (call : Nat) (payload : Bytes) (stream : Stream) :
    held ⟨call, .holding payload, stream⟩ = [payload] := rfl

@[simp] theorem held_ended (call : Nat) (result : Except RelayError Unit) (stream : Stream) :
    held ⟨call, .ended result, stream⟩ = [] := rfl

@[simp] theorem held_stream (s : Session) (stream : Stream) : held { s with stream } = s.held := rfl

theorem length_held_le (s : Session) : s.held.length ≤ 1 := by
  unfold held
  split <;> simp

theorem Balanced.ask {log : List Note} {s : Session} (balanced : Balanced log s)
    (idle : s.phase = .ready ∨ s.phase = .waiting) (reader : s.stream.reading = true)
    (answer : IngressQueue.Answer) :
    Balanced (log ++ relayNotes s.phase (Relay.answered answer))
      { s with phase := Relay.answered answer } := by
  have free : s.held = [] := by rcases idle with idle | idle <;> simp [held, idle]
  have small : answer.payloads.length ≤ 1 := by cases answer <;> simp [IngressQueue.Answer.payloads]
  obtain ⟨places, inOrder, present, absent, room, loss⟩ := balanced
  obtain ⟨kept, whole⟩ := present reader
  obtain ⟨pulls, receipts, hands, losses⟩ := accounts_pulled answer.payloads
  rw [relayNotes_answered answer idle]
  refine ⟨?_, ?_, fun _ => ?_, absent, room, ?_⟩
  · simp [pulls, receipts, losses, held_answered, places, free]
  · simpa [receipts, hands] using inOrder
  · simp [losses, receipts, hands, kept, whole]
  · simp [losses, held_answered, kept]
    omega

theorem Balanced.rephase {log : List Note} {s : Session} (balanced : Balanced log s)
    {phase : Relay.Phase} (same : held { s with phase } = s.held) :
    Balanced log { s with phase } := by
  obtain ⟨places, inOrder, present, absent, room, loss⟩ := balanced
  refine ⟨?_, inOrder, present, absent, room, ?_⟩
  · rw [same]
    exact places
  · rw [same]
    exact loss

theorem Balanced.write {log : List Note} {call : Nat} {stream : Stream} {payload : Bytes}
    (balanced : Balanced log ⟨call, .holding payload, stream⟩) (device : String)
    (reader : stream.reading = true) (room : stream.buffer.length < stream.capacity) :
    Balanced log
      ⟨call, .ready, { stream with buffer := stream.buffer ++ [.frame ⟨device, payload⟩] }⟩ := by
  obtain ⟨places, inOrder, present, absent, _, loss⟩ := balanced
  refine ⟨?_, inOrder, present, fun gone => ?_, ?_, ?_⟩
  · simpa [held] using places
  · rw [reader] at gone
    cases gone
  · simpa using Nat.succ_le_of_lt room
  · exact Nat.le_trans (Nat.add_le_add_left (Nat.zero_le _) _) loss

theorem Balanced.refuse {log : List Note} {call : Nat} {stream : Stream} {payload : Bytes}
    (balanced : Balanced log ⟨call, .holding payload, stream⟩) (gone : stream.reading = false)
    (result : Except RelayError Unit) :
    Balanced (log ++ [.lost payload]) ⟨call, .ended result, stream⟩ := by
  obtain ⟨places, inOrder, _, absent, room, loss⟩ := balanced
  obtain ⟨pulls, receipts, hands, losses⟩ := accounts_lost [payload]
  simp only [List.map_cons, List.map_nil] at pulls receipts hands losses
  have empty := (absent gone).1
  simp only at empty
  simp only [empty] at places
  refine ⟨?_, ?_, fun reader => ?_, absent, room, ?_⟩
  · simpa [pulls, receipts, losses, empty] using places
  · simpa [receipts, hands] using inOrder
  · rw [gone] at reader
    cases reader
  · simpa [losses] using loss

theorem Balanced.receive {log : List Note} {s : Session} (balanced : Balanced log s)
    {items rest : List Item} (moved : s.stream.buffer = items ++ rest) :
    Balanced (log ++ items.map .received)
      { s with stream := { s.stream with buffer := rest, taken := s.stream.taken ++ items } } := by
  obtain ⟨places, inOrder, present, absent, room, loss⟩ := balanced
  obtain ⟨pulls, receipts, hands, losses⟩ := accounts_received items
  rw [moved] at places room absent
  -- With items in the buffer, the controller has not gone, and nothing is lost yet.
  have early : items ≠ [] → lost log = [] := by
    intro some
    refine (present ?_).1
    cases reader : s.stream.reading with
    | true => rfl
    | false => exact absurd (List.append_eq_nil_iff.mp (absent reader).1).1 some
  refine ⟨?_, ?_, fun reader => ?_, fun gone => ?_, ?_, ?_⟩
  · by_cases none : items = []
    · simpa [pulls, receipts, losses, none] using places
    · simpa [pulls, receipts, losses, early none] using places
  · simpa [receipts, hands] using inOrder.trans (List.prefix_append _ _)
  · obtain ⟨kept, whole⟩ := present reader
    simp [receipts, hands, losses, kept, whole]
  · obtain ⟨buffer, taken⟩ := absent gone
    simpa [taken, and_comm] using buffer
  · simp only [List.length_append] at room
    exact Nat.le_trans (Nat.le_add_left _ _) room
  · simpa [losses] using loss

theorem Balanced.hand {log : List Note} {s : Session} (balanced : Balanced log s)
    {item : Item} {rest : List Item} (next : s.stream.taken = item :: rest) :
    Balanced (log ++ [.handed item]) { s with stream := { s.stream with taken := rest } } := by
  obtain ⟨places, inOrder, present, absent, room, loss⟩ := balanced
  obtain ⟨pulls, receipts, hands, losses⟩ := accounts_handed item
  have split : Item.payloads s.stream.taken = Item.payloads [item] ++ Item.payloads rest := by
    rw [next, ← Item.payloads_append, List.singleton_append]
  have reader : s.stream.reading = true := by
    cases reader : s.stream.reading with
    | true => rfl
    | false => simp [(absent reader).2] at next
  obtain ⟨kept, whole⟩ := present reader
  rw [split, ← List.append_assoc] at whole
  refine ⟨?_, ?_, fun _ => ?_, fun gone => ?_, room, ?_⟩
  · simpa [pulls, receipts, losses] using places
  · simp only [handed_append, hands, received_append, receipts, List.append_nil, whole]
    exact List.prefix_append _ _
  · simp [receipts, hands, losses, kept, whole]
  · rw [reader] at gone
    cases gone
  · simpa [losses] using loss

theorem Balanced.drop {log : List Note} {s : Session} (balanced : Balanced log s) :
    Balanced (log ++ (Item.payloads s.stream.buffer).map .lost)
      { s with stream := s.stream.drop } := by
  obtain ⟨places, inOrder, present, absent, room, loss⟩ := balanced
  obtain ⟨pulls, receipts, hands, losses⟩ := accounts_lost (Item.payloads s.stream.buffer)
  refine ⟨?_, ?_, fun reader => ?_, fun _ => ⟨rfl, rfl⟩, Nat.zero_le _, ?_⟩
  · simpa [pulls, receipts, losses, Stream.drop] using places
  · simpa [receipts, hands] using inOrder
  · cases reader
  · have free := length_held_le s
    have few := Item.length_payloads_le s.stream.buffer
    simp only [lost_append, losses, List.length_append, held_stream, Stream.drop]
    cases reader : s.stream.reading with
    | true =>
      rw [(present reader).1]
      simp only [List.length_nil]
      omega
    | false =>
      rw [(absent reader).1]
      simpa using loss

theorem Balanced.report {log : List Note} {s : Session} (balanced : Balanced log s) :
    Balanced log s.report ∧ s.report.stream.capacity = s.stream.capacity := by
  obtain ⟨places, inOrder, present, absent, room, loss⟩ := balanced
  unfold Session.report
  split
  · exact ⟨⟨places, inOrder, present, absent, room, loss⟩, rfl⟩
  · rename_i error _
    have writes := s.stream.write_writes (.status error.status)
    generalize s.stream.write (.status error.status) = outcome at writes
    obtain ⟨written, next⟩ := outcome
    cases writes with
    | accepted reader free =>
      refine ⟨⟨?_, inOrder, present, fun gone => ?_, ?_, loss⟩, rfl⟩
      · simpa [Stream.finish, held] using places
      · exact absurd (reader.symm.trans gone) (by decide)
      · simpa [Stream.finish] using Nat.succ_le_of_lt free
    | full _ _ => exact ⟨⟨places, inOrder, present, absent, room, loss⟩, rfl⟩
    | closed _ => exact ⟨⟨places, inOrder, present, absent, room, loss⟩, rfl⟩
  · exact ⟨⟨places, inOrder, present, absent, room, loss⟩, rfl⟩

theorem Balanced.finish {log : List Note} {s : Session} (balanced : Balanced log s) :
    Balanced (log ++ [.ended]) s := by
  obtain ⟨places, inOrder, present, absent, room, loss⟩ := balanced
  obtain ⟨pulls, receipts, hands, losses⟩ := accounts_ended
  refine ⟨?_, ?_, ?_, absent, room, ?_⟩
  · simpa [pulls, receipts, losses] using places
  · simpa [receipts, hands] using inOrder
  · simpa [receipts, hands, losses] using present
  · simpa [losses] using loss

theorem Balanced.read {log : List Note} {s : Session} (balanced : Balanced log s) :
    Balanced (log ++ readNotes s.stream) { s with stream := s.stream.read.2 } ∧
      s.stream.read.2.capacity = s.stream.capacity ∧ pulled (readNotes s.stream) = [] := by
  obtain ⟨items, moved, refilled⟩ := s.stream.refill_moves
  have fresh : s.stream.refill.taken.drop s.stream.taken.length = items := by
    rw [refilled]
    exact List.drop_left
  have capacity : s.stream.refill.capacity = s.stream.capacity := by rw [refilled]
  have after := balanced.receive moved
  rw [← refilled] at after
  have reads := s.stream.read_reads
  have pulls := (accounts_received items).1
  unfold readNotes
  rw [fresh]
  generalize s.stream.read = outcome at reads
  generalize s.stream.refill = filled at after reads capacity
  obtain ⟨result, next⟩ := outcome
  cases reads with
  | item item rest found =>
    have handed := after.hand found
    rw [List.append_assoc] at handed
    exact ⟨handed, capacity, by simp [pulls, (accounts_handed item).1]⟩
  | pending => exact ⟨by simpa using after, capacity, by simpa using pulls⟩
  | ended =>
    have ended := after.finish
    rw [List.append_assoc] at ended
    exact ⟨ended, capacity, by simp [pulls, accounts_ended.1]⟩

theorem Balanced.relay {log : List Note} {s : Session} (balanced : Balanced log s)
    {address : String} {q : IngressQueue Nat} {after : Relay.State Nat Stream}
    (goes : Relay.Goes address s.call ⟨q, s.stream, s.phase⟩ after) :
    Balanced (log ++ relayNotes s.phase after.phase)
        { s with phase := after.phase, stream := after.sink } ∧
      after.sink.capacity = s.stream.capacity ∧
      q.payloads = pulled (relayNotes s.phase after.phase) ++ after.queue.payloads := by
  obtain ⟨call, phase, stream⟩ := s
  cases goes with
  | leave gone | giveUp gone =>
    have left : Balanced log ⟨call, .ended (.error .streamClosed), stream⟩ := balanced.rephase rfl
    exact ⟨by simpa [relayNotes] using left, rfl, rfl⟩
  | ask reader =>
    have asked := balanced.ask (.inl rfl) reader (q.start call).1
    have pulls := (accounts_pulled (q.start call).1.payloads).1
    refine ⟨asked, rfl, ?_⟩
    rw [relayNotes_answered _ (.inl rfl), pulls]
    exact q.start_payloads call
  | receive reader ready =>
    have asked := balanced.ask (.inr rfl) reader (q.poll call).1
    have pulls := (accounts_pulled (q.poll call).1.payloads).1
    refine ⟨asked, rfl, ?_⟩
    rw [relayNotes_answered _ (.inr rfl), pulls]
    exact q.poll_payloads call
  | write payload reader room =>
    exact ⟨by simpa [relayNotes] using balanced.write address reader room, rfl, rfl⟩
  | refused payload gone => exact ⟨balanced.refuse gone _, rfl, rfl⟩

/--
A move keeps the accounts of its session balanced, and what its relay takes is what the queue hands
over, oldest first.
-/
theorem move_balanced {log : List Note} {s : Session} (balanced : Balanced log s) (v : Verbosity)
    (address : String) (q : IngressQueue Nat) (m : Move) :
    Balanced (log ++ (s.move v address q m).2.2) (s.move v address q m).1 ∧
      (s.move v address q m).1.stream.capacity = s.stream.capacity ∧
      q.payloads = pulled (s.move v address q m).2.2 ++ (s.move v address q m).2.1.payloads := by
  cases m with
  | relay =>
    cases moved : (Relay.step address Relay.streamSink s.call ⟨q, s.stream, s.phase⟩).value v with
    | none => simpa [move, moved, pulled] using balanced
    | some after => simpa only [move, moved] using balanced.relay (Relay.step_goes moved)
  | report =>
    simp only [move, List.append_nil]
    split
    · exact ⟨balanced.report.1, balanced.report.2, rfl⟩
    · exact ⟨balanced, rfl, rfl⟩
  | fetch =>
    have fetched := balanced.receive (List.take_append_drop 1 s.stream.buffer).symm
    have pulls := (accounts_received (s.stream.buffer.take 1)).1
    exact ⟨fetched, rfl, by simp only [move, pulls, List.nil_append]⟩
  | read =>
    obtain ⟨after, capacity, pulls⟩ := balanced.read
    exact ⟨after, capacity, by simp only [move, pulls, List.nil_append]⟩
  | drop =>
    have pulls := (accounts_lost (Item.payloads s.stream.buffer)).1
    exact ⟨balanced.drop, rfl, by simp only [move, pulls, List.nil_append]⟩

theorem opened_balanced (call capacity : Nat) : Balanced [] ⟨call, .ready, { capacity }⟩ :=
  ⟨rfl, List.nil_prefix, fun _ => ⟨rfl, rfl⟩, fun _ => ⟨rfl, rfl⟩, Nat.zero_le _, Nat.zero_le _⟩

/-! ### After the controller went away -/

theorem move_gone {log : List Note} {s : Session} (balanced : Balanced log s)
    (gone : s.stream.reading = false) (v : Verbosity) (address : String) (q : IngressQueue Nat)
    (m : Move) :
    (s.move v address q m).1.stream.reading = false ∧
      pulled (s.move v address q m).2.2 = [] ∧ received (s.move v address q m).2.2 = [] := by
  obtain ⟨buffer, taken⟩ := balanced.absent gone
  cases m with
  | relay =>
    cases moved : (Relay.step address Relay.streamSink s.call ⟨q, s.stream, s.phase⟩).value v with
    | none => exact ⟨by simpa only [move, moved] using gone, by simp [move, moved, pulled, received]⟩
    | some after =>
      have goes := Relay.step_goes moved
      simp only [move, moved]
      obtain ⟨call, phase, stream⟩ := s
      cases goes with
      | leave | giveUp => exact ⟨gone, rfl, rfl⟩
      | refused payload => exact ⟨gone, rfl, rfl⟩
      | ask reader | receive reader | write payload reader =>
        rw [gone] at reader
        cases reader
  | report =>
    refine ⟨?_, rfl, rfl⟩
    simp only [move]
    split
    · unfold Session.report Stream.write
      simp only [gone, Bool.not_false, ↓reduceIte]
      split <;> exact gone
    · exact gone
  | fetch => exact ⟨gone, by simp [move, buffer, pulled, received]⟩
  | read =>
    obtain ⟨call, phase, capacity, items, inHand, writing, reading⟩ := s
    simp only at gone buffer taken
    subst gone buffer taken
    cases writing <;> exact ⟨rfl, rfl, rfl⟩
  | drop => exact ⟨rfl, by simp [move, buffer, pulled, received]⟩

end Session

end OpticalAccess
