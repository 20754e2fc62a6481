import OpticalAccess.Proofs.Headend.Steps
import OpticalAccess.Proofs.Receiver.Basic

/-!
# The queue that a receiver shows

Whatever calls do, the receiver and the queue that it shows give the same answers and stay in step.
A call that has the lock in hand, one that was given it and does not know, and the calls behind are
all told apart by the receiver; to the queue they are a line.
-/

namespace OpticalAccess
open IngressQueue (Answer)

/-! ### The lock -/

namespace Lock

/-- The lock is free only if nobody waits for it. -/
def Handed (l : Lock) : Prop := l.owner = none → l.waiting = []

theorem line_of_owner {l : Lock} {call : Nat} (owner : l.owner = some call) :
    l.line = call :: l.waiting := by
  simp [line, owner]

theorem Handed.head? {l : Lock} (handed : l.Handed) : l.line.head? = l.owner := by
  unfold line
  cases owner : l.owner with
  | none => simp [handed owner]
  | some call => rfl

theorem ask_line {l : Lock} (handed : l.Handed) (call : Nat) :
    (l.ask call).line = l.line ++ [call] ∧ (l.ask call).Handed := by
  unfold ask
  cases owner : l.owner with
  | none => simp [line, owner, handed owner, Handed]
  | some first => simp [line, owner, Handed]

theorem release_line (l : Lock) : l.release.line = l.waiting ∧ l.release.Handed := by
  unfold release
  cases l.waiting <;> simp [line, Handed]

theorem abandon_line {l : Lock} (handed : l.Handed) (call : Nat) :
    (l.abandon call).line = l.line.erase call ∧ (l.abandon call).Handed := by
  unfold abandon
  split
  · rename_i owner
    rw [line_of_owner owner, List.erase_cons_head]
    exact l.release_line
  · rename_i other
    refine ⟨?_, fun free => by simp [handed free]⟩
    cases owner : l.owner with
    | none => simp [line, owner, handed owner]
    | some first =>
      have apart : (first == call) = false := by
        rw [owner] at other
        simpa using other
      simp [line, owner, apart]

end Lock

/-! ### The receiver -/

namespace Receiver

/-- The lock knows the calls that are pending, and only its owner can have it in hand. -/
structure Fit (r : Receiver) : Prop where
  handed : r.lock.Handed
  nodup : r.lock.line.Nodup
  pending : ∀ call, call ∈ r.lock.line ↔ r.isPending call = true
  inHand : ∀ call, r.calls[call]? = some .receiving → r.lock.owner = some call

theorem new_fit (capacity : Nat) : (new capacity).Fit where
  handed _ := rfl
  nodup := List.nodup_nil
  pending call := by simp [new, Lock.line, isPending]
  inHand call found := by simp [new] at found

theorem isPending_set {r : Receiver} {call : Nat} (inside : call < r.calls.length) (c : Call)
    (other : Nat) (lock : Lock) (channel : Channel) :
    isPending ⟨channel, lock, r.calls.set call c⟩ other =
      if other = call then c.isPending else r.isPending other := by
  unfold isPending
  by_cases same : other = call
  · subst same
    simp [inside]
  · simp [same, List.getElem?_set_ne (Ne.symm same)]

theorem length_of_pending {r : Receiver} {call : Nat} (pending : r.isPending call = true) :
    call < r.calls.length := by
  rcases Nat.lt_or_ge call r.calls.length with inside | beyond
  · exact inside
  · rw [isPending, List.getElem?_eq_none beyond] at pending
    cases pending

/-- A call that is over leaves the lock to the others. -/
theorem Fit.leave {r : Receiver} (fit : r.Fit) {call : Nat} (pending : r.isPending call = true)
    {lock : Lock} (line : lock.line = r.lock.line.erase call) (handed : lock.Handed) {c : Call}
    (settled : c.isPending = false) (channel : Channel) :
    Fit ⟨channel, lock, r.calls.set call c⟩ := by
  have inside := length_of_pending pending
  refine ⟨handed, ?_, fun other => ?_, fun other found => ?_⟩
  · rw [line]
    exact fit.nodup.erase call
  · rw [isPending_set inside, line, fit.nodup.mem_erase_iff, fit.pending other]
    by_cases same : other = call <;> simp [same, settled]
  · by_cases same : other = call
    · subst same
      rw [List.getElem?_set_self inside] at found
      rw [Option.some.inj found] at settled
      cases settled
    · rw [List.getElem?_set_ne (Ne.symm same)] at found
      have owner := fit.inHand other found
      have kept : lock.line = other :: r.lock.waiting.erase call := by
        rw [line, Lock.line_of_owner owner, List.erase_cons_tail (by simpa using same)]
      rw [← handed.head?, kept]
      rfl

/-- What an attempt of the owner does: it is the poll of the first in the queue's line. -/
theorem Fit.attempt {r : Receiver} (fit : r.Fit) {call : Nat} (owner : r.lock.owner = some call) :
    (r.attempt call).1 = (r.queue.poll call).1 ∧ (r.attempt call).2.queue = (r.queue.poll call).2 ∧
      (r.attempt call).2.Fit := by
  have line := Lock.line_of_owner owner
  have pending : r.isPending call = true := by
    rw [← fit.pending, line]
    exact List.mem_cons_self
  have released : r.lock.release.line = r.lock.line.erase call := by
    rw [r.lock.release_line.1, line, List.erase_cons_head]
  have settled (answer : Answer) : (Call.answered answer).isPending = false := rfl
  cases content : r.channel.payloads with
  | cons bytes rest =>
    simp only [Receiver.attempt, Channel.receive, IngressQueue.poll, queue, line, content,
      ↓reduceIte, r.lock.release_line.1, true_and]
    exact fit.leave pending released r.lock.release_line.2 (settled _) _
  | nil =>
    cases producer : r.channel.isOpen with
    | false =>
      simp only [Receiver.attempt, Channel.receive, IngressQueue.poll, queue, line, content,
        producer, Bool.false_eq_true, ↓reduceIte, r.lock.release_line.1, true_and]
      exact fit.leave pending released r.lock.release_line.2 (settled _) _
    | true =>
      simp only [Receiver.attempt, Channel.receive, IngressQueue.poll, queue, line, content,
        producer, ↓reduceIte, true_and]
      have inside := length_of_pending pending
      refine ⟨fit.handed, fit.nodup, fun other => ?_, fun other found => ?_⟩
      · rw [isPending_set inside, fit.pending other]
        by_cases same : other = call <;> simp [same, pending, Call.isPending]
      · by_cases same : other = call
        · rw [same, owner]
        · rw [List.getElem?_set_ne (Ne.symm same)] at found
          exact fit.inHand other found

theorem Fit.not_first {r : Receiver} (fit : r.Fit) {call : Nat} (other : r.lock.owner ≠ some call) :
    r.queue.poll call = (.pending, r.queue) := by
  unfold IngressQueue.poll
  split
  · rfl
  · rename_i first others line
    have behind : ¬ first = call := by
      intro same
      have head := fit.handed.head?
      rw [show r.lock.line = r.queue.line from rfl, line, same] at head
      exact other head.symm
    simp only [behind, ↓reduceIte]

/-- Polling a call that does not own the lock changes nothing. -/
theorem Fit.poll_behind {r : Receiver} (fit : r.Fit) {call : Nat}
    (other : r.lock.owner ≠ some call) : r.poll call = (.pending, r) := by
  unfold Receiver.poll
  cases found : r.calls[call]? with
  | none => rfl
  | some c =>
    cases c with
    | locking => simp only [other, ↓reduceIte]
    | receiving => exact absurd (fit.inHand call found) other
    | answered | dropped => rfl

/-- Polling any call is to the receiver what it is to the queue. -/
theorem Fit.poll {r : Receiver} (fit : r.Fit) (call : Nat) :
    (r.poll call).1 = (r.queue.poll call).1 ∧ (r.poll call).2.queue = (r.queue.poll call).2 ∧
      (r.poll call).2.Fit := by
  by_cases owner : r.lock.owner = some call
  · have attempted : r.poll call = r.attempt call := by
      have member : call ∈ r.lock.line := by
        rw [Lock.line_of_owner owner]
        exact List.mem_cons_self
      have pending := (fit.pending call).mp member
      unfold isPending at pending
      unfold Receiver.poll
      cases found : r.calls[call]? with
      | none => simp [found] at pending
      | some c => cases c <;> simp [found, owner, Call.isPending] at pending ⊢
    rw [attempted]
    exact fit.attempt owner
  · rw [fit.poll_behind owner, fit.not_first owner]
    exact ⟨rfl, rfl, fit⟩

theorem Fit.asked {r : Receiver} (fit : r.Fit) :
    Fit { r with lock := r.lock.ask r.calls.length, calls := r.calls ++ [.locking] } := by
  obtain ⟨line, handed⟩ := Lock.ask_line fit.handed r.calls.length
  have fresh : r.calls.length ∉ r.lock.line := by
    intro member
    exact Nat.lt_irrefl _ (length_of_pending ((fit.pending _).mp member))
  refine ⟨handed, ?_, fun call => ?_, fun call found => ?_⟩
  · rw [line, List.nodup_append]
    refine ⟨fit.nodup, by simp, fun a member b last => ?_⟩
    rw [List.mem_singleton.mp last]
    exact fun same => fresh (same ▸ member)
  · rw [line, List.mem_append, List.mem_singleton, fit.pending call]
    unfold isPending
    rcases Nat.lt_trichotomy call r.calls.length with before | last | beyond
    · simp [List.getElem?_append_left before, Nat.ne_of_lt before]
    · simp [last, Call.isPending]
    · have none : r.calls[call]? = none := List.getElem?_eq_none (Nat.le_of_lt beyond)
      simp [none, List.getElem?_append_right (Nat.le_of_lt beyond), Nat.ne_of_gt beyond,
        show call - r.calls.length ≠ 0 by omega]
  · rcases Nat.lt_or_ge call r.calls.length with before | beyond
    · rw [List.getElem?_append_left before] at found
      have owner := fit.inHand call found
      simp only [Lock.ask, owner]
    · rw [List.getElem?_append_right beyond] at found
      cases List.mem_singleton.mp (List.mem_of_getElem? found)

theorem Fit.start {r : Receiver} (fit : r.Fit) :
    r.start.1 = (r.queue.start r.calls.length).1 ∧
      r.start.2.queue = (r.queue.start r.calls.length).2 ∧ r.start.2.Fit := by
  have polled := fit.asked.poll r.calls.length
  simp only [queue, (Lock.ask_line fit.handed r.calls.length).1] at polled
  exact polled

theorem drop_of_settled {r : Receiver} {call : Nat} (settled : r.isPending call = false) :
    r.drop call = r := by
  unfold Receiver.drop
  unfold isPending at settled
  cases found : r.calls[call]? with
  | none => rfl
  | some c =>
    rw [found] at settled
    cases c with
    | locking | receiving => cases settled
    | answered | dropped => rfl

/-- Dropping a call is giving it up in the queue's line, wherever the call waits. -/
theorem Fit.drop {r : Receiver} (fit : r.Fit) (call : Nat) :
    (r.drop call).queue = r.queue.cancel call ∧ (r.drop call).Fit := by
  cases pending : r.isPending call with
  | false =>
    have out : call ∉ r.lock.line := by simp [fit.pending call, pending]
    rw [drop_of_settled pending]
    refine ⟨?_, fit⟩
    simp only [queue, IngressQueue.cancel, List.erase_of_not_mem out]
  | true =>
    have settled : Call.dropped.isPending = false := rfl
    unfold Receiver.drop IngressQueue.cancel
    split
    · obtain ⟨line, handed⟩ := Lock.abandon_line fit.handed call
      refine ⟨?_, fit.leave pending line handed settled _⟩
      simp only [queue, line]
    · rename_i found
      have owned := Lock.line_of_owner (fit.inHand call found)
      obtain ⟨line, handed⟩ := r.lock.release_line
      have line : r.lock.release.line = r.lock.line.erase call := by
        rw [line, owned, List.erase_cons_head]
      refine ⟨?_, fit.leave pending line handed settled _⟩
      simp only [queue, line]
    · rename_i notLocking notReceiving
      unfold isPending at pending
      cases found : r.calls[call]? with
      | none => simp [found] at pending
      | some c =>
        cases c with
        | locking => exact absurd found notLocking
        | receiving => exact absurd found notReceiving
        | answered | dropped => simp [found, Call.isPending] at pending

theorem offer_queue (r : Receiver) (bytes : Bytes) :
    (r.channel.offer bytes).1 = (r.queue.offer bytes).1 ∧
      queue { r with channel := (r.channel.offer bytes).2 } = (r.queue.offer bytes).2 := by
  unfold Channel.offer IngressQueue.offer
  cases producer : r.channel.isOpen with
  | false => simp [queue, producer]
  | true =>
    by_cases room : r.channel.payloads.length < r.channel.capacity
    · simp [queue, producer, room, Nat.not_le.mpr room]
    · simp [queue, producer, room, Nat.not_lt.mp room]

/-- Whatever is done to the receiver, the queue that it shows does the same. -/
structure Mirrored (r : Receiver) : Prop where
  offer : ∀ bytes, (r.channel.offer bytes).1 = (r.queue.offer bytes).1 ∧
    queue { r with channel := (r.channel.offer bytes).2 } = (r.queue.offer bytes).2
  close : queue { r with channel := r.channel.close } = r.queue.close
  start : r.start.1 = (r.queue.start r.calls.length).1 ∧
    r.start.2.queue = (r.queue.start r.calls.length).2
  poll : ∀ call, (r.poll call).1 = (r.queue.poll call).1 ∧
    (r.poll call).2.queue = (r.queue.poll call).2
  drop : ∀ call, (r.drop call).queue = r.queue.cancel call

theorem Fit.mirrored {r : Receiver} (fit : r.Fit) : r.Mirrored where
  offer := r.offer_queue
  close := rfl
  start := ⟨fit.start.1, fit.start.2.1⟩
  poll call := ⟨(fit.poll call).1, (fit.poll call).2.1⟩
  drop call := (fit.drop call).1

/-- A change of the channel is none of the lock's business. -/
theorem Fit.rechannel {r : Receiver} (fit : r.Fit) (channel : Channel) : Fit { r with channel } :=
  ⟨fit.handed, fit.nodup, fit.pending, fit.inHand⟩

theorem step_fit {r : Receiver} (fit : r.Fit) (act : Act) : (r.step act).1.Fit := by
  cases act with
  | offer bytes =>
    simp only [step]
    split
    · exact fit.rechannel _
    · exact fit
  | close => exact fit.rechannel _
  | start => exact fit.start.2.2
  | poll call => exact (fit.poll call).2.2
  | drop call => exact (fit.drop call).2

end Receiver
end OpticalAccess
