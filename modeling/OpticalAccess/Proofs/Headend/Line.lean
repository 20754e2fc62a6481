import OpticalAccess.Proofs.Headend.Steps

/-!
# The relays in the queue's line

The calls in the line of a terminal's queue are those of the relays that wait for a frame, each of
them once. A relay that has ended is not among them, so that no frame is kept for it.
-/

namespace OpticalAccess

namespace IngressQueue

/-- A call that is answered leaves the line; nothing else happens to the line. -/
theorem Polled.line {q after : IngressQueue Nat} {call : Nat} {answer : Answer}
    (polled : Polled q call answer after) (nodup : q.line.Nodup) :
    after.line.Nodup ∧ (call ∈ after.line ↔ call ∈ q.line ∧ answer = .pending) ∧
      ∀ other, other ≠ call → (other ∈ after.line ↔ other ∈ q.line) := by
  cases polled with
  | payload _ _ others first | closed others first =>
    rw [first, List.nodup_cons] at nodup
    refine ⟨nodup.2, ⟨fun member => absurd member nodup.1, fun left => by cases left.2⟩, ?_⟩
    intro other apart
    simp [first, apart]
  | idle | behind => exact ⟨nodup, by simp, fun _ _ => Iff.rfl⟩

end IngressQueue

namespace Session

theorem report_phase (s : Session) : s.report.phase = s.phase ∧ s.report.call = s.call := by
  unfold report
  split
  · exact ⟨rfl, rfl⟩
  · split <;> exact ⟨rfl, rfl⟩
  · exact ⟨rfl, rfl⟩

theorem answered_waiting (answer : IngressQueue.Answer) :
    Relay.answered answer = .waiting ↔ answer = .pending := by
  cases answer <;> simp [Relay.answered]

/-- The line `q` has the call of session `s` exactly if its relay waits. -/
structure Queues (s : Session) (q : IngressQueue Nat) : Prop where
  nodup : q.line.Nodup
  waiting : s.call ∈ q.line ↔ s.phase = .waiting

/-- A relay that asks or is polled is in the line afterwards exactly if it has to wait. -/
theorem Queues.answer {s : Session} {q after : IngressQueue Nat} {answer : IngressQueue.Answer}
    (polled : IngressQueue.Polled q s.call answer after) (nodup : q.line.Nodup)
    (member : s.call ∈ q.line) :
    Queues { s with phase := Relay.answered answer } after ∧
      ∀ other, other ≠ s.call → (other ∈ after.line ↔ other ∈ q.line) := by
  obtain ⟨nodup, own, others⟩ := polled.line nodup
  refine ⟨⟨nodup, ?_⟩, others⟩
  rw [answered_waiting, own]
  exact ⟨fun both => both.2, fun pending => ⟨member, pending⟩⟩

theorem move_queues {s : Session} {q : IngressQueue Nat} (queues : s.Queues q) (v : Verbosity)
    (address : String) (m : Move) :
    (s.move v address q m).1.call = s.call ∧
      (s.move v address q m).1.Queues (s.move v address q m).2.1 ∧
      ∀ other, other ≠ s.call → (other ∈ (s.move v address q m).2.1.line ↔ other ∈ q.line) := by
  obtain ⟨nodup, waiting⟩ := queues
  cases m with
  | relay =>
    cases moved : (Relay.step address Relay.streamSink s.call ⟨q, s.stream, s.phase⟩).value v with
    | none => simpa [move, moved] using Queues.mk nodup waiting
    | some after =>
      have goes := Relay.step_goes moved
      simp only [move, moved, true_and]
      obtain ⟨call, phase, stream⟩ := s
      simp only at waiting
      cases goes with
      | leave | write | refused => exact ⟨⟨nodup, by simpa using waiting⟩, fun _ _ => Iff.rfl⟩
      | giveUp =>
        refine ⟨⟨nodup.erase call, ?_⟩, fun other apart => List.mem_erase_of_ne apart⟩
        simp [IngressQueue.cancel, nodup.mem_erase_iff]
      | receive =>
        exact Queues.answer (s := ⟨call, .waiting, stream⟩) (q.poll_polled call) nodup
          (waiting.mpr rfl)
      | ask =>
        have fresh : call ∉ q.line := by simp [waiting]
        have wider : (q.line ++ [call]).Nodup := by
          rw [List.nodup_append]
          refine ⟨nodup, by simp, fun a inside b last => ?_⟩
          rw [List.mem_singleton.mp last]
          exact fun same => fresh (same ▸ inside)
        have polled := IngressQueue.poll_polled { q with line := q.line ++ [call] } call
        obtain ⟨asked, others⟩ :=
          Queues.answer (s := ⟨call, .ready, stream⟩) polled wider (by simp)
        refine ⟨asked, fun other apart => (others other apart).trans ?_⟩
        simp [apart]
  | report =>
    obtain ⟨phase, call⟩ := s.report_phase
    by_cases writing : s.stream.writing = true
    · simp only [move, writing, ↓reduceIte, implies_true, and_true]
      exact ⟨call, ⟨nodup, by rw [call, phase]; exact waiting⟩⟩
    · simp only [move, writing, Bool.false_eq_true, ↓reduceIte, implies_true, and_true, true_and]
      exact ⟨nodup, waiting⟩
  | fetch | read | drop => exact ⟨rfl, ⟨nodup, waiting⟩, fun _ _ => Iff.rfl⟩

end Session

namespace Terminal

theorem step_line (t : Terminal) (f : Forward) (v : Verbosity) :
    ((t.step f).value v).2.queue.line = t.queue.line := by
  have goes := t.step_goes f v
  generalize (t.step f).value v = outcome at goes
  obtain ⟨next, after⟩ := outcome
  cases goes <;> rfl

end Terminal

namespace Headend

/-- The line of the queue has the calls of the relays that wait, and no other. -/
structure Lined (h : Headend) : Prop where
  calls : ∀ (i : Nat) (s : Session), h.sessions[i]? = some s → s.call = i
  nodup : h.terminal.queue.line.Nodup
  waiting : ∀ i : Nat,
    i ∈ h.terminal.queue.line ↔ ∃ s, h.sessions[i]? = some s ∧ s.phase = .waiting

theorem new_lined (location : Location) (registry : Registry) (queueSize : Nat)
    (settings : Settings) : Lined (new location registry queueSize settings) := by
  refine ⟨fun i s found => ?_, List.nodup_nil, fun i => ?_⟩
  · cases found
  · simp [new, Terminal.new, IngressQueue.empty]

theorem Lined.queues {h : Headend} (lined : Lined h) {i : Nat} {s : Session}
    (found : h.sessions[i]? = some s) : s.Queues h.terminal.queue := by
  refine ⟨lined.nodup, ?_⟩
  rw [lined.calls i s found, lined.waiting i]
  constructor
  · rintro ⟨other, same, waiting⟩
    obtain rfl := Option.some.inj (found.symm.trans same)
    exact waiting
  · exact fun waiting => ⟨s, found, waiting⟩

theorem step_lined {h : Headend} (lined : Lined h) (v : Verbosity) (act : Act) :
    Lined (h.step v act).1 := by
  cases act with
  | arrive | closeIngress | install => exact ⟨lined.calls, lined.nodup, lined.waiting⟩
  | forward index =>
    cases found : h.forwards[index]? with
    | none => simpa only [step, found] using lined
    | some f =>
      have line := h.terminal.step_line f v
      simp only [step, found]
      exact ⟨lined.calls, line ▸ lined.nodup, fun i => line ▸ lined.waiting i⟩
  | openStream =>
    have line : (h.step v .openStream).1.terminal.queue.line = h.terminal.queue.line := by
      simp only [step]
      split <;> rfl
    refine ⟨fun i s found => ?_, line ▸ lined.nodup, fun i => ?_⟩
    · have place := step_place v h .openStream i
      rw [found] at place
      generalize about i (h.step v .openStream).2 = notes at place
      generalize at_ : some s = entry at place
      cases place with
      | kept => exact lined.calls i s at_.symm
      | opened => rw [Option.some.inj at_]
      | moved before m eq here => cases eq
    · rw [line]
      refine (lined.waiting i).trans ?_
      have place := step_place v h .openStream i
      generalize (h.step v .openStream).1.sessions[i]? = entry at place ⊢
      generalize about i (h.step v .openStream).2 = notes at place
      cases place with
      | kept => exact Iff.rfl
      | opened _ last =>
        rw [List.getElem?_eq_none (Nat.le_of_eq last)]
        simp
      | moved before m eq here => cases eq
  | session index m =>
    cases found : h.sessions[index]? with
    | none => simpa only [step, found] using lined
    | some s =>
      have own := lined.calls index s found
      obtain ⟨call, ⟨nodup, waiting⟩, others⟩ :=
        Session.move_queues (lined.queues found) v h.terminal.location.address m
      rw [call, own] at waiting
      rw [own] at others
      have inside := (List.getElem?_eq_some_iff.mp found).1
      simp only [step, found]
      refine ⟨fun i t there => ?_, nodup, fun i => ?_⟩
      · by_cases hit : index = i
        · subst hit
          rw [List.getElem?_set_self inside] at there
          rw [← Option.some.inj there, call, own]
        · rw [List.getElem?_set_ne hit] at there
          exact lined.calls i t there
      · by_cases hit : index = i
        · subst hit
          simp only [List.getElem?_set_self inside, Option.some.injEq, exists_eq_left']
          exact waiting
        · rw [List.getElem?_set_ne hit]
          exact (others i (Ne.symm hit)).trans (lined.waiting i)

theorem run_lined {h : Headend} (lined : Lined h) (v : Verbosity) (acts : List Act) :
    Lined (h.run v acts).1 := by
  induction acts generalizing h with
  | nil => exact lined
  | cons act rest ih => exact ih (step_lined lined v act)

/-- The relays in line are at work, and the first does not keep the frames from the next. -/
structure Attended (v : Verbosity) (h : Headend) : Prop where
  /-- A relay that has ended is not in line. -/
  ended : ∀ (i : Nat) (s : Session) (result : Except RelayError Unit), h.sessions[i]? = some s →
    s.phase = .ended result → i ∉ h.terminal.queue.line
  /-- The first in line waits: it takes the oldest frame, or it leaves if its controller has gone. -/
  first : ∀ (i : Nat) (others : List Nat), h.terminal.queue.line = i :: others →
    ∃ s, h.sessions[i]? = some s ∧ s.phase = .waiting ∧
      (s.stream.reading = true → ∀ payload rest, h.terminal.queue.payloads = payload :: rest →
        (h.step v (.session i .relay)).1.sessions[i]? = some { s with phase := .holding payload }) ∧
      (s.stream.reading = false →
        (h.step v (.session i .relay)).1.terminal.queue.line = others)

theorem Lined.attended {h : Headend} (lined : Lined h) (v : Verbosity) : h.Attended v := by
  refine ⟨fun i s result found ended member => ?_, fun i others line => ?_⟩
  · obtain ⟨other, same, waiting⟩ := (lined.waiting i).mp member
    rw [Option.some.inj (found.symm.trans same), waiting] at ended
    cases ended
  · obtain ⟨s, found, waiting⟩ := (lined.waiting i).mp (line ▸ List.mem_cons_self)
    have own := lined.calls i s found
    have inside := (List.getElem?_eq_some_iff.mp found).1
    refine ⟨s, found, waiting, fun reader payload rest content => ?_, fun gone => ?_⟩
    · have polled : h.terminal.queue.poll i =
          (.payload payload, { h.terminal.queue with payloads := rest, line := others }) := by
        simp only [IngressQueue.poll, line, content, ↓reduceIte]
      have stepped : (Relay.step h.terminal.location.address Relay.streamSink s.call
          ⟨h.terminal.queue, s.stream, s.phase⟩).value v =
            some ⟨{ h.terminal.queue with payloads := rest, line := others }, s.stream,
              .holding payload⟩ := by
        simp [Relay.step, Relay.streamSink, Relay.receive, waiting, reader, own, polled]
      simp only [step, found, Session.move, stepped]
      exact List.getElem?_set_self inside
    · have stepped : (Relay.step h.terminal.location.address Relay.streamSink s.call
          ⟨h.terminal.queue, s.stream, s.phase⟩).value v =
            some ⟨h.terminal.queue.cancel i, s.stream, .ended (.error .streamClosed)⟩ := by
        simp [Relay.step, Relay.streamSink, Relay.leave, waiting, gone, own]
      simp only [step, found, Session.move, stepped, IngressQueue.cancel, line,
        List.erase_cons_head]

end Headend
end OpticalAccess
