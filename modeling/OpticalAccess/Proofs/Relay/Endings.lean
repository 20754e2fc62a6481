import OpticalAccess.Proofs.Relay.Steps

/-!
# How a relay ends

A sink may close once it has a number of envelopes, and it may refuse a write. Which of the two
comes first, or whether the queue gives out before, settles how a relay ends: what it wrote, which
payload it lost, what it left in the queue and what it logged.
-/

namespace OpticalAccess.Relay

variable {ρ σ : Type} [DecidableEq ρ]

/-! ### Sinks that are known beforehand -/

/-- What a sink is going to do. -/
structure Plan where
  /-- The write that is refused, counted from zero, and the reason. -/
  failure : Option (Nat × RelayError)
  /-- The number of envelopes after which the sink is closed. -/
  closeAfter : Option Nat

/-- A sink that goes to plan. `has es sink` says that `es` were written to the sink, in order. -/
structure Sink.Keeps (S : Sink σ) (plan : Plan) (has : List Envelope → σ → Prop) : Prop where
  closed {es : List Envelope} {sink : σ} (known : has es sink) :
    S.closed sink = true ↔ ∃ n, plan.closeAfter = some n ∧ n ≤ es.length
  refused {es : List Envelope} {sink : σ} {error : RelayError} (known : has es sink)
    (failing : plan.failure = some (es.length, error)) (e : Envelope) :
    S.write e sink = .refused error
  accepted {es : List Envelope} {sink : σ} (known : has es sink)
    (sound : ∀ error, plan.failure ≠ some (es.length, error)) (e : Envelope) :
    ∃ after, S.write e sink = .accepted after ∧ has (es ++ [e]) after

theorem scriptSink_keeps (failure : Option (Nat × String)) (closeAfter : Option Nat) :
    scriptSink.Keeps ⟨failure.map fun f => (f.1, .streamWrite f.2), closeAfter⟩
      fun es sink => sink = ⟨failure, closeAfter, es⟩ where
  closed known := by
    subst known
    cases closeAfter <;> simp [scriptSink]
  refused known failing e := by
    subst known
    obtain ⟨⟨index, reason⟩, rfl, same⟩ := Option.map_eq_some_iff.mp failing
    cases same
    simp [scriptSink]
  accepted {es sink} known sound e := by
    subst known
    cases failure with
    | none => exact ⟨_, rfl, rfl⟩
    | some f =>
      have later : es.length ≠ f.1 := fun here => sound (.streamWrite f.2) (by rw [here]; rfl)
      exact ⟨_, by simp [scriptSink, later], rfl⟩

theorem Plan.later_of_ne {plan : Plan} (listening : plan.closeAfter ≠ some 0) (n : Nat)
    (closes : plan.closeAfter = some n) : 0 < n :=
  Nat.pos_of_ne_zero fun here => listening (here ▸ closes)

theorem Sink.Keeps.listening {S : Sink σ} {plan : Plan} {has : List Envelope → σ → Prop} {sink : σ}
    (keeps : S.Keeps plan has) (fresh : has [] sink) (listening : plan.closeAfter ≠ some 0) :
    S.closed sink = false := by
  refine Bool.eq_false_iff.mpr fun closed => ?_
  obtain ⟨n, closes, filled⟩ := (keeps.closed fresh).mp closed
  exact Nat.not_lt_of_ge filled (Plan.later_of_ne listening n closes)

/-- A plan as it stands after one envelope. -/
def Plan.next (plan : Plan) : Plan where
  failure := plan.failure.map fun f => (f.1 - 1, f.2)
  closeAfter := plan.closeAfter.map (· - 1)

theorem Plan.failure_of_next {plan : Plan} (sound : ∀ error, plan.failure ≠ some (0, error))
    {k : Nat} {error : RelayError} :
    plan.next.failure = some (k, error) ↔ plan.failure = some (k + 1, error) := by
  cases told : plan.failure with
  | none => simp [next, told]
  | some f =>
    obtain ⟨index, reason⟩ := f
    have later : index ≠ 0 := fun here => sound reason (by rw [told, here])
    have shift : index - 1 = k ↔ index = k + 1 := by omega
    simp [next, told, shift]

theorem Plan.closeAfter_of_next {plan : Plan} (listening : plan.closeAfter ≠ some 0) {n : Nat} :
    plan.next.closeAfter = some n ↔ plan.closeAfter = some (n + 1) := by
  cases told : plan.closeAfter with
  | none => simp [next, told]
  | some last =>
    have later : last ≠ 0 := fun here => listening (told.trans (congrArg some here))
    have shift : last - 1 = n ↔ last = n + 1 := by omega
    simp [next, told, shift]

/-- A sink that has an envelope goes on to what is left of its plan. -/
theorem Sink.Keeps.next {S : Sink σ} {plan : Plan} {has : List Envelope → σ → Prop}
    (keeps : S.Keeps plan has) (sound : ∀ error, plan.failure ≠ some (0, error)) (e : Envelope) :
    S.Keeps plan.next fun es sink => has (e :: es) sink where
  closed {es _} known := by
    rw [keeps.closed known]
    cases told : plan.closeAfter with
    | none => simp [Plan.next, told]
    | some n =>
      simp only [Plan.next, told, Option.map_some, Option.some.injEq, exists_eq_left',
        List.length_cons]
      omega
  refused known failing := keeps.refused known ((Plan.failure_of_next sound).mp failing)
  accepted known unfailing :=
    keeps.accepted known fun error failing =>
      unfailing error ((Plan.failure_of_next sound).mpr failing)

/-! ### Endings -/

inductive Ending where
  /-- The sink was closed. -/
  | closed
  /-- The sink refused an envelope. -/
  | refused (error : RelayError)
  /-- The queue was empty. -/
  | exhausted

/--
What ends a relay over `m` payloads, and after how many envelopes. A closed sink comes before a
write that would be refused, and before an empty queue. A write is refused only if there is a
payload for it.
-/
inductive Plan.Ends (plan : Plan) (m : Nat) : Nat → Ending → Prop where
  | closed {n : Nat} (closes : plan.closeAfter = some n) (filled : n ≤ m)
      (sound : ∀ k error, plan.failure = some (k, error) → n ≤ k) : Ends plan m n .closed
  | refused {k : Nat} {error : RelayError} (fails : plan.failure = some (k, error))
      (reached : k < m) (listening : ∀ n, plan.closeAfter = some n → k < n) :
      Ends plan m k (.refused error)
  | exhausted (listening : ∀ n, plan.closeAfter = some n → m < n)
      (sound : ∀ k error, plan.failure = some (k, error) → m ≤ k) : Ends plan m m .exhausted

/-- A plan ends a relay in one way. -/
theorem Plan.Ends.unique {plan : Plan} {m w w' : Nat} {ending ending' : Ending}
    (first : plan.Ends m w ending) (second : plan.Ends m w' ending') :
    w' = w ∧ ending' = ending := by
  cases first with
  | closed closes filled sound =>
    cases second with
    | closed closes' => exact ⟨Option.some.inj (closes'.symm.trans closes), rfl⟩
    | refused fails _ listening =>
      exact absurd (listening _ closes) (Nat.not_lt_of_ge (sound _ _ fails))
    | exhausted listening => exact absurd (listening _ closes) (Nat.not_lt_of_ge filled)
  | refused fails reached listening =>
    cases second with
    | closed closes _ sound =>
      exact absurd (listening _ closes) (Nat.not_lt_of_ge (sound _ _ fails))
    | refused fails' =>
      cases fails'.symm.trans fails
      exact ⟨rfl, rfl⟩
    | exhausted _ sound => exact absurd reached (Nat.not_lt_of_ge (sound _ _ fails))
  | exhausted listening sound =>
    cases second with
    | closed closes filled => exact absurd (listening _ closes) (Nat.not_lt_of_ge filled)
    | refused fails reached => exact absurd reached (Nat.not_lt_of_ge (sound _ _ fails))
    | exhausted => exact ⟨rfl, rfl⟩

theorem Plan.Ends.of_next {plan : Plan} {m w : Nat} {ending : Ending}
    (listening : plan.closeAfter ≠ some 0) (sound : ∀ error, plan.failure ≠ some (0, error))
    (ends : plan.next.Ends m w ending) : plan.Ends (m + 1) (w + 1) ending := by
  have refusedLater {n : Nat}
      (later : ∀ k error, plan.next.failure = some (k, error) → n ≤ k) (k : Nat)
      (error : RelayError) (fails : plan.failure = some (k, error)) : n + 1 ≤ k := by
    cases k with
    | zero => exact absurd fails (sound error)
    | succ k => exact Nat.succ_le_succ (later k error ((failure_of_next sound).mpr fails))
  have closedLater {k : Nat} (later : ∀ n, plan.next.closeAfter = some n → k < n) (n : Nat)
      (closes : plan.closeAfter = some n) : k + 1 < n := by
    cases n with
    | zero => exact absurd closes listening
    | succ n => exact Nat.succ_lt_succ (later n ((closeAfter_of_next listening).mpr closes))
  cases ends with
  | closed closes filled later =>
    exact .closed ((closeAfter_of_next listening).mp closes) (Nat.succ_le_succ filled)
      (refusedLater later)
  | refused fails reached later =>
    exact .refused ((failure_of_next sound).mp fails) (Nat.succ_lt_succ reached)
      (closedLater later)
  | exhausted listens later => exact .exhausted (closedLater listens) (refusedLater later)

namespace Ending

/-- The payloads that were taken and not written: the one that was refused. -/
def lost : Ending → Nat
  | closed => 0
  | refused _ => 1
  | exhausted => 0

/-- The phase in which a relay is left; it waits on a queue that is still open. -/
def phase (isOpen : Bool) : Ending → Phase
  | closed => .ended (.error .streamClosed)
  | refused error => .ended (.error error)
  | exhausted => if isOpen then .waiting else .ended (.error .sourceClosed)

/-- What is logged at the end. -/
def events (device : String) (isOpen : Bool) : Ending → List Event
  | closed => [.relayStreamClosed device]
  | refused error => [.relaySendFailed device error]
  | exhausted => if isOpen then [] else [.relaySourceClosed device]

end Ending

/-- The events of a payload that goes through. -/
def crossing (device : String) (payload : Bytes) : List Event :=
  [.relayReceived device (Frame.describe ⟨payload⟩), .relaySent device (Frame.describe ⟨payload⟩)]

/--
The account of a relay alone that ended after it had written `w` envelopes: what it logged, what the
sink has, which writes it attempted, what it left and how it is left.
-/
structure Account (device : String) (S : Sink σ) (has : List Envelope → σ → Prop) (call : ρ)
    (capacity : Nat) (payloads : List Bytes) (isOpen : Bool) (sink : σ) (w : Nat) (ending : Ending)
    (log : List Event) (states : List (State ρ σ)) (last : State ρ σ) : Prop where
  way : Way device S call ⟨⟨capacity, payloads, isOpen, []⟩, sink, .ready⟩ log states last
  short : states.length ≤ 2 * payloads.length + 2
  logged : log = (payloads.take w).flatMap (crossing device) ++
    ((payloads.drop w).take ending.lost).map
      (fun payload => .relayReceived device (Frame.describe ⟨payload⟩)) ++
    ending.events device isOpen
  written : has ((payloads.take w).map (Envelope.mk device)) last.sink
  attempted : attempts device states = (payloads.take (w + ending.lost)).map (Envelope.mk device)
  left : last.queue.payloads = payloads.drop (w + ending.lost)
  phase : last.phase = ending.phase isOpen

variable {device : String} {S : Sink σ} {has : List Envelope → σ → Prop} {call : ρ}
  {capacity : Nat} {payloads : List Bytes} {isOpen : Bool} {sink : σ}

namespace Account

theorem closed {plan : Plan} (keeps : S.Keeps plan has) (fresh : has [] sink)
    (closes : plan.closeAfter = some 0) :
    plan.Ends payloads.length 0 .closed ∧ ∃ log states last,
      Account device S has call capacity payloads isOpen sink 0 .closed log states last := by
  have shut := (keeps.closed fresh).mpr ⟨0, closes, Nat.le_refl 0⟩
  have way : Way device S call ⟨⟨capacity, payloads, isOpen, []⟩, sink, .ready⟩ _ _ _ :=
    .go (step_leave device call shut) (.stop (step_ended ..))
  refine ⟨.closed closes (Nat.zero_le _) fun _ _ _ => Nat.zero_le _, ?_⟩
  exact ⟨_, _, _, way, Nat.le_add_left .., rfl, fresh, rfl, rfl, rfl⟩

theorem refused {error : RelayError} {payload : Bytes} (fresh : has [] sink)
    (listening : S.closed sink = false)
    (refuses : S.write ⟨device, payload⟩ sink = .refused error) :
    ∃ log states last, Account device S has call capacity (payload :: payloads) isOpen sink 0
      (.refused error) log states last := by
  have way : Way device S call ⟨⟨capacity, payload :: payloads, isOpen, []⟩, sink, .ready⟩ _ _ _ :=
    .go (step_take device call listening payload payloads)
      (.go (step_fail device call refuses) (.stop (step_ended ..)))
  refine ⟨_, _, _, way, ?_, rfl, fresh, rfl, rfl, rfl⟩
  simp only [List.length_cons, List.length_nil]
  omega

theorem exhausted (fresh : has [] sink) (listening : S.closed sink = false) :
    ∃ log states last, Account device S has call capacity [] isOpen sink 0 .exhausted
      log states last := by
  cases isOpen with
  | true =>
    have way : Way device S call ⟨⟨capacity, [], true, []⟩, sink, .ready⟩ _ _ _ :=
      .go (step_wait device call listening) (.stop (step_waiting device call listening))
    exact ⟨_, _, _, way, Nat.le_refl _, rfl, fresh, rfl, rfl, rfl⟩
  | false =>
    have way : Way device S call ⟨⟨capacity, [], false, []⟩, sink, .ready⟩ _ _ _ :=
      .go (step_finish device call listening) (.stop (step_ended ..))
    exact ⟨_, _, _, way, Nat.le_refl _, rfl, fresh, rfl, rfl, rfl⟩

/-- A payload that goes through comes before the account of the others. -/
theorem pass {payload : Bytes} {after : σ} {w : Nat} {ending : Ending} {log : List Event}
    {states : List (State ρ σ)} {last : State ρ σ} (listening : S.closed sink = false)
    (accepts : S.write ⟨device, payload⟩ sink = .accepted after)
    (others : Account device S (fun es sink => has (⟨device, payload⟩ :: es) sink) call capacity
      payloads isOpen after w ending log states last) :
    ∃ log states last, Account device S has call capacity (payload :: payloads) isOpen sink (w + 1)
      ending log states last := by
  have way : Way device S call ⟨⟨capacity, payload :: payloads, isOpen, []⟩, sink, .ready⟩ _ _ _ :=
    .go (step_take device call listening payload payloads)
      (.go (step_pass device call accepts) others.way)
  refine ⟨_, _, _, way, ?_, ?_, others.written, ?_, ?_, others.phase⟩
  · have few := others.short
    simp only [List.length_cons]
    omega
  · rw [others.logged]
    rfl
  · rw [attempts_cons, attempts_cons, others.attempted, Nat.add_right_comm]
    rfl
  · rw [others.left, Nat.add_right_comm]
    rfl

end Account

/-- A relay over a sink that goes to plan has an account of the ending that the plan makes. -/
theorem exists_account (payloads : List Bytes) {plan : Plan} (keeps : S.Keeps plan has)
    (fresh : has [] sink) :
    ∃ w ending, plan.Ends payloads.length w ending ∧ ∃ log states last,
      Account device S has call capacity payloads isOpen sink w ending log states last := by
  induction payloads generalizing plan has sink with
  | nil =>
    by_cases closes : plan.closeAfter = some 0
    · exact ⟨0, .closed, Account.closed keeps fresh closes⟩
    · exact ⟨0, .exhausted, .exhausted (Plan.later_of_ne closes) fun _ _ _ => Nat.zero_le _,
        Account.exhausted fresh (keeps.listening fresh closes)⟩
  | cons payload payloads ih =>
    by_cases closes : plan.closeAfter = some 0
    · exact ⟨0, .closed, Account.closed keeps fresh closes⟩
    have listening := keeps.listening fresh closes
    by_cases fails : ∃ error, plan.failure = some (0, error)
    · obtain ⟨error, fails⟩ := fails
      exact ⟨0, .refused error, .refused fails (Nat.zero_lt_succ _) (Plan.later_of_ne closes),
        Account.refused fresh listening (keeps.refused fresh fails _)⟩
    · have sound := not_exists.mp fails
      obtain ⟨after, accepts, has⟩ := keeps.accepted fresh sound ⟨device, payload⟩
      obtain ⟨w, ending, ends, log, states, last, account⟩ := ih (keeps.next sound _) has
      exact ⟨w + 1, ending, ends.of_next closes sound, account.pass listening accepts⟩

/--
A relay alone on a subscriber reports that, and neither takes nor writes anything. A relay alone on
a terminal, over a sink that goes to plan, ends as the plan has it, in one way, and has the account
of that ending.
-/
theorem ends_to_plan {plan : Plan} {has : List Envelope → σ → Prop} (keeps : S.Keeps plan has)
    (fresh : has [] sink) (device : Location) (payloads : List Bytes) (isOpen : Bool) :
    (∀ queue : IngressQueue Unit,
      (do run device.address S () ⟨queue, sink, ← begin .subscriber device⟩) =
        .ofEvents [.relayNotTerminal device] ⟨queue, sink, .ended (.ok ())⟩) ∧
    (∃ w ending, plan.Ends payloads.length w ending) ∧
    ∀ w ending, plan.Ends payloads.length w ending → ∃ log states last,
      Account device.address S has () (max 1 payloads.length) payloads isOpen sink w ending
        log states last ∧
      overPayloads .terminal device S sink payloads isOpen =
        .ofEvents (.relayStarted device.address :: log) last ∧
      step device.address S () last = .ofEvents [] none := by
  obtain ⟨w, ending, ends, log, states, last, account⟩ :
      ∃ w ending, plan.Ends payloads.length w ending ∧ ∃ log states last,
        Account device.address S has () (max 1 payloads.length) payloads isOpen sink w ending
          log states last := exists_account payloads keeps fresh
  refine ⟨fun queue => ?_, ⟨w, ending, ends⟩, fun w' ending' ends' => ?_⟩
  · have still : Way device.address S () ⟨queue, sink, .ended (.ok ())⟩ [] _ _ :=
      .stop (step_ended ..)
    rw [begin_subscriber]
    exact Traced.ofEvents_bind (still.run (Nat.le_add_left ..))
  · obtain ⟨rfl, rfl⟩ := ends.unique ends'
    have enough : states.length ≤ 2 * payloads.length + 4 := Nat.le_trans account.short (by omega)
    refine ⟨log, states, last, account, ?_, account.way.stuck⟩
    rw [overPayloads, begin_terminal]
    exact Traced.ofEvents_bind (account.way.run enough)

/-- A sink that would refuse the second envelope, and is closed by then, costs no payload. -/
theorem ends_to_plan_tied :
    ∃ last, (overPayloads .terminal ⟨"olt", 50060⟩ scriptSink ⟨some (1, "late"), some 1, []⟩
        [[1], [2]] false).value .off = last ∧
      last.sink.written = [⟨"olt", [1]⟩] ∧ last.queue.payloads = [[2]] ∧
      last.phase = .ended (.error .streamClosed) := by
  have tied : Plan.Ends ⟨some (1, .streamWrite "late"), some 1⟩ 2 1 .closed :=
    .closed rfl (by decide) fun k error fails => by
      cases fails
      exact Nat.le_refl 1
  obtain ⟨-, -, ends⟩ := ends_to_plan (scriptSink_keeps (some (1, "late")) (some 1)) rfl
    ⟨"olt", 50060⟩ [[1], [2]] false
  obtain ⟨log, states, last, account, runs, -⟩ := ends 1 .closed tied
  exact ⟨last, congrArg (·.value .off) runs, congrArg Script.written account.written, account.left,
    account.phase⟩

end OpticalAccess.Relay
