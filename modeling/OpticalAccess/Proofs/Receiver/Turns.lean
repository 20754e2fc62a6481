import OpticalAccess.Proofs.Headend.Line
import OpticalAccess.Proofs.Receiver.Delivery

/-!
# Calls in turn

Calls get their answers in the order in which they were started, those that were dropped left out.
Only the first of the others can have the receiver in hand, so that polling any other call changes
nothing, and the first is answered as soon as there is a payload or nothing more comes.
-/

namespace OpticalAccess.Receiver
open IngressQueue (Answer Polled)

/-! ### The order of answers -/

theorem poll_length (r : Receiver) (call : Nat) : (r.poll call).2.calls.length = r.calls.length := by
  have attempted : (r.attempt call).2.calls.length = r.calls.length := by
    unfold attempt
    split <;> exact List.length_set
  unfold poll
  split
  · split
    · exact attempted
    · rfl
  · exact attempted
  · rfl

theorem start_length (r : Receiver) : r.start.2.calls.length = r.calls.length + 1 :=
  (poll_length _ _).trans List.length_append

theorem drop_length (r : Receiver) (call : Nat) : (r.drop call).calls.length = r.calls.length := by
  unfold drop
  split
  · exact List.length_set
  · exact List.length_set
  · rfl

theorem answer_turns (call : Nat) (answer : Answer) :
    started (answerNotes call answer) = [] ∧ dropped (answerNotes call answer) = [] := by
  cases answer <;> exact ⟨rfl, rfl⟩

/-- A call that is answered was the first in line, and the others move up. -/
theorem polled_turns {q after : IngressQueue Nat} {call : Nat} {answer : Answer}
    (polled : Polled q call answer after) :
    served (answerNotes call answer) ++ after.line = q.line := by
  cases polled with
  | payload _ _ others first | closed others first => exact first.symm
  | idle | behind => rfl

/-- Answers come in the order of the starts; a call with no answer is dropped or still in line. -/
structure InTurn (log : List Note) (r : Receiver) : Prop where
  fit : r.Fit
  starts : started log = List.range r.calls.length
  known : ∀ call ∈ dropped log, call < r.calls.length
  turns : served log ++ r.lock.line =
    (List.range r.calls.length).filter fun call => call ∉ dropped log

theorem new_inTurn (capacity : Nat) : InTurn [] (new capacity) :=
  ⟨new_fit capacity, rfl, by simp [dropped], rfl⟩

section Steps
variable {log : List Note} {r : Receiver}

/-- Polls and answers keep the order: `q` is the queue in which call `asker` was polled. -/
theorem answer_keeps {q : IngressQueue Nat} {asker : Nat} {answer : Answer} {after : Receiver}
    (polled : Polled q asker answer after.queue) {calls : List Nat}
    (turns : served log ++ q.line = calls) :
    served (log ++ answerNotes asker answer) ++ after.lock.line = calls := by
  rw [served_append, List.append_assoc, ← turns]
  exact congrArg (served log ++ ·) (polled_turns polled)

theorem InTurn.start (inTurn : InTurn log r) :
    InTurn (log ++ (r.step .start).2) (r.step .start).1 := by
  obtain ⟨fit, starts, known, turns⟩ := inTurn
  obtain ⟨noStarts, noDrops⟩ := answer_turns r.calls.length r.start.1
  have length := r.start_length
  have notes : log ++ (r.step .start).2 =
      (log ++ [.started r.calls.length]) ++ answerNotes r.calls.length r.start.1 := by
    simp [step]
  have accounts : started (log ++ [.started r.calls.length]) = started log ++ [r.calls.length] ∧
      dropped (log ++ [.started r.calls.length]) = dropped log ∧
      served (log ++ [.started r.calls.length]) = served log := by
    simp [started, dropped, served, List.filterMap_cons]
  have fresh : r.calls.length ∉ dropped log := fun member => Nat.lt_irrefl _ (known _ member)
  rw [notes]
  refine ⟨fit.start.2.2, ?_, fun call member => ?_, ?_⟩
  · rw [started_append, noStarts, List.append_nil, accounts.1, starts, step, length,
      List.range_succ]
  · rw [dropped_append, noDrops, List.append_nil, accounts.2.1] at member
    rw [step, length]
    exact Nat.lt_succ_of_lt (known call member)
  · refine answer_keeps fit.started ?_
    rw [accounts.2.2, ← List.append_assoc, turns, dropped_append, noDrops, List.append_nil,
      accounts.2.1, step, length, List.range_succ, List.filter_append]
    simp [fresh]

theorem InTurn.poll (inTurn : InTurn log r) (call : Nat) :
    InTurn (log ++ (r.step (.poll call)).2) (r.step (.poll call)).1 := by
  obtain ⟨fit, starts, known, turns⟩ := inTurn
  obtain ⟨noStarts, noDrops⟩ := answer_turns call (r.poll call).1
  have length := r.poll_length call
  refine ⟨(fit.poll call).2.2, ?_, fun other member => ?_, ?_⟩
  · rw [step, started_append, noStarts, List.append_nil, starts, length]
  · rw [step, dropped_append, noDrops, List.append_nil] at member
    rw [step, length]
    exact known other member
  · rw [step, dropped_append, noDrops, List.append_nil, length]
    exact answer_keeps (fit.polled call) turns

theorem InTurn.drop (inTurn : InTurn log r) (call : Nat) :
    InTurn (log ++ (r.step (.drop call)).2) (r.step (.drop call)).1 := by
  obtain ⟨fit, starts, known, turns⟩ := inTurn
  have length := r.drop_length call
  have line := fit.drop_line call
  cases pending : r.isPending call with
  | false =>
    simpa [step, pending, drop_of_settled pending] using InTurn.mk fit starts known turns
  | true =>
    have inside := length_of_pending pending
    have member : call ∈ r.lock.line := (fit.pending call).mpr pending
    -- A call that is in line has not been served, as every call is at one place only.
    have distinct : (served log ++ r.lock.line).Nodup := by
      rw [turns]
      exact List.Nodup.sublist List.filter_sublist List.nodup_range
    have waits : call ∉ served log := by
      intro before
      exact (List.nodup_append.mp distinct).2.2 call before call member rfl
    have accounts : started [Note.dropped call] = [] ∧ dropped [Note.dropped call] = [call] ∧
        served [Note.dropped call] = [] := ⟨rfl, rfl, rfl⟩
    simp only [step, pending, ↓reduceIte]
    refine ⟨(fit.drop call).2, ?_, fun other member => ?_, ?_⟩
    · rw [started_append, accounts.1, List.append_nil, starts, length]
    · rw [length]
      rw [dropped_append, accounts.2.1] at member
      rcases List.mem_append.mp member with before | now
      · exact known other before
      · rw [List.mem_singleton.mp now]
        exact inside
    · have kept : (served log).filter (· != call) = served log :=
        List.filter_eq_self.mpr fun other before => by
          simpa using fun same : other = call => waits (same ▸ before)
      rw [served_append, accounts.2.2, List.append_nil, length, line, dropped_append, accounts.2.1,
        ← kept, ← List.filter_append, turns, List.filter_filter]
      exact List.filter_congr fun other _ => by by_cases same : other = call <;> simp [same]

end Steps

theorem step_inTurn {log : List Note} {r : Receiver} (inTurn : InTurn log r) (act : Act) :
    InTurn (log ++ (r.step act).2) (r.step act).1 := by
  cases act with
  | offer bytes =>
    obtain ⟨fit, starts, known, turns⟩ := inTurn
    have accounts : started [Note.accepted bytes] = [] ∧ dropped [Note.accepted bytes] = [] ∧
        served [Note.accepted bytes] = [] := ⟨rfl, rfl, rfl⟩
    rcases r.step_offer bytes with ⟨-, -, stepped⟩ | ⟨-, stepped⟩
    · rw [stepped]
      refine ⟨fit.rechannel _, ?_, ?_, ?_⟩
      · simpa [accounts] using starts
      · simpa [accounts] using known
      · simpa [accounts] using turns
    · rw [stepped, List.append_nil]
      exact ⟨fit, starts, known, turns⟩
  | close =>
    rw [step, List.append_nil]
    exact ⟨inTurn.fit.rechannel _, inTurn.starts, inTurn.known, inTurn.turns⟩
  | start => exact inTurn.start
  | poll call => exact inTurn.poll call
  | drop call => exact inTurn.drop call

theorem run_inTurn {log : List Note} {r : Receiver} (inTurn : InTurn log r) (acts : List Act) :
    InTurn (log ++ (r.run acts).2) (r.run acts).1 := by
  induction acts generalizing log r with
  | nil => simpa [run] using inTurn
  | cons act rest ih =>
    have after := ih (step_inTurn inTurn act)
    rwa [List.append_assoc] at after

/-! ### Nobody overtakes -/

theorem InTurn.served_sorted {log : List Note} {r : Receiver} (inTurn : InTurn log r) :
    (served log).Pairwise (· < ·) := by
  have whole : (served log ++ r.lock.line).Pairwise (· < ·) := by
    rw [inTurn.turns]
    exact List.pairwise_lt_range.filter _
  exact (List.pairwise_append.mp whole).1

theorem eq_of_range_getElem? {n i call : Nat} (found : (List.range n)[i]? = some call) :
    call = i := by
  obtain ⟨inside, same⟩ := List.getElem?_eq_some_iff.mp found
  rw [List.getElem_range] at same
  exact same.symm

theorem mem_started {log : List Note} {call : Nat} :
    call ∈ started log ↔ .started call ∈ log := by
  simp only [started, List.mem_filterMap]
  constructor
  · rintro ⟨note, member, same⟩
    cases note with
    | started other => exact Option.some.inj same ▸ member
    | accepted | answered | dropped => cases same
  · exact fun member => ⟨_, member, rfl⟩

theorem mem_served {log : List Note} {call : Nat} {answer : Answer}
    (member : .answered call answer ∈ log) : call ∈ served log :=
  List.mem_filterMap.mpr ⟨_, member, rfl⟩

/-- Between the start of a call and its answer only calls that were started before are answered. -/
theorem InTurn.not_overtaken {before middle after : List Note} {call other : Nat}
    {answer given : Answer} {r : Receiver}
    (inTurn : InTurn (before ++ .started call :: middle ++ .answered call answer :: after) r)
    (member : .answered other given ∈ middle) : .started other ∈ before := by
  have starts : started before ++ call :: started (middle ++ .answered call answer :: after) =
      List.range r.calls.length := by
    have starts := inTurn.starts
    rwa [List.append_assoc, List.cons_append, started_append] at starts
  -- The starts before are numbered without gaps, so that this call has their number.
  have earlier : started before = List.range call := by
    have next : (List.range r.calls.length)[(started before).length]? = some call := by
      rw [← starts, List.getElem?_append_right (Nat.le_refl _), Nat.sub_self]
      rfl
    have inside := (List.getElem?_eq_some_iff.mp next).1
    have front := congrArg (List.take (started before).length) starts
    rw [List.take_left, List.take_range, Nat.min_eq_left (by simpa using Nat.le_of_lt inside)]
      at front
    rw [eq_of_range_getElem? next]
    exact front
  have lower : other < call := by
    have sorted := inTurn.served_sorted
    rw [served_append, List.pairwise_append] at sorted
    refine sorted.2.2 other ?_ call List.mem_cons_self
    rw [served_append]
    exact List.mem_append_right _ (mem_served (List.mem_cons_of_mem _ member))
  rw [← mem_started, earlier]
  exact List.mem_range.mpr lower

/-! ### Readers that ask again and again -/

/-- As long as no call is dropped, the calls in line are answered and then those that start later. -/
theorem InTurn.later {log : List Note} {r : Receiver} (inTurn : InTurn log r) (acts : List Act)
    (kept : dropped (r.run acts).2 = []) :
    served (r.run acts).2 ++ (r.run acts).1.lock.line =
      r.lock.line ++ (List.range (started (r.run acts).2).length).map (r.calls.length + ·) := by
  obtain ⟨-, starts, -, turns⟩ := run_inTurn inTurn acts
  rw [started_append, inTurn.starts] at starts
  have length : (r.run acts).1.calls.length = r.calls.length + (started (r.run acts).2).length := by
    simpa using (congrArg List.length starts).symm
  have fresh : ((List.range (started (r.run acts).2).length).map (r.calls.length + ·)).filter
      (fun call => call ∉ dropped log) =
        (List.range (started (r.run acts).2).length).map (r.calls.length + ·) := by
    refine List.filter_eq_self.mpr fun call member => ?_
    obtain ⟨i, -, rfl⟩ := List.mem_map.mp member
    have above : r.calls.length + i ∉ dropped log := fun before =>
      absurd (inTurn.known _ before) (by omega)
    simpa using above
  rw [served_append, dropped_append, kept, List.append_nil, length, List.range_add,
    List.filter_append, ← inTurn.turns, fresh, List.append_assoc, List.append_assoc] at turns
  exact List.append_cancel_left turns

/--
Each reader that gets an answer starts its next call at once: with calls numbered from `next` on,
call `next + i` is of the reader that got answer `i`.
-/
def Looping {κ : Type} (reader : Nat → κ) (next : Nat) (served : List Nat) : Prop :=
  ∀ i call, served[i]? = some call → reader (next + i) = reader call

/-- Readers that ask again and again get their answers in the order in which they were in line. -/
theorem InTurn.looping {log : List Note} {r : Receiver} (inTurn : InTurn log r) {acts : List Act}
    (kept : dropped (r.run acts).2 = []) (busy : r.lock.line ≠ []) {κ : Type} {reader : Nat → κ}
    (looping : Looping reader r.calls.length (served (r.run acts).2)) (i : Nat) :
    ∀ call, (served (r.run acts).2)[i]? = some call →
      ∃ first, r.lock.line[i % r.lock.line.length]? = some first ∧ reader call = reader first := by
  have order := inTurn.later acts kept
  have size := List.length_pos_iff.mpr busy
  induction i using Nat.strongRecOn with
  | ind i ih =>
    intro call found
    have inside := (List.getElem?_eq_some_iff.mp found).1
    have place := congrArg (·[i]?) order
    simp only [List.getElem?_append_left inside, found] at place
    rcases Nat.lt_or_ge i r.lock.line.length with first | later
    · rw [List.getElem?_append_left first] at place
      rw [Nat.mod_eq_of_lt first]
      exact ⟨call, place.symm, rfl⟩
    · obtain ⟨j, rfl⟩ := Nat.exists_eq_add_of_le later
      -- This call was started by the reader that got answer `j`, a round before.
      rw [List.getElem?_append_right later, Nat.add_sub_cancel_left, List.getElem?_map] at place
      obtain ⟨number, there, rfl⟩ := Option.map_eq_some_iff.mp place.symm
      rw [eq_of_range_getElem? there]
      have before := List.getElem?_eq_getElem (show j < (served (r.run acts).2).length by omega)
      rw [looping j _ before, Nat.add_mod_left]
      exact ih j (by omega) _ before

/-! ### The first in line -/

/-- What only the first call in line can do, and what dropping it does. -/
structure Fronted (r : Receiver) : Prop where
  inHand : ∀ call, r.calls[call]? = some .receiving → r.lock.line.head? = some call
  behind : ∀ call, r.lock.line.head? ≠ some call → r.poll call = (.pending, r)
  payload : ∀ call bytes rest, r.lock.line.head? = some call →
    r.channel.payloads = bytes :: rest → (r.poll call).1 = .payload bytes
  closed : ∀ call, r.lock.line.head? = some call → r.channel.payloads = [] →
    r.channel.isOpen = false → (r.poll call).1 = .closed
  waits : ∀ call, r.lock.line.head? = some call → (r.poll call).1 = .pending →
    r.channel.payloads = [] ∧ r.channel.isOpen = true
  next : ∀ call others, r.lock.line = call :: others → (r.drop call).lock.line = others

theorem Fit.fronted {r : Receiver} (fit : r.Fit) : r.Fronted where
  inHand call found := by
    rw [fit.handed.head?]
    exact fit.inHand call found
  behind call other := by
    rw [fit.handed.head?] at other
    exact fit.poll_behind other
  payload call bytes rest first content := by
    have polled := fit.polled call
    generalize (r.poll call).1 = answer at polled ⊢
    generalize (r.poll call).2.queue = after at polled
    cases polled with
    | payload other more others _ same => rw [(List.cons.inj (same.symm.trans content)).1]
    | closed _ _ empty | idle _ _ empty => cases empty.symm.trans content
    | behind other => exact absurd first other
  closed call first empty gone := by
    have polled := fit.polled call
    generalize (r.poll call).1 = answer at polled ⊢
    generalize (r.poll call).2.queue = after at polled
    cases polled with
    | payload _ _ _ _ content => cases empty.symm.trans content
    | closed => rfl
    | idle _ _ _ producer => cases gone.symm.trans producer
    | behind other => exact absurd first other
  waits call first pending := by
    have polled := fit.polled call
    rw [pending] at polled
    generalize (r.poll call).2.queue = after at polled
    cases polled with
    | idle _ _ empty producer => exact ⟨empty, producer⟩
    | behind other => exact absurd first other
  next call others line := by
    have dropped := congrArg IngressQueue.line (fit.drop call).1
    simp only [queue, IngressQueue.cancel, line, List.erase_cons_head] at dropped
    exact dropped

/-- Calls are answered first come, first served: `log` is what was noted until now. -/
structure FirstCome (log : List Note) (r : Receiver) : Prop where
  /-- Calls are numbered in the order of their starts. -/
  starts : started log = List.range r.calls.length
  /-- The calls that were not dropped are answered in this order, and the others are in line. -/
  turns : served log ++ r.lock.line =
    (List.range r.calls.length).filter fun call => call ∉ dropped log
  /-- Between the start of a call and its answer only calls are answered that started before. -/
  ahead : ∀ before call middle answer after other given,
    log = before ++ .started call :: middle ++ .answered call answer :: after →
      .answered other given ∈ middle → .started other ∈ before
  /-- Readers that are in line and ask again and again are served in turn. -/
  rounds : ∀ (κ : Type) (reader : Nat → κ) (later : List Act), r.lock.line ≠ [] →
    dropped (r.run later).2 = [] → Looping reader r.calls.length (served (r.run later).2) →
      ∀ i call, (served (r.run later).2)[i]? = some call →
        ∃ first, r.lock.line[i % r.lock.line.length]? = some first ∧ reader call = reader first
  front : r.Fronted

/--
Calls are answered in the order in which they were started. Nobody who starts later overtakes, and
readers that ask again and again take turns. Only the first in line is ever answered, and at once if
there is a payload or nothing more comes; when it is dropped, the next is first. So it is with
relays: one that has ended is out of the line, and the first that is left takes the oldest frame.
-/
theorem calls_served_in_turn :
    (∀ (capacity : Nat) (acts : List Act),
      FirstCome ((new capacity).run acts).2 ((new capacity).run acts).1) ∧
    ∀ (v : Verbosity) (location : Location) (registry : Registry) (queueSize : Nat)
      (settings : Settings) (acts : List Headend.Act),
      ((Headend.new location registry queueSize settings).run v acts).1.Attended v := by
  refine ⟨fun capacity acts => ?_, fun v location registry queueSize settings acts => ?_⟩
  · have inTurn := run_inTurn (new_inTurn capacity) acts
    rw [List.nil_append] at inTurn
    refine ⟨inTurn.starts, inTurn.turns, ?_, ?_, inTurn.fit.fronted⟩
    · intro before call middle answer after other given split member
      rw [split] at inTurn
      exact inTurn.not_overtaken member
    · intro κ reader later busy kept looping
      exact inTurn.looping kept busy looping
  · exact (Headend.run_lined (Headend.new_lined location registry queueSize settings) v
      acts).attended v

end OpticalAccess.Receiver
