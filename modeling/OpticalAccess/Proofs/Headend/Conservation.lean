import OpticalAccess.Proofs.Headend.Accounts
import Mathlib.Data.List.Basic

/-!
# Conservation of frames

Whatever the order of steps, payloads leave the queue in the order in which it took them, and every
payload that was taken is in one place only. What goes with a controller is exactly what the buffer
of its stream and the relay held when it went away.
-/

namespace OpticalAccess.Headend
open Session (Balanced pulled received handed lost)

/-! ### Runs keep the accounts -/

theorem pulled_session (i : Nat) (notes : List Session.Note) :
    (notes.map (.session i)).filterMap pulled? = pulled notes := by
  rw [List.filterMap_map]
  rfl

theorem accepted_session (i : Nat) (notes : List Session.Note) :
    (notes.map (.session i)).filterMap accepted? = [] := by
  simp [Function.comp_def]

/-- The accounts of a terminal and of all its sessions balance. -/
structure Conserved (log : List Note) (h : Headend) : Prop where
  order : log.filterMap accepted? = log.filterMap pulled? ++ h.terminal.queue.payloads
  sessions : ∀ i s, h.sessions[i]? = some s →
    Balanced (about i log) s ∧ s.stream.capacity = max 1 h.settings.relayBuffer
  unopened : ∀ i, h.sessions[i]? = none → about i log = []

theorem new_conserved (location : Location) (registry : Registry) (queueSize : Nat)
    (settings : Settings) : Conserved [] (new location registry queueSize settings) := by
  refine ⟨rfl, fun i s found => ?_, fun _ _ => rfl⟩
  cases found

theorem forward_queue (v : Verbosity) (t : Terminal) (f : Forward) :
    (forwardNotes f ((t.step f).value v).1).filterMap pulled? = [] ∧
      ((t.step f).value v).2.queue.payloads =
        t.queue.payloads ++ (forwardNotes f ((t.step f).value v).1).filterMap accepted? := by
  have goes := t.step_goes f v
  generalize (t.step f).value v = outcome at goes
  obtain ⟨next, after⟩ := outcome
  cases goes <;> simp [forwardNotes]

theorem step_queue {log : List Note} {h : Headend} (conserved : Conserved log h) (v : Verbosity)
    (act : Act) :
    h.terminal.queue.payloads ++ (h.step v act).2.filterMap accepted? =
      (h.step v act).2.filterMap pulled? ++ (h.step v act).1.terminal.queue.payloads := by
  cases act with
  | arrive | closeIngress | install => exact List.append_nil _
  | forward index =>
    cases found : h.forwards[index]? with
    | none => simp [step, found]
    | some f =>
      obtain ⟨pulls, queue⟩ := forward_queue v h.terminal f
      simp only [step, found, pulls, queue, List.nil_append]
  | openStream =>
    simp only [step]
    split <;> exact List.append_nil _
  | session index m =>
    cases found : h.sessions[index]? with
    | none => simp [step, found]
    | some s =>
      obtain ⟨balanced, -⟩ := conserved.sessions index s found
      obtain ⟨-, -, queue⟩ :=
        Session.move_balanced balanced v h.terminal.location.address h.terminal.queue m
      simp only [step, found, accepted_session, pulled_session, List.append_nil]
      exact queue

theorem step_settings (v : Verbosity) (h : Headend) (act : Act) :
    (h.step v act).1.settings = h.settings := by
  unfold step
  split <;> (try split) <;> rfl

theorem step_conserved {log : List Note} {h : Headend} (conserved : Conserved log h)
    (v : Verbosity) (act : Act) : Conserved (log ++ (h.step v act).2) (h.step v act).1 := by
  refine ⟨?_, fun i s found => ?_, fun i absent => ?_⟩
  · rw [List.filterMap_append, List.filterMap_append, conserved.order, List.append_assoc,
      List.append_assoc, step_queue conserved]
  · rw [about_append, step_settings]
    have place := step_place v h act i
    rw [found] at place
    generalize about i (h.step v act).2 = notes at place
    generalize at_ : some s = entry at place
    cases place with
    | kept =>
      rw [List.append_nil]
      exact conserved.sessions i s at_.symm
    | opened _ last =>
      obtain rfl := Option.some.inj at_
      rw [conserved.unopened i (List.getElem?_eq_none (Nat.le_of_eq last))]
      exact ⟨Session.opened_balanced _ _, rfl⟩
    | moved before m _ here =>
      obtain rfl := Option.some.inj at_
      obtain ⟨balanced, capacity⟩ := conserved.sessions i before here
      obtain ⟨after, same, -⟩ :=
        Session.move_balanced balanced v h.terminal.location.address h.terminal.queue m
      exact ⟨after, same.trans capacity⟩
  · rw [about_append]
    have place := step_place v h act i
    rw [absent] at place
    generalize about i (h.step v act).2 = notes at place
    generalize at_ : none = entry at place
    cases place with
    | kept =>
      rw [List.append_nil]
      exact conserved.unopened i at_.symm
    | opened | moved => cases at_

theorem run_conserved {log : List Note} {h : Headend} (conserved : Conserved log h)
    (v : Verbosity) (acts : List Act) :
    Conserved (log ++ (h.run v acts).2) (h.run v acts).1 := by
  induction acts generalizing log h with
  | nil => simpa [run] using conserved
  | cons act rest ih =>
    have after := ih (step_conserved conserved v act)
    rwa [List.append_assoc] at after

/-! ### Every payload in one place -/

theorem flatMap_range_cons {f g : Nat → List Bytes} {j n : Nat} {payload : Bytes} (inside : j < n)
    (grown : g j = payload :: f j) (others : ∀ i, i ≠ j → g i = f i) :
    ((List.range n).flatMap g).Perm (payload :: (List.range n).flatMap f) := by
  induction n with
  | zero => cases inside
  | succ n ih =>
    simp only [List.range_succ, List.flatMap_append, List.flatMap_singleton]
    by_cases last : j = n
    · subst last
      have same : (List.range j).flatMap g = (List.range j).flatMap f := by
        apply List.flatMap_congr
        intro i member
        exact others i (Nat.ne_of_lt (List.mem_range.mp member))
      rw [same, grown]
      exact List.perm_middle
    · rw [others n (Ne.symm last)]
      exact (ih (by omega)).append_right _

theorem about_accepted (i : Nat) (payload : Bytes) (rest : List Note) :
    about i (.accepted payload :: rest) = about i rest := rfl

theorem about_own (i : Nat) (note : Session.Note) (rest : List Note) :
    about i (.session i note :: rest) = note :: about i rest := by
  simp [about]

theorem about_others {i j : Nat} (other : i ≠ j) (note : Session.Note) (rest : List Note) :
    about i (.session j note :: rest) = about i rest := by
  simp [about, Ne.symm other]

/-- What all relays took is what each of them took, put together. -/
theorem pulled_perm {log : List Note} {n : Nat} (unopened : ∀ i, n ≤ i → about i log = []) :
    (log.filterMap pulled?).Perm ((List.range n).flatMap fun i => pulled (about i log)) := by
  induction log with
  | nil => simp [pulled]
  | cons note rest ih =>
    have later : ∀ i, n ≤ i → about i rest = [] := by
      intro i beyond
      have whole := unopened i beyond
      rw [← List.singleton_append, about_append] at whole
      exact (List.append_eq_nil_iff.mp whole).2
    cases note with
    | accepted payload =>
      simp only [about_accepted]
      exact ih later
    | session j note =>
      have inside : j < n := by
        by_contra beyond
        have empty := unopened j (Nat.not_lt.mp beyond)
        rw [about_own] at empty
        cases empty
      cases kind : note.pulled? with
      | none =>
        have quiet : ∀ i, pulled (about i (.session j note :: rest)) = pulled (about i rest) := by
          intro i
          by_cases hit : i = j
          · subst hit
            rw [about_own, pulled, List.filterMap_cons_none kind, pulled]
          · rw [about_others hit]
        have silent : pulled? (.session j note) = none := kind
        simp only [quiet]
        rw [List.filterMap_cons_none silent]
        exact ih later
      | some payload =>
        have grown : pulled (about j (.session j note :: rest)) =
            payload :: pulled (about j rest) := by
          rw [about_own, pulled, List.filterMap_cons_some kind, pulled]
        have others : ∀ i, i ≠ j →
            pulled (about i (.session j note :: rest)) = pulled (about i rest) := by
          intro i other
          rw [about_others other]
        have taken : pulled? (.session j note) = some payload := kind
        rw [List.filterMap_cons_some taken]
        exact ((ih later).cons payload).trans (flatMap_range_cons inside grown others).symm

/-! ### After a controller went away -/

theorem run_append (v : Verbosity) (h : Headend) (xs ys : List Act) :
    h.run v (xs ++ ys) =
      (((h.run v xs).1.run v ys).1, (h.run v xs).2 ++ ((h.run v xs).1.run v ys).2) := by
  induction xs generalizing h with
  | nil => rfl
  | cons act rest ih => simp only [List.cons_append, run, ih, List.append_assoc]

theorem step_gone {log : List Note} {h : Headend} (conserved : Conserved log h) {i : Nat}
    {s : Session} (found : h.sessions[i]? = some s) (gone : s.stream.reading = false)
    (v : Verbosity) (act : Act) :
    ∃ next, (h.step v act).1.sessions[i]? = some next ∧ next.stream.reading = false ∧
      pulled (about i (h.step v act).2) = [] ∧ received (about i (h.step v act).2) = [] := by
  have place := step_place v h act i
  generalize (h.step v act).1.sessions[i]? = entry at place
  generalize about i (h.step v act).2 = notes at place
  cases place with
  | kept => exact ⟨s, found, gone, rfl, rfl⟩
  | opened _ last =>
    rw [List.getElem?_eq_none (Nat.le_of_eq last)] at found
    cases found
  | moved before m _ here =>
    obtain rfl := Option.some.inj (here.symm.trans found)
    obtain ⟨balanced, -⟩ := conserved.sessions i before here
    exact ⟨_, rfl, Session.move_gone balanced gone v _ _ m⟩

theorem run_gone {log : List Note} {h : Headend} (conserved : Conserved log h) {i : Nat}
    {s : Session} (found : h.sessions[i]? = some s) (gone : s.stream.reading = false)
    (v : Verbosity) (acts : List Act) :
    ∃ last, (h.run v acts).1.sessions[i]? = some last ∧ last.stream.reading = false ∧
      pulled (about i (h.run v acts).2) = [] ∧ received (about i (h.run v acts).2) = [] := by
  induction acts generalizing log h s with
  | nil => exact ⟨s, found, gone, rfl, rfl⟩
  | cons act rest ih =>
    obtain ⟨next, there, still, pulls, receipts⟩ := step_gone conserved found gone v act
    obtain ⟨last, end_, away, laterPulls, laterReceipts⟩ :=
      ih (step_conserved conserved v act) there still
    refine ⟨last, end_, away, ?_, ?_⟩
    · simp only [run, about_append, Session.pulled_append, pulls, laterPulls, List.append_nil]
    · simp only [run, about_append, Session.received_append, receipts, laterReceipts,
        List.append_nil]

/-- What goes with a controller: what its stream buffered and its relay held when it went. -/
theorem run_drop {log : List Note} {h : Headend} (conserved : Conserved log h) {i : Nat}
    {s : Session} (found : h.sessions[i]? = some s) (reader : s.stream.reading = true)
    (v : Verbosity) (after : List Act) :
    ∃ last, (h.run v (.session i .drop :: after)).1.sessions[i]? = some last ∧
      pulled (about i (h.run v (.session i .drop :: after)).2) = [] ∧
      lost (about i (h.run v (.session i .drop :: after)).2) ++ last.held =
        Item.payloads s.stream.buffer ++ s.held := by
  obtain ⟨balanced, -⟩ := conserved.sessions i s found
  have dropped : (h.step v (.session i .drop)).1.sessions[i]? =
      some { s with stream := s.stream.drop } := by
    simp only [step, found, Session.move]
    exact List.getElem?_set_self (List.getElem?_eq_some_iff.mp found).1
  have noted : about i (h.step v (.session i .drop)).2 =
      (Item.payloads s.stream.buffer).map .lost := by
    simp only [step, found, Session.move, about_session]
  obtain ⟨pulls, receipts, -, -⟩ := Session.accounts_lost (Item.payloads s.stream.buffer)
  have later := step_conserved conserved v (.session i .drop)
  obtain ⟨last, there, away, noPulls, noReceipts⟩ := run_gone later dropped rfl v after
  obtain ⟨final, -⟩ := (run_conserved conserved v (.session i .drop :: after)).sessions i last there
  have quiet : pulled (about i (h.run v (.session i .drop :: after)).2) = [] := by
    simp only [run, about_append, Session.pulled_append, noted, pulls, noPulls, List.append_nil]
  have still : received (about i (h.run v (.session i .drop :: after)).2) = [] := by
    simp only [run, about_append, Session.received_append, noted, receipts, noReceipts,
      List.append_nil]
  refine ⟨last, there, quiet, ?_⟩
  -- Both balances start with what had been received; it did not change, so the rests agree.
  have places := final.places
  rw [about_append, Session.pulled_append, Session.received_append, Session.lost_append, quiet,
    still, (final.absent away).1, balanced.places, (balanced.present reader).1] at places
  simpa using places.symm

/-- Where the payloads of a terminal are: `log` is what was noted until now. -/
structure Placed (log : List Note) (h : Headend) : Prop where
  /-- The queue handed out what it took, in the same order, and still has the rest. -/
  order : log.filterMap accepted? = log.filterMap pulled? ++ h.terminal.queue.payloads
  /-- Whatever the queue handed out went to the relay of exactly one session. -/
  shared : (log.filterMap pulled?).Perm
    ((List.range h.sessions.length).flatMap fun i => pulled (about i log))
  /-- What a relay took is at exactly one of four places, oldest first. -/
  places : ∀ i s, h.sessions[i]? = some s → pulled (about i log) =
    received (about i log) ++ lost (about i log) ++ Item.payloads s.stream.buffer ++ s.held
  /-- What the controller was given is what was received, in order, as far as it has read. -/
  given : ∀ i s, h.sessions[i]? = some s → handed (about i log) <+: received (about i log)
  /-- Nothing is lost while the controller is there, and what it has not read waits for it. -/
  waiting : ∀ i s, h.sessions[i]? = some s → s.stream.reading = true →
    lost (about i log) = [] ∧
      received (about i log) = handed (about i log) ++ Item.payloads s.stream.taken
  /-- A relay holds at most one payload, and a stream buffers no more than it has room for. -/
  bounds : ∀ (i : Nat) (s : Session), h.sessions[i]? = some s →
    s.held.length ≤ 1 ∧ s.stream.buffer.length ≤ max 1 h.settings.relayBuffer
  /-- With a controller, at most its buffer and the payload that its relay held are lost. -/
  loss : ∀ (i : Nat) (s : Session), h.sessions[i]? = some s →
    (lost (about i log)).length + s.held.length ≤ max 1 h.settings.relayBuffer + 1

theorem Conserved.placed {log : List Note} {h : Headend} (conserved : Conserved log h) :
    Placed log h where
  order := conserved.order
  shared := pulled_perm fun i beyond => conserved.unopened i (List.getElem?_eq_none beyond)
  places i s found := (conserved.sessions i s found).1.places
  given i s found := (conserved.sessions i s found).1.handed
  waiting i s found := (conserved.sessions i s found).1.present
  bounds i s found := by
    obtain ⟨balanced, capacity⟩ := conserved.sessions i s found
    have room := balanced.room
    rw [capacity] at room
    exact ⟨Session.length_held_le s, room⟩
  loss i s found := by
    obtain ⟨balanced, capacity⟩ := conserved.sessions i s found
    have loss := balanced.loss
    rwa [capacity] at loss

/--
No frame is lost, duplicated, altered or reordered on its way from the queue to controllers,
whatever the tasks on a terminal do and in whatever order. When a controller goes away, its relay
takes nothing more, and what is lost is exactly what was on its way to this controller then.
-/
theorem ingress_frames_conserved (v : Verbosity) (location : Location) (registry : Registry)
    (queueSize : Nat) (settings : Settings) (acts : List Act) :
    let run := (new location registry queueSize settings).run v
    Placed (run acts).2 (run acts).1 ∧
      ∀ before i after, acts = before ++ .session i .drop :: after →
        ∀ s, (run before).1.sessions[i]? = some s → s.stream.reading = true →
          ∃ last, (run acts).1.sessions[i]? = some last ∧
            pulled (about i (run acts).2) = pulled (about i (run before).2) ∧
            lost (about i (run acts).2) ++ last.held =
              Item.payloads s.stream.buffer ++ s.held := by
  intro run
  have began := new_conserved location registry queueSize settings
  refine ⟨(run_conserved began v acts).placed, ?_⟩
  rintro before i after rfl s found reader
  have earlier : Conserved (run before).2 (run before).1 := run_conserved began v before
  obtain ⟨last, there, pulls, losses⟩ := run_drop earlier found reader v after
  obtain ⟨balanced, -⟩ := earlier.sessions i s found
  simp only [run, run_append]
  refine ⟨last, there, ?_, ?_⟩
  · rw [about_append, Session.pulled_append, pulls, List.append_nil]
  · rw [about_append, Session.lost_append, (balanced.present reader).1, List.nil_append, losses]

end OpticalAccess.Headend
