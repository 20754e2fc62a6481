import OpticalAccess.Proofs.Recoding.Plants
import OpticalAccess.Proofs.Submission.Deliveries

/-!
# Accounts of the frames that controllers send

A run is looked at act by act, and for one station at a time: which frames its controller has sent,
and what the tasks of these frames have called for and logged. Nothing else that goes on in the
network has an influence on that.
-/

namespace OpticalAccess

section Lists
variable {xs : List α} {x y : α} {i : Nat}

/-- One entry of a list is counted in place of another. -/
theorem countP_set_of_getElem? (p : α → Bool) (found : xs[i]? = some x) :
    (xs.set i y).countP p + (if p x then 1 else 0) = xs.countP p + if p y then 1 else 0 := by
  obtain ⟨inside, rfl⟩ := List.getElem?_eq_some_iff.mp found
  have counted : (if p xs[i] then 1 else 0) ≤ xs.countP p := by
    split
    · exact List.countP_pos_iff.mpr ⟨_, List.getElem_mem inside, ‹_›⟩
    · exact Nat.zero_le _
  rw [List.countP_set inside]
  omega

theorem forall_mem_set {P : α → Prop} (all : ∀ z ∈ xs, P z) (entry : P y) :
    ∀ z ∈ xs.set i y, P z := fun z member =>
  (List.mem_or_eq_of_mem_set member).elim (all z) fun same => same ▸ entry

theorem set_of_getElem? (found : xs[i]? = some x) : xs.set i x = xs := by
  obtain ⟨inside, rfl⟩ := List.getElem?_eq_some_iff.mp found
  exact List.set_getElem_self inside

theorem map_set_of_getElem? {f : α → β} (found : xs[i]? = some x) (same : f y = f x) :
    (xs.set i y).map f = xs.map f := by
  rw [List.map_set, same]
  exact set_of_getElem? (by rw [List.getElem?_map, found, Option.map_some])

/-- An entry for which there is nothing to tell may as well be missing. -/
theorem elim_getElem?_append {f : α → List β} (nothing : f x = []) (i : Nat) :
    (xs ++ [x])[i]?.elim [] f = xs[i]?.elim [] f := by
  rcases Nat.lt_trichotomy i xs.length with before | last | beyond
  · rw [List.getElem?_append_left before]
  · subst last
    simp [nothing]
  · rw [List.getElem?_eq_none (by simpa using Nat.succ_le_of_lt beyond),
      List.getElem?_eq_none (Nat.le_of_lt beyond)]

end Lists

namespace Plant

variable {v : Verbosity} {p : Plant} {n : Nat} {s after : Station} {act : Act} {notes : List Note}
  {events : List Event}

/-! ### Runs, act by act -/

/-- What one act came to. -/
structure Entry where
  act : Act
  notes : List Note
  events : List Event

def transcript (v : Verbosity) : Plant → List Act → List Entry
  | _, [] => []
  | p, act :: rest =>
    ⟨act, ((p.step act).value v).2, (p.step act).events v⟩ ::
      transcript v ((p.step act).value v).1 rest

theorem transcript_acts (p : Plant) (acts : List Act) :
    (transcript v p acts).map Entry.act = acts := by
  induction acts generalizing p with
  | nil => rfl
  | cons act rest ih => exact congrArg (act :: ·) (ih _)

theorem transcript_notes (p : Plant) (acts : List Act) :
    (transcript v p acts).flatMap Entry.notes = ((p.run acts).value v).2 := by
  induction acts generalizing p with
  | nil => rfl
  | cons act rest ih => exact congrArg (_ ++ ·) (ih _)

/-! ### One station -/

/-- A call for a forward of one frame of the controller of one station. -/
def Note.calls (n index : Nat) : Note → Bool
  | .station m note => m = n ∧ note.calls index
  | _ => false

namespace Act

/-- The payload that the controller of one station sends. -/
def sent? (n : Nat) : Act → Option Bytes
  | .station m (.submit payload) => if m = n then some payload else none
  | _ => none

/-- A step of the task of one frame of the controller of one station. -/
def delivers (n index : Nat) : Act → Bool
  | .station m (.deliver other) => m = n ∧ other = index
  | _ => false

end Act

/-- What an act means for one station. -/
inductive Visit (v : Verbosity) (n : Nat) (s : Station) :
    Act → Station → List Note → List Event → Prop
  | own (act : Station.Act) (after : Station) (notes : List Station.Note) (events : List Event)
      (goes : s.Goes v act after notes events) :
      Visit v n s (.station n act) after (notes.map (.station n)) events
  | apart (act : Act) (other : ∀ own, act ≠ .station n own) (after : Station)
      (rests : s.Rests after) (notes : List Note) (silent : ∀ i, notes.filter (Note.calls n i) = [])
      (events : List Event) : Visit v n s act after notes events

theorem filter_calls_own (n i : Nat) (notes : List Station.Note) :
    (notes.map (Note.station n)).filter (Note.calls n i) =
      (notes.filter (Station.Note.calls i)).map (Note.station n) := by
  simp [List.filter_map, Function.comp_def, Note.calls]

theorem filter_calls_other {m n : Nat} (other : m ≠ n) (i : Nat) (notes : List Station.Note) :
    (notes.map (Note.station m)).filter (Note.calls n i) = [] := by
  simp [Note.calls, other]

theorem filter_calls_apart (apart : ∀ m note, .station m note ∉ notes) (i : Nat) :
    notes.filter (Note.calls n i) = [] := by
  refine List.filter_eq_nil_iff.mpr fun note member => ?_
  cases note with
  | station m note => exact absurd member (apart m note)
  | _ => exact Bool.false_ne_true

theorem Turns.rests {place k fresh : Nat} {job : Job} {turn : Turn}
    (turns : Turns s place k fresh job turn) :
    s.Rests turn.station ∧ ∀ m note, .station m note ∉ turn.notes := by
  cases turns with
  | wrote table able => exact ⟨⟨s.device.rests_setFlows table.flows, rfl, rfl⟩, by simp⟩
  | surveyed stage next unfinished calls bare notes silent apart => exact ⟨.refl s, apart⟩
  | locked | failed => exact ⟨⟨.refl _, rfl, rfl⟩, by simp⟩
  | _ => exact ⟨.refl s, by simp⟩

theorem Goes.apart {q : Plant} (goes : p.Goes v act q notes) (other : ∀ own, act ≠ .station n own)
    (here : p.stations[n]? = some s) :
    ∃ after, q.stations[n]? = some after ∧ s.Rests after ∧
      ∀ i, notes.filter (Note.calls n i) = [] := by
  cases goes with
  | nothing | request | drop | deliver => exact ⟨s, here, .refl s, fun _ => rfl⟩
  | progress c call found move progress becomes notes silent apart =>
    exact ⟨s, here, .refl s, filter_calls_apart apart⟩
  | station m s' own there =>
    have elsewhere : m ≠ n := fun same => other own (same ▸ rfl)
    exact ⟨s, by rw [List.getElem?_set_ne elsewhere, here], .refl s,
      fun i => filter_calls_other elsewhere i _⟩
  | turn k choice t s' task there turn turns =>
    obtain ⟨rests, apart⟩ := turns.rests
    by_cases hit : t.station = n
    · subst hit
      obtain rfl := Option.some.inj (here.symm.trans there)
      obtain ⟨inside, -⟩ := List.getElem?_eq_some_iff.mp here
      exact ⟨turn.station, List.getElem?_set_self inside, rests, filter_calls_apart apart⟩
    · exact ⟨s, by rw [settle, List.getElem?_set_ne hit, here], .refl s, filter_calls_apart apart⟩

theorem Goes.length {q : Plant} (goes : p.Goes v act q notes) :
    q.stations.length = p.stations.length := by
  cases goes <;> simp [settle]

theorem run_length (p : Plant) (acts : List Act) :
    ((p.run acts).value v).1.stations.length = p.stations.length := by
  induction acts generalizing p with
  | nil => rfl
  | cons act rest ih => exact (ih _).trans (p.step_goes act).length

theorem step_visit (here : p.stations[n]? = some s) (follows : ∀ e ∈ s.submissions, e.2.Follows e.1)
    (act : Act) : ∃ after, ((p.step act).value v).1.stations[n]? = some after ∧
      Visit v n s act after ((p.step act).value v).2 ((p.step act).events v) := by
  by_cases mine : ∃ own, act = .station n own
  · obtain ⟨own, rfl⟩ := mine
    obtain ⟨inside, -⟩ := List.getElem?_eq_some_iff.mp here
    refine ⟨((s.step own).value v).1, ?_, ?_⟩
    · simp only [step, here, Traced.value_bind, Traced.value_pure, List.getElem?_set_self inside]
    · simpa [step, here] using Visit.own own _ _ _ (s.step_goes follows own)
  · have other : ∀ own, act ≠ .station n own := fun own same => mine ⟨own, same⟩
    obtain ⟨after, there, rests, silent⟩ := (p.step_goes act).apart other here
    exact ⟨after, there, .apart act other after rests _ silent _⟩

namespace Visit

theorem stays (visit : Visit v n s act after notes events) :
    after.device.role = s.device.role ∧ after.device.location = s.device.location := by
  cases visit with
  | apart act other after rests => exact ⟨rests.device.role, rests.device.location⟩
  | own act after notes events goes =>
    cases goes with
    | delivered index frame delivery next found device events delivers =>
      exact ⟨delivers.stays.role, delivers.stays.location⟩
    | forwarded index passage found notes silent events =>
      have keeps := s.device.stepForward_keeps (v := v) passage.forward
      exact ⟨keeps.role, keeps.location⟩
    | rest act plain after rests => exact ⟨rests.device.role, rests.device.location⟩
    | _ => exact ⟨rfl, rfl⟩

/-- What becomes of the frames of the controller: one more, or one step of one task, or nothing. -/
inductive Frames (v : Verbosity) (n : Nat) (s : Station) :
    Act → List (Frame × Delivery) → List Note → List Event → Prop
  | submitted (payload : Bytes) (events : List Event) :
      Frames v n s (.station n (.submit payload)) (s.submissions ++ [(⟨payload⟩, .waiting)])
        [.station n .acknowledged] events
  | delivered (index : Nat) (frame : Frame) (delivery next : Delivery)
      (found : s.submissions[index]? = some (frame, delivery)) (device : Device)
      (events : List Event)
      (delivers : Router.Delivers s.device frame delivery next device events) :
      Frames v n s (.station n (.deliver index)) (s.submissions.set index (frame, next))
        ((Station.deliveryNotes index delivery next).map (.station n)) (v.keep events)
  | rest (act : Act) (notes : List Note) (silent : ∀ i, notes.filter (Note.calls n i) = [])
      (events : List Event) (unsent : act.sent? n = none)
      (missing : ∀ i, act.delivers n i → s.submissions[i]? = none ∧ events = []) :
      Frames v n s act s.submissions notes events

theorem frames (visit : Visit v n s act after notes events) :
    Frames v n s act after.submissions notes events := by
  have silent {notes : List Station.Note}
      (silent : ∀ i, notes.filter (Station.Note.calls i) = []) (i : Nat) :
      (notes.map (Note.station n)).filter (Note.calls n i) = [] := by
    rw [filter_calls_own, silent, List.map_nil]
  cases visit with
  | apart act other after rests notes silent events =>
    rw [rests.submissions]
    refine .rest act notes silent events ?_ fun i delivers => ?_
    · unfold Act.sent?
      split
      · exact if_neg fun same => other _ (congrArg (Act.station · _) same)
      · rfl
    · unfold Act.delivers at delivers
      split at delivers
      · exact absurd (congrArg (Act.station · _) (of_decide_eq_true delivers).1) (other _)
      · cases delivers
  | own act after notes events goes =>
    cases goes with
    | submitted payload => exact .submitted payload _
    | delivered index frame delivery next found device events delivers =>
      exact .delivered index frame delivery next found device events delivers
    | missing index missing =>
      refine .rest _ _ (fun _ => rfl) _ rfl fun i delivers => ⟨?_, rfl⟩
      obtain ⟨-, rfl⟩ := of_decide_eq_true delivers
      exact missing
    | arrived port payload notes quiet =>
      exact .rest _ _ (silent quiet) _ rfl fun i delivers => (Bool.false_ne_true delivers).elim
    | forwarded index passage found notes quiet events =>
      exact .rest _ _ (silent quiet) _ rfl fun i delivers => (Bool.false_ne_true delivers).elim
    | outage fault =>
      exact .rest _ _ (fun _ => rfl) _ rfl fun i delivers => (Bool.false_ne_true delivers).elim
    | rest act plain after rests notes quiet events =>
      rw [rests.submissions]
      refine .rest _ _ (silent quiet) _ ?_ fun i delivers => ?_
      · cases act <;> first | rfl | cases plain
      · cases act <;> first | cases delivers | cases plain

theorem follows (visit : Visit v n s act after notes events)
    (follows : ∀ e ∈ s.submissions, e.2.Follows e.1) :
    ∀ e ∈ after.submissions, e.2.Follows e.1 := by
  have frames := visit.frames
  generalize after.submissions = es at frames
  cases frames with
  | submitted payload events =>
    exact List.forall_mem_append.mpr ⟨follows, List.forall_mem_singleton.mpr .waiting⟩
  | delivered index frame delivery next found device events delivers =>
    exact forall_mem_set follows delivers.follows
  | rest => exact follows

end Visit

/-! ### What the controller of a station has sent -/

/-- The payloads that the controller of one station has sent, in the order in which it has. -/
def sentTo (n : Nat) (acts : List Act) : List Bytes := acts.filterMap (Act.sent? n)

/-- What the tasks of a station have done so far for the frames of its controller. -/
structure Account (v : Verbosity) (n : Nat) (log : List Entry) (s : Station) : Prop where
  follows : ∀ e ∈ s.submissions, e.2.Follows e.1
  sent : s.submissions.map (·.1.payload) = sentTo n (log.map Entry.act)
  acknowledged : ∀ entry ∈ log, ∀ payload, entry.act = .station n (.submit payload) →
    entry.notes = [.station n .acknowledged]
  calls : ∀ i, (log.flatMap Entry.notes).filter (Note.calls n i) =
    s.submissions[i]?.elim [] fun e =>
      if e.2.isWaiting then [] else [.station n (.called i egressPort e.1.payload)]
  told : ∀ i, (log.filter (·.act.delivers n i)).flatMap Entry.events =
    s.submissions[i]?.elim [] fun e => v.keep (e.2.story s.device e.1)

theorem new_account (unsent : s.submissions = []) : Account v n [] s where
  follows := by simp [unsent]
  sent := by simp [unsent, sentTo]
  acknowledged := by simp
  calls i := by simp [unsent]
  told i := by simp [unsent]

section Steps
variable {log : List Entry}

theorem flatMap_snoc_notes (log : List Entry) (entry : Entry) (n i : Nat) :
    ((log ++ [entry]).flatMap Entry.notes).filter (Note.calls n i) =
      (log.flatMap Entry.notes).filter (Note.calls n i) ++ entry.notes.filter (Note.calls n i) := by
  simp

theorem flatMap_snoc_events (log : List Entry) (entry : Entry) (n i : Nat) :
    ((log ++ [entry]).filter (·.act.delivers n i)).flatMap Entry.events =
      (log.filter (·.act.delivers n i)).flatMap Entry.events ++
        if entry.act.delivers n i then entry.events else [] := by
  by_cases mine : entry.act.delivers n i <;> simp [mine]

section Entries
variable (account : Account v n log s)
  (follows : ∀ e ∈ after.submissions, e.2.Follows e.1)
  (story : ∀ e : Frame × Delivery, e.2.story after.device e.1 = e.2.story s.device e.1)
include account follows story

theorem Account.submitted (payload : Bytes)
    (submissions : after.submissions = s.submissions ++ [(⟨payload⟩, .waiting)])
    (events : List Event) :
    Account v n
      (log ++ [⟨.station n (.submit payload), [.station n .acknowledged], events⟩]) after := by
  refine ⟨follows, ?_, ?_, fun i => ?_, fun i => ?_⟩
  · rw [submissions, List.map_append, account.sent, List.map_append, sentTo, sentTo,
      List.filterMap_append]
    simp [Act.sent?]
  · refine List.forall_mem_append.mpr ⟨account.acknowledged, ?_⟩
    exact List.forall_mem_singleton.mpr fun _ _ => rfl
  · rw [flatMap_snoc_notes, account.calls, submissions, elim_getElem?_append (by rfl)]
    simp [Note.calls, Station.Note.calls]
  · rw [flatMap_snoc_events, account.told, submissions, elim_getElem?_append (by rfl)]
    simp only [story]
    exact List.append_nil _

theorem Account.delivered {index : Nat} {frame : Frame} {delivery next : Delivery}
    (found : s.submissions[index]? = some (frame, delivery)) {device : Device}
    {events : List Event} (delivers : Router.Delivers s.device frame delivery next device events)
    (submissions : after.submissions = s.submissions.set index (frame, next)) :
    Account v n
      (log ++ [⟨.station n (.deliver index),
        (Station.deliveryNotes index delivery next).map (.station n), v.keep events⟩]) after := by
  obtain ⟨inside, -⟩ := List.getElem?_eq_some_iff.mp found
  refine ⟨follows, ?_, ?_, fun i => ?_, fun i => ?_⟩
  · rw [submissions, map_set_of_getElem? (y := (frame, next)) found rfl, account.sent,
      List.map_append, sentTo, sentTo, List.filterMap_append]
    exact (List.append_nil _).symm
  · refine List.forall_mem_append.mpr ⟨account.acknowledged, ?_⟩
    exact List.forall_mem_singleton.mpr fun _ same => by cases same
  · rw [flatMap_snoc_notes, account.calls, submissions, filter_calls_own]
    by_cases hit : index = i
    · subst hit
      rw [found, List.getElem?_set_self inside]
      cases delivers <;> simp [Delivery.isWaiting, Station.deliveryNotes, Station.Note.calls]
    · rw [List.getElem?_set_ne hit]
      cases delivers <;> simp [Station.deliveryNotes, Station.Note.calls, hit]
  · rw [flatMap_snoc_events, account.told, submissions]
    by_cases hit : index = i
    · subst hit
      rw [found, List.getElem?_set_self inside]
      simp [story, delivers.story, Verbosity.keep_append, Act.delivers]
    · rw [List.getElem?_set_ne hit]
      simp [story, Act.delivers, hit]

theorem Account.rest (silent : ∀ i, notes.filter (Note.calls n i) = [])
    (unsent : act.sent? n = none)
    (missing : ∀ i, act.delivers n i → s.submissions[i]? = none ∧ events = [])
    (submissions : after.submissions = s.submissions) :
    Account v n (log ++ [⟨act, notes, events⟩]) after := by
  refine ⟨follows, ?_, ?_, fun i => ?_, fun i => ?_⟩
  · rw [submissions, account.sent, List.map_append, sentTo, sentTo, List.filterMap_append]
    simp [unsent]
  · refine List.forall_mem_append.mpr ⟨account.acknowledged, ?_⟩
    refine List.forall_mem_singleton.mpr fun payload same => ?_
    rw [show act = .station n (.submit payload) from same] at unsent
    simp [Act.sent?] at unsent
  · rw [flatMap_snoc_notes, account.calls, submissions, silent, List.append_nil]
  · rw [flatMap_snoc_events, account.told, submissions]
    simp only [story]
    split
    · rename_i delivers
      rw [(missing i delivers).2, List.append_nil]
    · exact List.append_nil _

end Entries

theorem Account.step (account : Account v n log s) (visit : Visit v n s act after notes events) :
    Account v n (log ++ [⟨act, notes, events⟩]) after := by
  obtain ⟨role, location⟩ := visit.stays
  have follows := visit.follows account.follows
  have frames := visit.frames
  generalize submissions : after.submissions = es at frames
  have story (e : Frame × Delivery) : e.2.story after.device e.1 = e.2.story s.device e.1 :=
    Delivery.story_congr role location e.1 e.2
  cases frames with
  | submitted payload events => exact account.submitted follows story payload submissions events
  | delivered index frame delivery next found device events delivers =>
    exact account.delivered follows story found delivers submissions
  | rest act notes silent events unsent missing =>
    exact account.rest follows story silent unsent missing submissions

/-- The account of a station goes on over a run. -/
theorem run_account (acts : List Act) (here : p.stations[n]? = some s)
    (account : Account v n log s) :
    ∃ after, ((p.run acts).value v).1.stations[n]? = some after ∧
      Account v n (log ++ transcript v p acts) after := by
  induction acts generalizing p s log with
  | nil => exact ⟨s, here, by rwa [transcript, List.append_nil]⟩
  | cons act rest ih =>
    obtain ⟨next, there, visit⟩ := step_visit (v := v) here account.follows act
    obtain ⟨after, found, accounts⟩ := ih there (account.step visit)
    exact ⟨after, found, by rwa [transcript, List.append_cons]⟩

end Steps
end Plant
end OpticalAccess
