import OpticalAccess.Proofs.Submission.Accounts

/-!
# How the tasks of frames end

The task of a frame needs three turns, whatever comes between them. On a device that is not out of
order it succeeds. A subscriber counts what comes to its ports and never sends a frame.
-/

namespace OpticalAccess

namespace Plant

variable {v : Verbosity} {p : Plant} {n : Nat} {s after : Station} {act : Act} {notes : List Note}
  {events : List Event}

/-- What every act keeps on a station is kept by a run. -/
theorem run_visits {P : Station → Prop} {acts : List Act}
    (step : ∀ act ∈ acts, ∀ s after notes events,
      Visit v n s act after notes events → P s → P after)
    (here : p.stations[n]? = some s) (follows : ∀ e ∈ s.submissions, e.2.Follows e.1) (holds : P s)
    (there : ((p.run acts).value v).1.stations[n]? = some after) : P after := by
  induction acts generalizing p s with
  | nil =>
    obtain rfl := Option.some.inj (here.symm.trans there)
    exact holds
  | cons act rest ih =>
    obtain ⟨next, found, visit⟩ := step_visit (v := v) here follows act
    have holds := step act List.mem_cons_self _ _ _ _ visit holds
    exact ih (fun act member => step act (List.mem_cons_of_mem _ member)) found
      (visit.follows follows) holds there

/-! ### Every task comes to its end -/

theorem Visit.left {i : Nat} {frame : Frame} {delivery : Delivery}
    (visit : Visit v n s act after notes events)
    (found : s.submissions[i]? = some (frame, delivery)) :
    ∃ next, after.submissions[i]? = some (frame, next) ∧
      next.left ≤ delivery.left - if act.delivers n i then 1 else 0 := by
  have frames := visit.frames
  generalize after.submissions = es at frames
  obtain ⟨inside, -⟩ := List.getElem?_eq_some_iff.mp found
  cases frames with
  | submitted payload events =>
    exact ⟨delivery, by rw [List.getElem?_append_left inside, found], Nat.le_refl _⟩
  | delivered index frame' delivery' next found' device events delivers =>
    by_cases hit : index = i
    · subst hit
      cases found.symm.trans found'
      exact ⟨next, List.getElem?_set_self inside, by simpa [Act.delivers] using delivers.left⟩
    · exact ⟨delivery, by rw [List.getElem?_set_ne hit, found], by simp [Act.delivers, hit]⟩
  | rest act notes silent events unsent missing =>
    refine ⟨delivery, found, ?_⟩
    split
    · rename_i delivers
      cases (missing i delivers).1.symm.trans found
    · exact Nat.le_refl _

theorem run_left {i : Nat} {frame : Frame} {delivery : Delivery} (acts : List Act)
    (here : p.stations[n]? = some s) (follows : ∀ e ∈ s.submissions, e.2.Follows e.1)
    (found : s.submissions[i]? = some (frame, delivery)) :
    ∃ after next, ((p.run acts).value v).1.stations[n]? = some after ∧
      after.submissions[i]? = some (frame, next) ∧
      next.left ≤ delivery.left - acts.countP (Act.delivers n i) := by
  induction acts generalizing p s delivery with
  | nil => exact ⟨s, delivery, here, found, Nat.le_refl _⟩
  | cons act rest ih =>
    obtain ⟨middle, there, visit⟩ := step_visit (v := v) here follows act
    obtain ⟨next, at_, fewer⟩ := visit.left found
    obtain ⟨after, last, found, least⟩ := ih there (visit.follows follows) at_
    refine ⟨after, last, found, least.1, ?_⟩
    rw [List.countP_cons]
    omega

/-! ### A device that is not out of order -/

/-- Forwarding works, and has not failed for a frame of the controller. -/
structure Sound (s : Station) : Prop where
  able : s.device.forwardFault = none
  unfailed : ∀ e ∈ s.submissions, e.2.failed = false

theorem Visit.sound (visit : Visit v n s act after notes events) (sound : Sound s)
    (repaired : ∀ fault, act ≠ .station n (.outage (some fault))) : Sound after := by
  obtain ⟨able, unfailed⟩ := sound
  cases visit with
  | apart act other after rests =>
    exact ⟨rests.device.forwardFault.trans able, rests.submissions ▸ unfailed⟩
  | own act after notes events goes =>
    cases goes with
    | submitted payload =>
      exact ⟨able, List.forall_mem_append.mpr ⟨unfailed, List.forall_mem_singleton.mpr rfl⟩⟩
    | delivered index frame delivery next found device events delivers =>
      have before := unfailed _ (List.mem_of_getElem? found)
      cases delivers with
      | called => exact ⟨able, forall_mem_set unfailed rfl⟩
      | refused fault broken => cases able.symm.trans broken
      | sent => exact ⟨(s.device.forwardFault_sent _).trans able, forall_mem_set unfailed rfl⟩
      | told result | rest result =>
        refine ⟨able, forall_mem_set unfailed ?_⟩
        cases result with
        | ok value => rfl
        | error error => cases before
    | forwarded index passage found notes silent events =>
      exact ⟨(s.device.forwardFault_stepForward passage.forward).trans able, unfailed⟩
    | outage fault =>
      cases fault with
      | none => exact ⟨rfl, unfailed⟩
      | some fault => exact absurd rfl (repaired fault)
    | missing | arrived => exact ⟨able, unfailed⟩
    | rest act plain after rests =>
      exact ⟨rests.device.forwardFault.trans able, rests.submissions ▸ unfailed⟩

/-! ### What a subscriber counts -/

/-- A subscriber has counted nothing that it sent, and all that came to its ports. -/
structure Heard (s : Station) : Prop where
  passages : ∀ a ∈ s.arrivals,
    a.forward = .begun a.port a.frame ∨ ∃ result, a.forward = .done result
  sent : ∀ side bin, s.device.counters.get side .tx bin = 0
  received : ∀ bin, s.device.counters.get .nni .rx bin = Passage.tally s.arrivals .through bin

theorem Heard.frame (heard : Heard s) (arrivals : after.arrivals = s.arrivals)
    (sent : ∀ side bin, after.device.counters.get side .tx bin = s.device.counters.get side .tx bin)
    (received : ∀ bin,
      after.device.counters.get .nni .rx bin = s.device.counters.get .nni .rx bin) :
    Heard after :=
  ⟨arrivals ▸ heard.passages, fun side bin => (sent side bin).trans (heard.sent side bin),
    fun bin => (received bin).trans (arrivals ▸ heard.received bin)⟩

theorem Heard.arrived (heard : Heard s) (port : Int32) (payload : Bytes) :
    Heard { s with arrivals := s.arrivals ++ [(s.device.call port ⟨payload⟩).value v] } := by
  obtain ⟨passages, sent, received⟩ := heard
  simp only [Device.call]
  cases fault : s.device.forwardFault with
  | none =>
    simp only [Traced.value_bind, Traced.value_pure]
    refine ⟨List.forall_mem_append.mpr ⟨passages, ?_⟩, sent, fun bin => ?_⟩
    · exact List.forall_mem_singleton.mpr (.inl rfl)
    · simp [received, Passage.tally, Passage.stage]
  | some error =>
    simp only [Traced.value_pure]
    refine ⟨List.forall_mem_append.mpr ⟨passages, ?_⟩, sent, fun bin => ?_⟩
    · exact List.forall_mem_singleton.mpr (.inr ⟨_, rfl⟩)
    · cases error <;> simp [received, Passage.tally, Passage.stage]

theorem Heard.forwarded (heard : Heard s) (role : s.device.role = .subscriber) {index : Nat}
    {passage : Passage} (found : s.arrivals[index]? = some passage) :
    Heard { s with
      device := ((s.device.stepForward passage.forward).value v).2
      arrivals := s.arrivals.set index
        { passage with forward := ((s.device.stepForward passage.forward).value v).1 } } := by
  obtain ⟨passages, sent, received⟩ := heard
  obtain ⟨port, frame, forward⟩ := passage
  rcases passages _ (List.mem_of_getElem? found) with begun | ⟨result, done⟩
  · obtain rfl : forward = .begun port frame := begun
    obtain ⟨next, counters⟩ := Device.stepForward_heard (v := v) role port frame
    refine ⟨forall_mem_set passages (.inr ⟨_, next⟩), fun side bin => ?_, fun bin => ?_⟩
    · simp [counters, Counters.count, Counters.get_countMany, sent]
    · have tally := countP_set_of_getElem? (y := ⟨port, frame, .done (.ok ())⟩)
        (fun p : Passage => p.stage = .through ∧ p.bin = bin) found
      simp only [next, counters, Counters.count, Counters.get_countMany, received,
        Passage.tally, Subscriber.sideOf]
      by_cases egress : port = egressPort
      · simpa [egress, Passage.stage] using tally.symm
      · simpa [egress, Passage.stage, Passage.bin] using tally.symm
  · obtain rfl : forward = .done result := done
    simp only [Device.stepForward_done, Traced.value_pure, set_of_getElem? found]
    exact ⟨passages, sent, received⟩

theorem Visit.heard (visit : Visit v n s act after notes events)
    (role : s.device.role = .subscriber) (heard : Heard s) : Heard after := by
  cases visit with
  | apart act other after rests =>
    exact heard.frame rests.arrivals (fun _ _ => by rw [rests.device.counters])
      fun _ => by rw [rests.device.counters]
  | own act after notes events goes =>
    cases goes with
    | submitted | missing | outage => exact heard.frame rfl (fun _ _ => rfl) fun _ => rfl
    | rest act plain after rests =>
      exact heard.frame rests.arrivals (fun _ _ => by rw [rests.device.counters])
        fun _ => by rw [rests.device.counters]
    | delivered index frame delivery next found device events delivers =>
      cases delivers with
      | sent =>
        refine heard.frame rfl (fun side bin => ?_) fun bin => ?_
        · simp only [Device.counters_sent, Counters.get_sent, role]
          cases side <;> simp [Role.counts]
        · simp [Device.counters_sent, Counters.get_sent, role, Role.counts]
      | _ => exact heard.frame rfl (fun _ _ => rfl) fun _ => rfl
    | arrived port payload => exact heard.arrived port payload
    | forwarded index passage found => exact heard.forwarded role found

end Plant
end OpticalAccess
