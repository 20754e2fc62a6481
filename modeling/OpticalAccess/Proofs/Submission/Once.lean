import OpticalAccess.Proofs.Submission.Endings
import OpticalAccess.Proofs.Submission.Loads

/-!
# Frames of controllers are forwarded once

A frame that a controller sends is acknowledged at once, and forwarded exactly once, as it is, on
the egress port. What else is going on does not matter, and neither does the order. Besides, frames
are seen on the counters and in the log only.
-/

namespace OpticalAccess.Plant

variable {v : Verbosity}

/--
What has become of the frames for one station in a run of a network. The station has come to `s`,
and to `u` in the run without any frames of controllers.
-/
structure Forwarded (v : Verbosity) (w : Network) (acts : List Act) (n : Nat) (s u : Station) :
    Prop where
  /-- There is one task for each frame. -/
  sent : s.submissions.map (·.1.payload) = sentTo n acts
  acknowledged : ∀ entry ∈ transcript v (ofNetwork w) acts, ∀ payload,
    entry.act = .station n (.submit payload) → entry.notes = [.station n .acknowledged]
  /-- The forward has been called for once if the task has run, and not yet otherwise. -/
  called : ∀ i, (((ofNetwork w).run acts).value v).2.filter (Note.calls n i) =
    s.submissions[i]?.elim [] fun e =>
      if e.2.isWaiting then [] else [.station n (.called i egressPort e.1.payload)]
  /-- What the task has logged, up to success or failure. -/
  told : ∀ i, ((transcript v (ofNetwork w) acts).filter (·.act.delivers n i)).flatMap Entry.events =
    s.submissions[i]?.elim [] fun e => v.keep (e.2.story s.device e.1)
  /-- However the run goes on, three turns are enough for the task. -/
  ends : ∀ i frame delivery, s.submissions[i]? = some (frame, delivery) →
    ∀ more : List Act, 3 ≤ more.countP (Act.delivers n i) →
      ∃ after result,
        (((((ofNetwork w).run acts).value v).1.run more).value v).1.stations[n]? = some after ∧
          after.submissions[i]? = some (frame, .ended result)
  /-- A frame that is refused is not counted. -/
  counters : ∀ side direction bin, s.device.counters.get side direction bin =
    u.device.counters.get side direction bin + s.device.role.load s.submissions side direction bin
  /-- Without an outage, all frames are counted in the end. -/
  histogram : (∀ node, w.nodes[n]? = some node → node.device.forwardFault = none) →
    (∀ fault, .station n (.outage (some fault)) ∉ acts) → (∀ e ∈ s.submissions, e.2.isOver) →
    ∀ side direction bin, s.device.counters.get side direction bin =
      u.device.counters.get side direction bin +
        if s.device.role.counts side direction then
          (sentTo n acts).countP fun payload => SizeBin.ofLength payload.length = bin
        else 0
  queue : s.device.queue = u.device.queue
  flows : s.device.flows = u.device.flows
  /-- A subscriber sends nothing, and counts what comes to its ports apart from frames. -/
  received : s.device.role = .subscriber →
    (∀ side bin, s.device.counters.get side .tx bin = 0) ∧
      ∀ bin, s.device.counters.get .nni .rx bin = Passage.tally s.arrivals .through bin

/-- What the books of a station say of it. -/
theorem recoded_load {role : Role} {us : List (Frame × Delivery)} {s u : Station}
    (same : s.Recoded .same (.load role us) u) :
    (∀ side direction bin, s.device.counters.get side direction bin =
        u.device.counters.get side direction bin + role.load s.submissions side direction bin) ∧
      s.device.queue = u.device.queue ∧ s.device.flows = u.device.flows := by
  obtain ⟨device, settings, sessions, opened, arrivals, ⟨rfl, none⟩, writer⟩ := same
  have queue {q q' : IngressQueue Nat} (same : q.Recoded .same q') : q = q' := by
    obtain ⟨capacity, payloads, isOpen, line⟩ := same
    obtain rfl : _ = _ := (congrFun₂ List.forall₂_eq_eq_eq _ _).mp payloads
    rfl
  exact ⟨device.counters, queue device.queue, device.flows⟩

/-- Once all tasks are over on a sound device, it has counted all frames. -/
theorem Account.load {n : Nat} {log : List Entry} {s : Station} (account : Account v n log s)
    (sound : Sound s) (ended : ∀ e ∈ s.submissions, e.2.isOver) (role : Role) (side : Side)
    (direction : Direction) (bin : SizeBin) :
    role.load s.submissions side direction bin =
      if role.counts side direction then
        (sentTo n (log.map Entry.act)).countP fun payload => SizeBin.ofLength payload.length = bin
      else 0 := by
  have counted : ∀ e ∈ s.submissions, e.2.counted = true := by
    intro e member
    have ended := ended e member
    have unfailed := sound.unfailed e member
    match e.2, ended, unfailed with
    | .ended (.ok ()), _, _ => rfl
  rw [← account.sent, List.countP_map, Role.load]
  refine if_congr Iff.rfl (List.countP_congr fun e member => ?_) rfl
  simp [counted e member, Frame.length]

theorem Account.ends {n i : Nat} {log : List Entry} {p : Plant} {s : Station} {frame : Frame}
    {delivery : Delivery} (account : Account v n log s) (here : p.stations[n]? = some s)
    (found : s.submissions[i]? = some (frame, delivery)) (more : List Act)
    (enough : 3 ≤ more.countP (Act.delivers n i)) :
    ∃ after result, ((p.run more).value v).1.stations[n]? = some after ∧
      after.submissions[i]? = some (frame, .ended result) := by
  obtain ⟨after, next, there, found, left⟩ := run_left (v := v) more here account.follows found
  have most := delivery.left_le
  have ended : next.isOver = true := Delivery.isOver_of_left (by omega)
  match next, ended with
  | .ended result, _ => exact ⟨after, result, there, found⟩

/-- A station of a new network. -/
structure Unused (s : Station) : Prop where
  device : s.device.New
  arrivals : s.arrivals = []
  submissions : s.submissions = []

theorem ofNetwork_unused {w : Network} (new : w.New) {n : Nat} {s : Station}
    (here : (ofNetwork w).stations[n]? = some s) :
    ∃ node, w.nodes[n]? = some node ∧ node.device = s.device ∧ Unused s := by
  simp only [ofNetwork, List.getElem?_map, Option.map_eq_some_iff] at here
  obtain ⟨node, member, rfl⟩ := here
  exact ⟨node, member, rfl, (new node (List.mem_of_getElem? member)).device, rfl, rfl⟩

theorem Unused.heard {s : Station} (unused : Unused s) : Heard s := by
  obtain ⟨device, arrivals, -⟩ := unused
  have zero (side : Side) (direction : Direction) (bin : SizeBin) :
      ({} : Counters).get side direction bin = 0 := by
    cases side <;> cases direction <;> cases bin <;> rfl
  refine ⟨by simp [arrivals], fun side bin => ?_, fun bin => ?_⟩
  · rw [device.counters, zero]
  · rw [device.counters, zero, arrivals]
    rfl

/--
A network that is set up takes all frames of its controllers at once and forwards each exactly once,
whatever else it does and in whatever order. And it does all else as it would without them, apart
from what has been counted where it shows its counters.
-/
theorem frames_forwarded_once {w : Network} (new : w.New) (v : Verbosity) (acts : List Act) :
    let without := acts.filter fun act => !act.isFrame
    (∀ n s, (((ofNetwork w).run acts).value v).1.stations[n]? = some s →
      ∃ u, (((ofNetwork w).run without).value v).1.stations[n]? = some u ∧
        Forwarded v w acts n s u) ∧
    List.Forall₂ Entry.Same
      ((transcript v (ofNetwork w) acts).filter fun entry => !entry.act.isFrame)
      (transcript v (ofNetwork w) without) := by
  intro without
  obtain ⟨roles, start⟩ := ofNetwork_loaded new
  obtain ⟨us, loaded, entries⟩ := run_loaded (v := v) acts start
  refine ⟨fun n s there => ?_, entries⟩
  obtain ⟨u, without, same⟩ := loaded.station there
  have role := loaded.role n s there
  rw [← role] at same
  obtain ⟨counters, queue, flows⟩ := recoded_load same
  obtain ⟨inside, -⟩ := List.getElem?_eq_some_iff.mp there
  rw [run_length] at inside
  have here := List.getElem?_eq_getElem inside
  obtain ⟨node, member, made, unused⟩ := ofNetwork_unused new here
  have account : Account v n (transcript v (ofNetwork w) acts) s := by
    obtain ⟨s', found, account⟩ := run_account acts here (new_account (v := v) unused.submissions)
    obtain rfl := Option.some.inj (found.symm.trans there)
    exact account
  have follows := (new_account (v := v) (n := n) unused.submissions).follows
  refine ⟨u, without, ?_, account.acknowledged, fun i => ?_, account.told, ?_, counters, ?_, queue,
    flows, ?_⟩
  · rw [account.sent, transcript_acts]
  · rw [← transcript_notes, account.calls]
  · intro i frame delivery found more enough
    exact account.ends there found more enough
  · intro able working ended side direction bin
    have sound : Sound s := by
      refine run_visits (fun act member s after notes events visit sound => ?_) here follows
        ⟨made ▸ able node member, by simp [unused.submissions]⟩ there
      exact visit.sound sound fun fault same => working fault (same ▸ member)
    rw [counters, account.load sound ended, transcript_acts]
  · intro subscriber
    have heard : s.device.role = .subscriber → Heard s := by
      refine run_visits (P := fun s => s.device.role = .subscriber → Heard s)
        (fun act member s after notes events visit heard subscriber => ?_) here follows
        (fun _ => unused.heard) there
      have before := visit.stays.1.symm.trans subscriber
      exact visit.heard before (heard before)
    exact ⟨(heard subscriber).sent, (heard subscriber).received⟩

/-- Two frames, the second of which is through before the task of the first begins. -/
def crossed : List Act :=
  [.station 0 (.submit [7]), .station 0 (.submit []), .station 0 (.deliver 1),
    .station 0 (.deliver 1), .station 0 (.deliver 0), .station 0 (.deliver 1),
    .station 0 (.deliver 0), .station 0 (.deliver 0)]

theorem frames_forwarded_once_crossed :
    Network.lone.New ∧ ∃ s u,
      (((ofNetwork .lone).run crossed).value .full).1.stations[0]? = some s ∧
      (((ofNetwork .lone).run []).value .full).1.stations[0]? = some u ∧
      Forwarded .full .lone crossed 0 s u ∧
      s.device.counters.get .nni .rx .upTo64 = u.device.counters.get .nni .rx .upTo64 + 2 := by
  obtain ⟨forwarded, -⟩ := frames_forwarded_once Network.lone_new .full crossed
  have ended : ((((ofNetwork .lone).run crossed).value .full).1.stations[0]?.any fun s =>
      s.device.role = .terminal ∧ s.submissions.all (·.2.isOver)) = true := by
    decide +kernel
  obtain ⟨s, there, checked⟩ := (Option.any_eq_true _ _).mp ended
  obtain ⟨role, ended⟩ := of_decide_eq_true checked
  obtain ⟨u, without, forwarded⟩ := forwarded 0 s there
  refine ⟨Network.lone_new, s, u, there, without, forwarded, ?_⟩
  rw [forwarded.histogram (fun node first => ?_) (fun fault => ?_) (List.all_eq_true.mp ended),
    role]
  · rfl
  · obtain rfl := Option.some.inj first
    rfl
  · simp [crossed]

end OpticalAccess.Plant
