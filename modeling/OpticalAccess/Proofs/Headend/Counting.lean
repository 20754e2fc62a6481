import OpticalAccess.Proofs.Headend.Conservation
import OpticalAccess.Proofs.Headend.ChildFrames
import Mathlib.Data.List.Perm.Basic

/-!
# What the counters of a terminal say

A frame from a child is counted in three steps, with other work in between. Each counter is, at any
moment, the number of frames whose forward has been at the step that counts them there. What the
sides differ by is on its way, or was refused.
-/

namespace OpticalAccess

namespace Metrics

/-- The value that a snapshot gives for one counter. -/
def value? (m : Metrics) (side : Side) (direction : Direction) (bin : SizeBin) : Option Int64 := do
  let port ← m.ports.find? (·.portName = side.label)
  let packet ← port.packets.find? (·.name = Counters.name direction bin)
  return packet.value

/-- No two counters of a snapshot go by the same name. -/
theorem value?_metrics (c : Counters) (device : String) (side : Side) (direction : Direction)
    (bin : SizeBin) :
    (c.metrics device).value? side direction bin =
      some (Int64.ofNat (min (c.get side direction bin) Counters.reportLimit)) := by
  cases side <;> cases direction <;> cases bin <;> rfl

end Metrics

/-! ### Frames on their way -/

/-- A frame that arrived at a port, and how far its forward is. -/
structure Passage where
  port : Int32
  frame : Frame
  forward : Forward

namespace Passage

inductive Stage where
  | begun
  /-- From the controller, and through. -/
  | sent
  /-- There is nobody behind the port. -/
  | unknown
  /-- From a child, and not yet queued. -/
  | arrived
  /-- Queued, and not yet counted on the side of the controller. -/
  | queued
  | through
  | refused
  deriving DecidableEq

def stage (p : Passage) : Stage :=
  match p.forward with
  | .begun .. => .begun
  | .queueing .. => .arrived
  | .counting _ => .queued
  | .done (.ok ()) => if p.port = egressPort then .sent else .through
  | .done (.error (.unavailable _)) => .refused
  | .done (.error _) => .unknown

/-- Whether a frame at this stage has been counted on a side. -/
def Stage.counted : Stage → Side → Direction → Bool
  | .sent, .nni, .rx => true
  | .sent, .pon, .tx => true
  | .arrived, .pon, .rx => true
  | .queued, .pon, .rx => true
  | .refused, .pon, .rx => true
  | .through, .pon, .rx => true
  | .through, .nni, .tx => true
  | _, _, _ => false

/-- Whether the queue took the frame. -/
def Stage.accepted : Stage → Bool
  | .queued => true
  | .through => true
  | _ => false

def bin (p : Passage) : SizeBin := .ofLength p.frame.length

/-- What a frame adds to a counter. -/
def weight (p : Passage) (side : Side) (direction : Direction) (bin : SizeBin) : Nat :=
  if p.stage.counted side direction ∧ p.bin = bin then 1 else 0

/-- The frames of one size at one stage. -/
def tally (frames : List Passage) (stage : Stage) (bin : SizeBin) : Nat :=
  frames.countP fun p => p.stage = stage ∧ p.bin = bin

/-- The frames of one size that have been counted on a side. -/
def crossed (frames : List Passage) (side : Side) (direction : Direction) (bin : SizeBin) : Nat :=
  frames.countP fun p => p.stage.counted side direction ∧ p.bin = bin

/-- The payloads that the queue took. -/
def taken (frames : List Passage) : List Bytes :=
  (frames.filter (·.stage.accepted)).map (·.frame.payload)

theorem stage_done {p : Passage} (finished : ∃ result, p.forward = .done result) :
    p.stage ≠ .arrived ∧ p.stage ≠ .queued := by
  obtain ⟨port, frame, forward⟩ := p
  obtain ⟨result, rfl⟩ := finished
  match result with
  | .ok () =>
    simp only [stage]
    split <;> simp
  | .error (.unavailable _) | .error (.portNotFound _) | .error (.flowsRejected _) => simp [stage]

/-- How far a forward can be, by the port of its frame. -/
inductive Follows (registry : Registry) : Passage → Prop where
  | begun (port : Int32) (frame : Frame) : Follows registry ⟨port, frame, .begun port frame⟩
  | sent (frame : Frame) : Follows registry ⟨egressPort, frame, .done (.ok ())⟩
  | unknown (port : Int32) (frame : Frame) (apart : port ≠ egressPort)
      (absent : registry.find? port = none) :
      Follows registry ⟨port, frame, .done (.error (.portNotFound port))⟩
  | arrived (port : Int32) (frame : Frame) (child : Location) (apart : port ≠ egressPort)
      (present : registry.find? port = some child) :
      Follows registry ⟨port, frame, .queueing port frame⟩
  | queued (port : Int32) (frame : Frame) (child : Location) (apart : port ≠ egressPort)
      (present : registry.find? port = some child) :
      Follows registry ⟨port, frame, .counting frame.length⟩
  | through (port : Int32) (frame : Frame) (child : Location) (apart : port ≠ egressPort)
      (present : registry.find? port = some child) :
      Follows registry ⟨port, frame, .done (.ok ())⟩
  | full (port : Int32) (frame : Frame) (child : Location) (apart : port ≠ egressPort)
      (present : registry.find? port = some child) :
      Follows registry ⟨port, frame, .done (.error .queueFull)⟩
  | closed (port : Int32) (frame : Frame) (child : Location) (apart : port ≠ egressPort)
      (present : registry.find? port = some child) :
      Follows registry ⟨port, frame, .done (.error .channelClosed)⟩

section Counts
variable {side : Side} {direction : Direction} {bin : SizeBin}

theorem crossed_cons (p : Passage) (frames : List Passage) :
    crossed (p :: frames) side direction bin =
      crossed frames side direction bin + p.weight side direction bin := by
  simp [crossed, weight, List.countP_cons]

theorem tally_cons (p : Passage) (frames : List Passage) (stage : Stage) :
    tally (p :: frames) stage bin =
      tally frames stage bin + if p.stage = stage ∧ p.bin = bin then 1 else 0 := by
  simp [tally, List.countP_cons]

theorem crossed_perm {xs ys : List Passage} (same : xs.Perm ys) :
    crossed xs side direction bin = crossed ys side direction bin := same.countP_eq _

theorem taken_cons (p : Passage) (frames : List Passage) :
    taken (p :: frames) = taken [p] ++ taken frames := by
  simp only [taken, ← List.map_append, ← List.filter_append, List.singleton_append]

theorem taken_perm {xs ys : List Passage} (same : xs.Perm ys) : (taken xs).Perm (taken ys) :=
  (same.filter _).map _

end Counts

/-- Where a frame is counted, by its stage. -/
theorem crossed_tally (frames : List Passage) (bin : SizeBin) :
    crossed frames .nni .rx bin = tally frames .sent bin ∧
      crossed frames .pon .tx bin = tally frames .sent bin ∧
      crossed frames .nni .tx bin = tally frames .through bin ∧
      crossed frames .pon .rx bin = tally frames .through bin + tally frames .refused bin +
        (tally frames .arrived bin + tally frames .queued bin) := by
  induction frames with
  | nil => exact ⟨rfl, rfl, rfl, rfl⟩
  | cons p rest ih =>
    obtain ⟨nniRx, ponTx, nniTx, ponRx⟩ := ih
    simp only [crossed_cons, weight, tally_cons, nniRx, ponTx, nniTx, ponRx]
    by_cases same : p.bin = bin
    · cases p.stage <;> simp [Stage.counted, same] <;> omega
    · simp [same]

theorem taken_tally (frames : List Passage) (bin : SizeBin) :
    (taken frames).countP (fun payload => SizeBin.ofLength payload.length = bin) =
      tally frames .queued bin + tally frames .through bin := by
  induction frames with
  | nil => rfl
  | cons p rest ih =>
    rw [taken_cons, List.countP_append, ih, tally_cons, tally_cons]
    by_cases same : p.bin = bin
    · have length : SizeBin.ofLength p.frame.payload.length = bin := same
      cases stage : p.stage <;> simp [taken, Stage.accepted, stage, same, length] <;> omega
    · have length : SizeBin.ofLength p.frame.payload.length ≠ bin := same
      cases stage : p.stage <;> simp [taken, Stage.accepted, stage, same, length]

/-- A step of a forward counts its frame exactly where its new stage says. -/
theorem goes_follows {t after : Terminal} {port : Int32} {frame : Frame} {f next : Forward}
    (goes : t.Goes f next after) (follows : Follows t.registry ⟨port, frame, f⟩) :
    Follows t.registry ⟨port, frame, next⟩ ∧
      (∀ side direction bin,
        after.counters.get side direction bin + weight ⟨port, frame, f⟩ side direction bin =
          t.counters.get side direction bin + weight ⟨port, frame, next⟩ side direction bin) ∧
      taken [⟨port, frame, next⟩] =
        taken [⟨port, frame, f⟩] ++ (Headend.forwardNotes f next).filterMap Headend.accepted? := by
  cases goes with
  | sent =>
    cases follows with
    | begun =>
      refine ⟨.sent frame, fun side direction bin => ?_, rfl⟩
      cases side <;> cases direction <;>
        simp [weight, stage, Stage.counted, Passage.bin, Counters.count,
          Counters.get_countMany]
  | unknown _ _ apart absent =>
    cases follows with
    | begun => exact ⟨.unknown port frame apart absent, fun _ _ _ => rfl, rfl⟩
  | arrived _ _ child apart present =>
    cases follows with
    | begun =>
      refine ⟨.arrived port frame child apart present, fun side direction bin => ?_, rfl⟩
      cases side <;> cases direction <;>
        simp [weight, stage, Stage.counted, Passage.bin, Counters.count,
          Counters.get_countMany]
  | queued =>
    cases follows with
    | arrived _ _ child apart present =>
      refine ⟨.queued port frame child apart present, fun side direction bin => ?_, rfl⟩
      cases side <;> cases direction <;> rfl
  | dropped =>
    cases follows with
    | arrived _ _ child apart present =>
      refine ⟨.full port frame child apart present, fun side direction bin => ?_, rfl⟩
      cases side <;> cases direction <;> rfl
  | refused =>
    cases follows with
    | arrived _ _ child apart present =>
      refine ⟨.closed port frame child apart present, fun side direction bin => ?_, rfl⟩
      cases side <;> cases direction <;> rfl
  | counted length =>
    cases follows with
    | queued _ _ child apart present =>
      refine ⟨.through port frame child apart present, fun side direction bin => ?_, ?_⟩
      · cases side <;> cases direction <;>
          simp [weight, stage, Stage.counted, Passage.bin, Counters.count,
            Counters.get_countMany, apart]
      · simp [taken, stage, Stage.accepted, Headend.forwardNotes, apart]
  | rest result => exact ⟨follows, fun _ _ _ => rfl, by simp [Headend.forwardNotes]⟩

end Passage

namespace Headend
open Passage (Stage tally crossed taken Follows)

/-- The frames that arrived, oldest first. -/
def arrivals (acts : List Act) : List (Int32 × Bytes) :=
  acts.filterMap fun
    | .arrive port payload => some (port, payload)
    | _ => none

theorem arrivals_other {arrived : List (Int32 × Bytes)} {act : Act}
    (other : ∀ port payload, act ≠ .arrive port payload) :
    arrived ++ arrivals [act] = arrived := by
  cases act with
  | arrive port payload => exact absurd rfl (other port payload)
  | _ => exact List.append_nil arrived

/-- Each frame that arrived with the forward that was begun for it. -/
def passages (arrived : List (Int32 × Bytes)) (h : Headend) : List Passage :=
  arrived.zipWith (fun (port, payload) forward => ⟨port, ⟨payload⟩, forward⟩) h.forwards

/-- The counters and the queue's log agree with how far the forwards are. -/
structure Reckoned (arrived : List (Int32 × Bytes)) (log : List Note) (h : Headend) : Prop where
  whole : arrived.length = h.forwards.length
  follows : ∀ p ∈ passages arrived h, p.Follows h.terminal.registry
  counters : ∀ side direction bin,
    h.terminal.counters.get side direction bin = crossed (passages arrived h) side direction bin
  accepted : (log.filterMap accepted?).Perm (taken (passages arrived h))

theorem new_reckoned (location : Location) (registry : Registry) (queueSize : Nat)
    (settings : Settings) : Reckoned [] [] (new location registry queueSize settings) := by
  refine ⟨rfl, fun p member => ?_, fun side direction bin => ?_, .refl _⟩
  · cases member
  · cases side <;> cases direction <;> cases bin <;> rfl

/-- One forward goes on, and the others stay where they are. -/
theorem passages_set {arrived : List (Int32 × Bytes)} {h : Headend}
    (whole : arrived.length = h.forwards.length) {index : Nat} {f : Forward}
    (found : h.forwards[index]? = some f) (next : Forward) (terminal : Terminal) :
    ∃ port frame others,
      (passages arrived h).Perm (⟨port, frame, f⟩ :: others) ∧
        (passages arrived { h with terminal, forwards := h.forwards.set index next }).Perm
          (⟨port, frame, next⟩ :: others) := by
  obtain ⟨inside, here⟩ := List.getElem?_eq_some_iff.mp found
  have within : index < (passages arrived h).length := by simp [passages, whole, inside]
  have fits : index < arrived.length := whole ▸ inside
  refine ⟨arrived[index].1, ⟨arrived[index].2⟩, (passages arrived h).eraseIdx index, ?_, ?_⟩
  · have whole := (List.getElem_cons_eraseIdx_perm within).symm
    simpa [passages, here] using whole
  · have moved : passages arrived { h with terminal, forwards := h.forwards.set index next } =
        (passages arrived h).set index ⟨arrived[index].1, ⟨arrived[index].2⟩, next⟩ := by
      apply List.ext_getElem
      · simp [passages]
      · intro i _ _
        by_cases hit : index = i
        · subst hit
          simp [passages]
        · simp [passages, hit]
    rw [moved]
    exact List.set_perm_cons_eraseIdx within _

/-- Work that neither forwards nor counts leaves the reckoning as it is. -/
theorem Reckoned.frame {arrived : List (Int32 × Bytes)} {log notes : List Note} {h after : Headend}
    (reckoned : Reckoned arrived log h) (forwards : after.forwards = h.forwards)
    (registry : after.terminal.registry = h.terminal.registry)
    (counters : after.terminal.counters = h.terminal.counters)
    (silent : notes.filterMap accepted? = []) : Reckoned arrived (log ++ notes) after := by
  have same : passages arrived after = passages arrived h := by simp only [passages, forwards]
  obtain ⟨whole, follows, counts, accepted⟩ := reckoned
  refine ⟨forwards ▸ whole, ?_, ?_, ?_⟩
  · rw [same, registry]
    exact follows
  · rw [same, counters]
    exact counts
  · rw [same, List.filterMap_append, silent, List.append_nil]
    exact accepted

theorem Reckoned.arrive {arrived : List (Int32 × Bytes)} {log : List Note} {h : Headend}
    (reckoned : Reckoned arrived log h) (port : Int32) (payload : Bytes) :
    Reckoned (arrived ++ [(port, payload)]) log
      { h with forwards := h.forwards ++ [.begun port ⟨payload⟩] } := by
  obtain ⟨whole, follows, counts, accepted⟩ := reckoned
  have grown : passages (arrived ++ [(port, payload)])
      { h with forwards := h.forwards ++ [.begun port ⟨payload⟩] } =
        passages arrived h ++ [⟨port, ⟨payload⟩, .begun port ⟨payload⟩⟩] := by
    simp [passages, List.zipWith_append whole]
  refine ⟨by simp [whole], ?_, fun side direction bin => ?_, ?_⟩
  · rw [grown]
    intro p member
    rcases List.mem_append.mp member with before | last
    · exact follows p before
    · rw [List.mem_singleton.mp last]
      exact .begun port ⟨payload⟩
  · rw [grown, Passage.crossed_perm (List.perm_append_singleton _ _), Passage.crossed_cons, ← counts]
    cases side <;> cases direction <;> rfl
  · rw [grown]
    simpa [taken, Passage.stage, Stage.accepted] using accepted

theorem Reckoned.forward {arrived : List (Int32 × Bytes)} {log : List Note} {h : Headend}
    (reckoned : Reckoned arrived log h) {index : Nat} {f next : Forward} {terminal : Terminal}
    (found : h.forwards[index]? = some f) (goes : h.terminal.Goes f next terminal)
    (registry : terminal.registry = h.terminal.registry) :
    Reckoned arrived (log ++ forwardNotes f next)
      { h with terminal, forwards := h.forwards.set index next } := by
  obtain ⟨whole, follows, counts, accepted⟩ := reckoned
  obtain ⟨port, frame, others, before, after⟩ := passages_set whole found next terminal
  have known : ∀ p ∈ ⟨port, frame, f⟩ :: others, p.Follows h.terminal.registry := fun p member =>
    follows p (before.mem_iff.mpr member)
  obtain ⟨nextFollows, moved, took⟩ :=
    Passage.goes_follows goes (known _ List.mem_cons_self)
  refine ⟨by simpa using whole, fun p member => ?_, fun side direction bin => ?_, ?_⟩
  · rw [registry]
    rcases List.mem_cons.mp (after.mem_iff.mp member) with rfl | other
    · exact nextFollows
    · exact known p (List.mem_cons_of_mem _ other)
  · have balance := moved side direction bin
    have count := counts side direction bin
    rw [Passage.crossed_perm before, Passage.crossed_cons] at count
    rw [Passage.crossed_perm after, Passage.crossed_cons]
    simp only
    omega
  · have had := accepted.trans (Passage.taken_perm before)
    rw [Passage.taken_cons] at had
    rw [List.filterMap_append]
    refine List.Perm.trans ?_ (Passage.taken_perm after).symm
    rw [Passage.taken_cons, took]
    calc
      _ = log.filterMap accepted? ++ (forwardNotes f next).filterMap accepted? := rfl
      List.Perm _ ((taken [⟨port, frame, f⟩] ++ taken others) ++
          (forwardNotes f next).filterMap accepted?) := had.append_right _
      List.Perm _ ((taken [⟨port, frame, f⟩] ++ (forwardNotes f next).filterMap accepted?) ++
          taken others) := by
        simp only [List.append_assoc]
        exact List.perm_append_comm.append_left _

theorem step_reckoned {arrived : List (Int32 × Bytes)} {log : List Note} {h : Headend}
    (reckoned : Reckoned arrived log h) (v : Verbosity) (act : Act) :
    Reckoned (arrived ++ arrivals [act]) (log ++ (h.step v act).2) (h.step v act).1 := by
  cases act with
  | arrive port payload => simpa [step, arrivals] using reckoned.arrive port payload
  | forward index =>
    cases found : h.forwards[index]? with
    | none => simpa [step, found, arrivals] using reckoned
    | some f =>
      simpa [step, found, arrivals] using
        reckoned.forward found (h.terminal.step_goes f v) (h.terminal.step_registry f v)
  | closeIngress | install =>
    rw [arrivals_other (by simp)]
    exact reckoned.frame rfl rfl rfl rfl
  | openStream =>
    rw [arrivals_other (by simp)]
    simp only [step]
    split
    · exact reckoned.frame rfl rfl rfl rfl
    · exact reckoned.frame rfl rfl rfl rfl
  | session index m =>
    rw [arrivals_other (by simp)]
    cases found : h.sessions[index]? with
    | none => simpa [step, found] using reckoned
    | some s =>
      simp only [step, found]
      exact reckoned.frame rfl rfl rfl (accepted_session index _)

theorem run_reckoned {arrived : List (Int32 × Bytes)} {log : List Note} {h : Headend}
    (reckoned : Reckoned arrived log h) (v : Verbosity) (acts : List Act) :
    Reckoned (arrived ++ arrivals acts) (log ++ (h.run v acts).2) (h.run v acts).1 := by
  induction acts generalizing arrived log h with
  | nil => simpa [run, arrivals] using reckoned
  | cons act rest ih =>
    have after := ih (step_reckoned reckoned v act)
    have split : arrivals (act :: rest) = arrivals [act] ++ arrivals rest :=
      List.filterMap_append (l := [act])
    rwa [List.append_assoc, ← split, List.append_assoc] at after

/-- The payloads of one size that the queue took. -/
def acceptedOf (log : List Note) (bin : SizeBin) : Nat :=
  (log.filterMap accepted?).countP fun payload => SizeBin.ofLength payload.length = bin

/-- What the counters for one size say about the frames that arrived at a terminal. -/
structure Audited (v : Verbosity) (registry : Registry) (frames : List Passage) (log : List Note)
    (h : Headend) (bin : SizeBin) : Prop where
  /-- The frames are those whose forwards were begun, at the ports to which they belong. -/
  whole : frames.map (·.forward) = h.forwards
  ports : ∀ p ∈ frames, p.Follows registry
  /-- Frames from the controller, counted on both sides at once. -/
  egress : h.terminal.counters.get .nni .rx bin = tally frames .sent bin ∧
    h.terminal.counters.get .pon .tx bin = tally frames .sent bin
  /-- What the sides differ by for frames from children was refused or is on its way. -/
  ingress : h.terminal.counters.get .pon .rx bin =
    h.terminal.counters.get .nni .tx bin + tally frames .refused bin +
      (tally frames .arrived bin + tally frames .queued bin)
  /-- The queue is between the two sides. -/
  between : h.terminal.counters.get .nni .tx bin ≤ acceptedOf log bin ∧
    acceptedOf log bin ≤ h.terminal.counters.get .pon .rx bin
  /-- A forward that finds nobody behind the port changes nothing. -/
  unknown : ∀ index f port, h.forwards[index]? = some f →
    ((h.terminal.step f).value v).1 = .done (.error (.portNotFound port)) →
      (h.step v (.forward index)).1.terminal = h.terminal
  /-- Once all forwards are done, the difference is exactly what was refused. -/
  rest : (∀ f ∈ h.forwards, ∃ result, f = .done result) →
    h.terminal.counters.get .nni .tx bin = acceptedOf log bin ∧
      h.terminal.counters.get .pon .rx bin - h.terminal.counters.get .nni .tx bin =
        tally frames .refused bin
  /-- A snapshot gives these counters, as far as its numbers go. -/
  snapshot : ∀ side direction, h.terminal.metrics.value? side direction bin =
    some (Int64.ofNat (min (h.terminal.counters.get side direction bin) Counters.reportLimit))

theorem passages_forwards {arrived : List (Int32 × Bytes)} {h : Headend}
    (whole : arrived.length = h.forwards.length) :
    (passages arrived h).map (·.forward) = h.forwards := by
  apply List.ext_getElem
  · simp [passages, whole]
  · intro i _ _
    simp [passages]

theorem unknown_unchanged {v : Verbosity} {h : Headend} {index : Nat} {f : Forward} {port : Int32}
    (found : h.forwards[index]? = some f)
    (unknown : ((h.terminal.step f).value v).1 = .done (.error (.portNotFound port))) :
    (h.step v (.forward index)).1.terminal = h.terminal := by
  have goes := h.terminal.step_goes f v
  simp only [step, found]
  generalize (h.terminal.step f).value v = outcome at goes unknown
  obtain ⟨next, after⟩ := outcome
  cases goes with
  | unknown | rest => rfl
  | sent | arrived | queued | dropped | refused | counted => cases unknown

/-- With all forwards done, no frame is between two counts. -/
theorem tally_done {frames : List Passage}
    (finished : ∀ p ∈ frames, ∃ result, p.forward = .done result) (bin : SizeBin) :
    tally frames .arrived bin = 0 ∧ tally frames .queued bin = 0 := by
  constructor
  · refine List.countP_eq_zero.mpr fun p member => ?_
    simp [Passage.stage_done (finished p member)]
  · refine List.countP_eq_zero.mpr fun p member => ?_
    simp [Passage.stage_done (finished p member)]

/--
In every state of a terminal, whatever its tasks do and in whatever order, its counters say exactly
how many frames of each size have passed each of its sides.
-/
theorem counters_audited (v : Verbosity) (location : Location) (registry : Registry)
    (queueSize : Nat) (settings : Settings) (acts : List Act) (bin : SizeBin) :
    let run := (new location registry queueSize settings).run v acts
    Audited v registry (passages (arrivals acts) run.1) run.2 run.1 bin := by
  intro run
  obtain ⟨whole, follows, counters, accepted⟩ : Reckoned (arrivals acts) run.2 run.1 :=
    run_reckoned (new_reckoned location registry queueSize settings) v acts
  obtain ⟨nniRx, ponTx, nniTx, ponRx⟩ :=
    Passage.crossed_tally (passages (arrivals acts) run.1) bin
  simp only [← counters] at nniRx ponTx nniTx ponRx
  have took : acceptedOf run.2 bin = _ :=
    (accepted.countP_eq _).trans (Passage.taken_tally (passages (arrivals acts) run.1) bin)
  have forwards := passages_forwards whole
  refine ⟨forwards, ?_, ⟨nniRx, ponTx⟩, by omega, ⟨by omega, by omega⟩,
    fun index f port => unknown_unchanged, fun finished => ?_,
    fun side direction => Metrics.value?_metrics _ _ side direction bin⟩
  · have same : run.1.terminal.registry = registry :=
      run_registry v (new location registry queueSize settings) acts
    exact same ▸ follows
  · have answered : ∀ p ∈ passages (arrivals acts) run.1, ∃ result, p.forward = .done result :=
      fun p member => finished p.forward (forwards ▸ List.mem_map_of_mem member)
    have still := tally_done answered bin
    omega

end Headend
end OpticalAccess
