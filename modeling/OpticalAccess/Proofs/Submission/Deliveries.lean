import OpticalAccess.Proofs.Recoding.Stations

/-!
# Frames of the controller on their way

A frame that a controller sends is acknowledged at once, and a task of its own has it forwarded.
What such a task does, step by step, is said here, and what else may happen on its station
meanwhile.
-/

namespace OpticalAccess

variable {v : Verbosity}

/-- The events that a verbosity keeps. -/
def Verbosity.keep (v : Verbosity) (events : List Event) : List Event :=
  events.filter fun e => v.enables e.level

theorem Verbosity.keep_append (v : Verbosity) (xs ys : List Event) :
    v.keep (xs ++ ys) = v.keep xs ++ v.keep ys :=
  List.filter_append xs ys

theorem Traced.events_emit_keep (e : Event) : (emit e).events v = v.keep [e] := by
  cases kept : v.enables e.level <;> simp [Verbosity.keep, kept]

/-! ### What is counted -/

/-- Where a frame of the controller is counted. A terminal gets it and sends it on. -/
def Role.counts : Role → Side → Direction → Bool
  | .terminal, .nni, .rx => true
  | .terminal, .pon, .tx => true
  | .subscriber, .pon, .rx => true
  | _, _, _ => false

def Counters.sent (c : Counters) (role : Role) (length : Nat) : Counters :=
  match role with
  | .terminal => (c.count .nni .rx length).count .pon .tx length
  | .subscriber => c.count .pon .rx length

theorem Counters.get_sent (c : Counters) (role : Role) (length : Nat) (side : Side)
    (direction : Direction) (bin : SizeBin) :
    (c.sent role length).get side direction bin =
      c.get side direction bin +
        if role.counts side direction ∧ SizeBin.ofLength length = bin then 1 else 0 := by
  cases role <;> cases side <;> cases direction <;>
    simp [sent, count, get_countMany, Role.counts]

namespace Device

/-- The device after a frame of the controller has gone through. -/
def sent (d : Device) (length : Nat) : Device :=
  match d.machine with
  | .terminal t =>
    { d with machine := .terminal { t with counters := t.counters.sent .terminal length } }
  | .subscriber s =>
    { d with machine := .subscriber { s with counters := s.counters.sent .subscriber length } }

theorem counters_sent (d : Device) (length : Nat) :
    (d.sent length).counters = d.counters.sent d.role length := by
  obtain ⟨machine, _, _, _⟩ := d
  cases machine <;> rfl

theorem stepForward_sent (d : Device) (frame : Frame) :
    d.stepForward (.begun egressPort frame) = pure (.done (.ok ()), d.sent frame.length) := by
  obtain ⟨machine, _, _, _⟩ := d
  cases machine with
  | terminal t => simp [stepForward, Terminal.enter, sent, Counters.sent]
  | subscriber s => simp [stepForward, Subscriber.enter, Subscriber.sideOf, sent, Counters.sent]

theorem forwardFault_sent (d : Device) (length : Nat) :
    (d.sent length).forwardFault = d.forwardFault := by
  obtain ⟨machine, _, _, _⟩ := d
  cases machine <;> rfl

theorem forwardFault_stepForward (d : Device) (f : Forward) :
    ((d.stepForward f).value v).2.forwardFault = d.forwardFault := by
  obtain ⟨machine, _, _, _⟩ := d
  cases machine <;> cases f <;> rfl

/-- A subscriber is done with a frame at once. -/
theorem stepForward_heard {d : Device} (role : d.role = .subscriber) (port : Int32)
    (frame : Frame) : ((d.stepForward (.begun port frame)).value v).1 = .done (.ok ()) ∧
      ((d.stepForward (.begun port frame)).value v).2.counters =
        d.counters.count (Subscriber.sideOf port) .rx frame.length := by
  obtain ⟨machine, _, _, _⟩ := d
  cases machine with
  | terminal t => cases role
  | subscriber s => exact ⟨rfl, rfl⟩

/-- No frame has gone through a device, and forwarding has not been touched. -/
structure Rests (d d' : Device) : Prop where
  role : d'.role = d.role
  location : d'.location = d.location
  counters : d'.counters = d.counters
  forwardFault : d'.forwardFault = d.forwardFault

theorem Rests.refl (d : Device) : d.Rests d := ⟨rfl, rfl, rfl, rfl⟩

theorem rests_setFlows (d : Device) (flows : List FlowRule) : d.Rests (d.setFlows flows) := by
  obtain ⟨machine, _, _, _⟩ := d
  cases machine <;> exact ⟨rfl, rfl, rfl, rfl⟩

theorem rests_setQueue (d : Device) (queue : IngressQueue Nat) : d.Rests (d.setQueue queue) := by
  obtain ⟨machine, _, _, _⟩ := d
  cases machine <;> exact ⟨rfl, rfl, rfl, rfl⟩

theorem rests_closeIngress (d : Device) : d.Rests d.closeIngress := by
  obtain ⟨machine, _, _, _⟩ := d
  cases machine <;> exact ⟨rfl, rfl, rfl, rfl⟩

end Device

/-! ### The task of a frame -/

namespace Delivery

/-- How far a delivery can be: the forward is the one of its frame on the egress port. -/
inductive Follows (frame : Frame) : Delivery → Prop
  | waiting : Follows frame .waiting
  | called : Follows frame (.forwarding ⟨egressPort, frame, .begun egressPort frame⟩)
  | forwarded (result : Except DeviceError Unit) :
      Follows frame (.forwarding ⟨egressPort, frame, .done result⟩)
  | ended (result : Except DeviceError Unit) : Follows frame (.ended result)

def isWaiting : Delivery → Bool
  | .waiting => true
  | _ => false

def isOver : Delivery → Bool
  | .ended _ => true
  | _ => false

/-- Whether the device has counted the frame. -/
def counted : Delivery → Bool
  | .forwarding ⟨_, _, .done (.ok ())⟩ | .ended (.ok ()) => true
  | _ => false

/-- Whether the device has refused the frame. -/
def failed : Delivery → Bool
  | .forwarding ⟨_, _, .done (.error _)⟩ | .ended (.error _) => true
  | _ => false

/-- The steps that are left to a task. -/
def left : Delivery → Nat
  | .waiting => 3
  | .forwarding ⟨_, _, .done _⟩ => 1
  | .forwarding _ => 2
  | .ended _ => 0

theorem left_le (delivery : Delivery) : delivery.left ≤ 3 := by
  unfold left
  split <;> decide

theorem isOver_of_left {delivery : Delivery} (done : delivery.left = 0) :
    delivery.isOver = true := by
  match delivery, done with
  | .ended _, _ => rfl

/-- The last thing that is logged of a frame. -/
def ending (d : Device) : Except DeviceError Unit → Event
  | .ok () => .frameForwarded d.location
  | .error error => .frameForwardFailed d.location error

/-- What has been logged of a frame since it was taken. -/
def story (d : Device) (frame : Frame) : Delivery → List Event
  | .waiting | .forwarding ⟨_, _, .done (.error _)⟩ => []
  | .forwarding _ => [.forwarding d.role d.location egressPort frame.describe]
  | .ended (.ok ()) =>
    [.forwarding d.role d.location egressPort frame.describe, .frameForwarded d.location]
  | .ended (.error error) => [.frameForwardFailed d.location error]

theorem story_congr {d d' : Device} (role : d'.role = d.role) (location : d'.location = d.location)
    (frame : Frame) (delivery : Delivery) : delivery.story d' frame = delivery.story d frame := by
  unfold story
  rw [role, location]

end Delivery

namespace Router

/-- The steps of the task of a frame, with what they log. -/
inductive Delivers (d : Device) (frame : Frame) :
    Delivery → Delivery → Device → List Event → Prop
  | called (able : d.forwardFault = none) :
      Delivers d frame .waiting (.forwarding ⟨egressPort, frame, .begun egressPort frame⟩) d
        [.forwarding d.role d.location egressPort frame.describe]
  | refused (fault : DeviceError) (broken : d.forwardFault = some fault) :
      Delivers d frame .waiting (.forwarding ⟨egressPort, frame, .done (.error fault)⟩) d []
  | sent :
      Delivers d frame (.forwarding ⟨egressPort, frame, .begun egressPort frame⟩)
        (.forwarding ⟨egressPort, frame, .done (.ok ())⟩) (d.sent frame.length) []
  | told (result : Except DeviceError Unit) :
      Delivers d frame (.forwarding ⟨egressPort, frame, .done result⟩) (.ended result) d
        [Delivery.ending d result]
  | rest (result : Except DeviceError Unit) :
      Delivers d frame (.ended result) (.ended result) d []

theorem stepDelivery_delivers (d : Device) {frame : Frame} {delivery : Delivery}
    (follows : delivery.Follows frame) :
    ∃ events, Delivers d frame delivery ((stepDelivery d frame delivery).value v).1
        ((stepDelivery d frame delivery).value v).2 events ∧
      (stepDelivery d frame delivery).events v = v.keep events := by
  cases follows with
  | waiting =>
    simp only [stepDelivery, Device.call]
    cases fault : d.forwardFault with
    | none =>
      refine ⟨_, .called fault, ?_⟩
      rw [← Traced.events_emit_keep]
      simp
    | some error => exact ⟨[], .refused error fault, rfl⟩
  | called =>
    simp only [stepDelivery, d.stepForward_sent, pure_bind]
    exact ⟨[], .sent, rfl⟩
  | forwarded result =>
    refine ⟨_, .told result, (List.append_nil _).trans ?_⟩
    cases result <;> exact Traced.events_emit_keep _
  | ended result => exact ⟨[], .rest result, rfl⟩

namespace Delivers
variable {d after : Device} {frame : Frame} {delivery next : Delivery} {events : List Event}

theorem stays (delivers : Delivers d frame delivery next after events) : d.Stays after := by
  cases delivers with
  | sent =>
    obtain ⟨machine, _, _, _⟩ := d
    cases machine <;> exact ⟨rfl, rfl, rfl, rfl⟩
  | _ => exact .refl d

theorem follows (delivers : Delivers d frame delivery next after events) : next.Follows frame := by
  cases delivers with
  | called => exact .called
  | refused fault => exact .forwarded (.error fault)
  | sent => exact .forwarded (.ok ())
  | told result => exact .ended result
  | rest result => exact .ended result

theorem story (delivers : Delivers d frame delivery next after events) :
    next.story d frame = delivery.story d frame ++ events := by
  cases delivers with
  | told result => cases result <;> rfl
  | rest result => exact (List.append_nil _).symm
  | _ => rfl

theorem left (delivers : Delivers d frame delivery next after events) :
    next.left ≤ delivery.left - 1 := by
  cases delivers <;> simp [Delivery.left]

end Delivers
end Router

/-! ### A station -/

namespace Station

/-- A call for a forward of one frame of the controller. -/
def Note.calls (index : Nat) : Note → Bool
  | .called other _ _ => other = index
  | _ => false

/-- Nothing has happened to the frames of a station. -/
structure Rests (s s' : Station) : Prop where
  device : s.device.Rests s'.device
  arrivals : s'.arrivals = s.arrivals
  submissions : s'.submissions = s.submissions

theorem Rests.refl (s : Station) : s.Rests s := ⟨.refl _, rfl, rfl⟩

/-- The steps of a station, as far as frames are concerned. -/
inductive Goes (v : Verbosity) (s : Station) : Act → Station → List Note → List Event → Prop
  | submitted (payload : Bytes) :
      Goes v s (.submit payload)
        { s with submissions := s.submissions ++ [(⟨payload⟩, .waiting)] } [.acknowledged]
        (v.keep [.frameReceived s.device.location (Frame.describe ⟨payload⟩)])
  | delivered (index : Nat) (frame : Frame) (delivery next : Delivery)
      (found : s.submissions[index]? = some (frame, delivery)) (device : Device)
      (events : List Event)
      (delivers : Router.Delivers s.device frame delivery next device events) :
      Goes v s (.deliver index)
        { s with device, submissions := s.submissions.set index (frame, next) }
        (deliveryNotes index delivery next) (v.keep events)
  | missing (index : Nat) (missing : s.submissions[index]? = none) :
      Goes v s (.deliver index) s [] []
  | arrived (port : Int32) (payload : Bytes) (notes : List Note)
      (silent : ∀ i, notes.filter (Note.calls i) = []) (events : List Event) :
      Goes v s (.arrive port payload)
        { s with arrivals := s.arrivals ++ [(s.device.call port ⟨payload⟩).value v] } notes events
  | forwarded (index : Nat) (passage : Passage) (found : s.arrivals[index]? = some passage)
      (notes : List Note) (silent : ∀ i, notes.filter (Note.calls i) = []) (events : List Event) :
      Goes v s (.forward index)
        { s with
          device := ((s.device.stepForward passage.forward).value v).2
          arrivals := s.arrivals.set index
            { passage with forward := ((s.device.stepForward passage.forward).value v).1 } }
        notes events
  | outage (fault : Option DeviceError) :
      Goes v s (.outage fault) { s with device := { s.device with forwardFault := fault } } [] []
  | rest (act : Act) (plain : act.isFrame = false) (after : Station) (rests : s.Rests after)
      (notes : List Note) (silent : ∀ i, notes.filter (Note.calls i) = []) (events : List Event) :
      Goes v s act after notes events

theorem arrivalNotes_silent (index : Nat) (before after : Forward) (i : Nat) :
    (arrivalNotes index before after).filter (Note.calls i) = [] := by
  unfold arrivalNotes
  split <;> rfl

theorem step_goes (s : Station) (follows : ∀ e ∈ s.submissions, e.2.Follows e.1) (act : Act) :
    Goes v s act ((s.step act).value v).1 ((s.step act).value v).2 ((s.step act).events v) := by
  cases act with
  | submit payload =>
    have logged : (s.step (.submit payload)).events v =
        v.keep [.frameReceived s.device.location (Frame.describe ⟨payload⟩)] :=
      (List.append_nil _).trans (Traced.events_emit_keep _)
    rw [logged]
    exact .submitted payload
  | deliver index =>
    cases found : s.submissions[index]? with
    | none => simpa [step, found] using Goes.missing index found
    | some entry =>
      obtain ⟨frame, delivery⟩ := entry
      obtain ⟨events, delivers, logged⟩ :=
        Router.stepDelivery_delivers (v := v) s.device (follows _ (List.mem_of_getElem? found))
      simpa [step, found, logged] using
        Goes.delivered index frame delivery _ found _ events delivers
  | arrive port payload =>
    exact .arrived port payload _ (arrivalNotes_silent _ (.begun port ⟨payload⟩) _) _
  | forward index =>
    cases found : s.arrivals[index]? with
    | none => simpa [step, found] using Goes.rest (.forward index) rfl s (.refl s) [] (by simp) []
    | some passage =>
      simpa [step, found] using Goes.forwarded (v := v) index passage found _
        (arrivalNotes_silent index passage.forward _) _
  | closeIngress =>
    have rests : s.Rests { s with device := s.device.closeIngress } :=
      ⟨s.device.rests_closeIngress, rfl, rfl⟩
    exact .rest .closeIngress rfl _ rests [] (fun _ => rfl) []
  | outage fault => exact .outage fault
  | info => exact .rest .info rfl s (.refl s) [.info _] (fun _ => rfl) _
  | openStream =>
    simp only [step]
    split
    · have rests (sessions : List Session) (unstarted : List Nat) :
          s.Rests { s with sessions, opened := s.opened + 1, unstarted } := ⟨.refl _, rfl, rfl⟩
      exact .rest .openStream rfl _ (rests _ _) [.opened true] (fun _ => rfl) _
    · exact .rest .openStream rfl s (.refl s) [.opened false] (fun _ => rfl) _
  | startRelay index =>
    simp only [step]
    split
    · exact .rest (.startRelay index) rfl s (.refl s) [] (fun _ => rfl) _
    · split
      · have rests (sessions : List Session) (unstarted : List Nat) :
            s.Rests { s with sessions, unstarted } := ⟨.refl _, rfl, rfl⟩
        exact .rest (.startRelay index) rfl _ (rests _ _) [] (fun _ => rfl) _
      · exact .rest (.startRelay index) rfl s (.refl s) [] (fun _ => rfl) _
  | session index move =>
    simp only [step]
    split
    · exact .rest (.session index move) rfl s (.refl s) [] (fun _ => rfl) _
    · split
      · exact .rest (.session index move) rfl s (.refl s) [] (fun _ => rfl) _
      · have silent (notes : List Session.Note) (i : Nat) :
            (notes.map (Note.session index)).filter (Note.calls i) = [] := by
          simp [Note.calls]
        have rests (queue : IngressQueue Nat) (sessions : List Session) :
            s.Rests { s with device := s.device.setQueue queue, sessions } :=
          ⟨s.device.rests_setQueue queue, rfl, rfl⟩
        exact .rest (.session index move) rfl _ (rests _ _) _ (silent _) _

end Station
end OpticalAccess
