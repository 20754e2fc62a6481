import OpticalAccess.Proofs.Recoding.Devices

/-!
# Replaced contents on a station

Whatever is under way on a device does the same with the contents of another run.
-/

namespace OpticalAccess

variable {φ : Recoding} {μ : Metrics → Metrics → Prop} {κ : Books μ} {v : Verbosity}

inductive Delivery.Recoded (φ : Recoding) : Delivery → Delivery → Prop
  | waiting : Recoded φ .waiting .waiting
  | forwarding {p p' : Passage} (passage : p.Recoded φ p') :
      Recoded φ (.forwarding p) (.forwarding p')
  | ended (result : Except DeviceError Unit) : Recoded φ (.ended result) (.ended result)

inductive Frame.Recoded (φ : Recoding) : Frame → Frame → Prop
  | frame {a b : Bytes} (payload : φ.payload a b) : Recoded φ ⟨a⟩ ⟨b⟩

theorem Router.stepDelivery_alike (hidden : φ.Hidden v) {d d' : Device} (same : d.Recoded φ κ d')
    {f f' : Frame} (frame : f.Recoded φ f') {s s' : Delivery} (delivery : s.Recoded φ s') :
    Traced.Alike v μ (Both (Delivery.Recoded φ) (Device.Recoded φ κ)) (stepDelivery d f s)
      (stepDelivery d' f' s') := by
  have location := same.stays.location
  cases delivery with
  | waiting =>
    obtain ⟨payload⟩ := frame
    exact .bind (Device.call_alike hidden same egressPort payload)
      fun x y passage => .pure ⟨.forwarding passage, same⟩
  | forwarding passage =>
    obtain ⟨port, payload, forward⟩ := passage
    have stepped := Device.stepForward_alike (v := v) hidden same forward
    cases forward with
    | done result =>
      have logged : delivered d' result = delivered d result := by
        cases result <;> simp only [delivered, location]
      simp only [stepDelivery, logged]
      exact .after _ fun _ => .pure ⟨.ended result, same⟩
    | _ =>
      exact .bind stepped fun x y next =>
        .pure ⟨.forwarding (.passage port payload next.1), next.2⟩
  | ended result => exact .pure ⟨.ended result, same⟩

/-- The same frames of a controller but for their contents, and each as far on its way. -/
def Recoding.submissions (φ : Recoding) :
    List (Frame × Delivery) → List (Frame × Delivery) → Prop :=
  List.Forall₂ (Both (Frame.Recoded φ) (Delivery.Recoded φ))

/-- The same counters, and the same frames of the controller but for their contents. -/
def Recoding.books (φ : Recoding) : Books Eq where
  counters := Eq
  count _ _ _ _ _ same := same ▸ rfl
  shown _ _ _ same := same ▸ rfl
  unshown := rfl
  submissions := φ.submissions

namespace Station

inductive Recoded (φ : Recoding) (κ : Books μ) : Station → Station → Prop
  | station {d d' : Device} (device : d.Recoded φ κ d') (settings : Settings)
      {xs ys : List Session} (sessions : List.Forall₂ (Session.Recoded φ) xs ys) (opened : Nat)
      {ps qs : List Passage} (arrivals : List.Forall₂ (Passage.Recoded φ) ps qs)
      {us ws : List (Frame × Delivery)} (submissions : κ.submissions us ws)
      (writer : Option Nat) (unstarted : List Nat) :
      Recoded φ κ ⟨d, settings, xs, opened, ps, us, writer, unstarted⟩
        ⟨d', settings, ys, opened, qs, ws, writer, unstarted⟩

theorem Recoded.device {s s' : Station} (same : s.Recoded φ κ s') :
    s.device.Recoded φ κ s'.device := by
  obtain ⟨device, _, _, _, _, _, _, _⟩ := same
  exact device

/-- Whether an act is about a frame of the controller. -/
def Act.isFrame : Act → Bool
  | .submit _ | .deliver _ => true
  | _ => false

inductive Act.Recoded (φ : Recoding) : Act → Act → Prop
  | submit {a b : Bytes} (payload : φ.payload a b) : Recoded φ (.submit a) (.submit b)
  | deliver (index : Nat) : Recoded φ (.deliver index) (.deliver index)
  | arrive (port : Int32) {a b : Bytes} (payload : φ.payload a b) :
      Recoded φ (.arrive port a) (.arrive port b)
  | forward (index : Nat) : Recoded φ (.forward index) (.forward index)
  | closeIngress : Recoded φ .closeIngress .closeIngress
  | outage (fault : Option DeviceError) : Recoded φ (.outage fault) (.outage fault)
  | info : Recoded φ .info .info
  | openStream : Recoded φ .openStream .openStream
  | startRelay (index : Nat) : Recoded φ (.startRelay index) (.startRelay index)
  | session (index : Nat) (move : Session.Move) :
      Recoded φ (.session index move) (.session index move)

inductive Note.Recoded (φ : Recoding) : Note → Note → Prop
  | acknowledged : Recoded φ .acknowledged .acknowledged
  | called (index : Nat) (port : Int32) {a b : Bytes} (payload : φ.payload a b) :
      Recoded φ (.called index port a) (.called index port b)
  | arrived (index : Nat) (result : Except DeviceError Unit) :
      Recoded φ (.arrived index result) (.arrived index result)
  | info (info : DeviceInfo) : Recoded φ (.info info) (.info info)
  | opened (accepted : Bool) : Recoded φ (.opened accepted) (.opened accepted)
  | session (index : Nat) {n n' : Session.Note} (note : n.Recoded φ n') :
      Recoded φ (.session index n) (.session index n')

theorem deliveryNotes_recoded (index : Nat) {s s' n n' : Delivery} (before : s.Recoded φ s')
    (after : n.Recoded φ n') :
    List.Forall₂ (Note.Recoded φ) (deliveryNotes index s n) (deliveryNotes index s' n') := by
  cases before with
  | waiting =>
    cases after with
    | forwarding passage =>
      obtain ⟨port, payload, _⟩ := passage
      exact .cons (.called index port payload) .nil
    | _ => exact .nil
  | _ => exact .nil

theorem arrivalNotes_recoded (index : Nat) {f f' g g' : Forward} (before : f.Recoded φ f')
    (after : g.Recoded φ g') :
    List.Forall₂ (Note.Recoded φ) (arrivalNotes index f g) (arrivalNotes index f' g') := by
  cases before with
  | done result => exact .nil
  | _ =>
    cases after with
    | done result => exact .cons (.arrived index result) .nil
    | _ => exact .nil

/-- What an act comes to: the station after it, and what was seen of it. -/
abbrev Stepped (φ : Recoding) (κ : Books μ) := Both (Recoded φ κ) (List.Forall₂ (Note.Recoded φ))

theorem deliver_alike (hidden : φ.Hidden v) {s s' : Station} (same : s.Recoded φ κ s')
    (frames : κ.submissions = φ.submissions) (index : Nat) :
    Traced.Alike v μ (Stepped φ κ) (s.step (.deliver index)) (s'.step (.deliver index)) := by
  have still := same
  cases same with
  | @station d d' device settings xs ys sessions opened ps qs arrivals us ws submissions writer
      unstarted =>
  rw [frames] at submissions
  have entry := rel_getElem? submissions index
  simp only [step]
  generalize us[index]? = x at entry ⊢
  generalize ws[index]? = y at entry ⊢
  cases entry with
  | none => exact .pure ⟨still, .nil⟩
  | @some x y entry =>
    obtain ⟨f, s⟩ := x
    obtain ⟨f', s'⟩ := y
    obtain ⟨frame, delivery⟩ := entry
    refine .bind (Router.stepDelivery_alike hidden device frame delivery)
      fun x y next => .pure ⟨?_, deliveryNotes_recoded index delivery next.1⟩
    have entry : Both (Frame.Recoded φ) (Delivery.Recoded φ) (f, x.1) (f', y.1) := ⟨frame, next.1⟩
    have submissions : κ.submissions (us.set index (f, x.1)) (ws.set index (f', y.1)) :=
      frames ▸ rel_set submissions index entry
    exact .station next.2 settings sessions opened arrivals submissions writer unstarted

theorem forward_alike (hidden : φ.Hidden v) {s s' : Station} (same : s.Recoded φ κ s')
    (index : Nat) :
    Traced.Alike v μ (Stepped φ κ) (s.step (.forward index)) (s'.step (.forward index)) := by
  have still := same
  cases same with
  | @station d d' device settings xs ys sessions opened ps qs arrivals us ws submissions writer
      unstarted =>
  have entry := rel_getElem? arrivals index
  simp only [step]
  generalize ps[index]? = x at entry ⊢
  generalize qs[index]? = y at entry ⊢
  cases entry with
  | none => exact .pure ⟨still, .nil⟩
  | some passage =>
    obtain ⟨port, payload, forward⟩ := passage
    refine .bind (Device.stepForward_alike hidden device forward)
      fun x y next => .pure ⟨?_, arrivalNotes_recoded index forward next.1⟩
    exact .station next.2 settings sessions opened
      (rel_set arrivals index (.passage port payload next.1)) submissions writer unstarted

theorem startRelay_alike {s s' : Station} (same : s.Recoded φ κ s') (index : Nat) :
    Traced.Alike v μ (Stepped φ κ) (s.step (.startRelay index)) (s'.step (.startRelay index)) := by
  have still := same
  cases same with
  | @station d d' device settings xs ys sessions opened ps qs arrivals us ws submissions writer
      unstarted =>
  have entry := rel_getElem? sessions index
  simp only [step]
  generalize xs[index]? = x at entry ⊢
  generalize ys[index]? = y at entry ⊢
  cases entry with
  | none => exact .pure ⟨still, .nil⟩
  | some session =>
    dsimp only
    split
    · refine .bind (Session.begin_alike session device.stays.role device.stays.location)
        fun x y session => .pure ⟨?_, .nil⟩
      exact .station device settings (rel_set sessions index session) opened arrivals submissions
        writer (unstarted.erase index)
    · exact .pure ⟨still, .nil⟩

theorem session_alike (hidden : φ.Hidden v) {s s' : Station} (same : s.Recoded φ κ s')
    (index : Nat) (move : Session.Move) :
    Traced.Alike v μ (Stepped φ κ) (s.step (.session index move))
      (s'.step (.session index move)) := by
  have still := same
  cases same with
  | @station d d' device settings xs ys sessions opened ps qs arrivals us ws submissions writer
      unstarted =>
  have entry := rel_getElem? sessions index
  simp only [step, device.stays.location]
  generalize xs[index]? = x at entry ⊢
  generalize ys[index]? = y at entry ⊢
  cases entry with
  | none => exact .pure ⟨still, .nil⟩
  | some session =>
    dsimp only
    split
    · exact .pure ⟨still, .nil⟩
    · refine .bind (Session.perform_alike hidden _ device.queue session move)
        fun x y performed => ?_
      obtain ⟨after, queue, notes⟩ := performed
      refine .pure ⟨?_, List.rel_map (fun _ _ note => .session index note) notes⟩
      exact .station (device.setQueue queue) settings (rel_set sessions index after) opened arrivals
        submissions writer unstarted

theorem step_alike (hidden : φ.Hidden v) {s s' : Station} (same : s.Recoded φ κ s')
    {act act' : Act} (acts : act.Recoded φ act')
    (frames : act.isFrame = false ∨ κ.submissions = φ.submissions) :
    Traced.Alike v μ (Stepped φ κ) (s.step act) (s'.step act') := by
  have still := same
  cases same with
  | @station d d' device settings xs ys sessions opened ps qs arrivals us ws submissions writer
      unstarted =>
  have location := device.stays.location
  cases acts with
  | @submit a b payload =>
    have frames : κ.submissions = φ.submissions := frames.resolve_left (by simp [Act.isFrame])
    simp only [step, Router.accept, location]
    refine .told (hidden.described (.frameReceived _) payload)
      (.pure ⟨?_, .cons .acknowledged .nil⟩)
    have entry : Both (Frame.Recoded φ) (Delivery.Recoded φ) (⟨a⟩, .waiting) (⟨b⟩, .waiting) :=
      ⟨.frame payload, .waiting⟩
    have more : κ.submissions (us ++ [(⟨a⟩, .waiting)]) (ws ++ [(⟨b⟩, .waiting)]) := by
      rw [frames] at submissions ⊢
      exact List.rel_append submissions (.cons entry .nil)
    exact .station device settings sessions opened arrivals more writer unstarted
  | deliver index =>
    exact deliver_alike hidden still (frames.resolve_left (by simp [Act.isFrame])) index
  | arrive port payload =>
    simp only [step, ← arrivals.length_eq]
    refine .bind (Device.call_alike hidden device port payload) fun x y passage => .pure ⟨?_, ?_⟩
    · exact .station device settings sessions opened (List.rel_append arrivals (.cons passage .nil))
        submissions writer unstarted
    · obtain ⟨_, _, forward⟩ := passage
      exact arrivalNotes_recoded _ (.begun port payload) forward
  | forward index => exact forward_alike hidden still index
  | closeIngress =>
    exact .pure ⟨.station device.closeIngress settings sessions opened arrivals submissions writer
      unstarted, .nil⟩
  | outage fault =>
    exact .pure ⟨.station (device.outage fault) settings sessions opened arrivals submissions
      writer unstarted, .nil⟩
  | info =>
    simp only [step, Router.deviceInfo, location, device.stays.role, Router.info_recoded device,
      bind_assoc, pure_bind]
    exact .after _ fun _ => .pure ⟨still, .cons (.info _) .nil⟩
  | openStream =>
    simp only [step, ← sessions.length_eq]
    split
    · have session := Session.opened_recoded φ opened settings.relayBuffer
      exact .pure ⟨.station device settings (List.rel_append sessions (.cons session .nil))
        (opened + 1) arrivals submissions writer _, .cons (.opened true) .nil⟩
    · exact .pure ⟨still, .cons (.opened false) .nil⟩
  | startRelay index => exact startRelay_alike still index
  | session index move => exact session_alike hidden still index move

end Station
end OpticalAccess
