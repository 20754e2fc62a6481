import OpticalAccess.Proofs.Recoding.Streams

/-!
# Replaced contents on a device

A device counts frames by their lengths, queues payloads and keeps a flow table, and what it does
does not depend on what is in them. Nor does it depend on what has been counted so far.
-/

namespace OpticalAccess

variable {φ : Recoding} {μ : Metrics → Metrics → Prop} {κ : Books μ} {v : Verbosity}

inductive Forward.Recoded (φ : Recoding) : Forward → Forward → Prop
  | begun (port : Int32) {a b : Bytes} (payload : φ.payload a b) :
      Recoded φ (.begun port ⟨a⟩) (.begun port ⟨b⟩)
  | queueing (port : Int32) {a b : Bytes} (payload : φ.payload a b) :
      Recoded φ (.queueing port ⟨a⟩) (.queueing port ⟨b⟩)
  | counting (length : Nat) : Recoded φ (.counting length) (.counting length)
  | done (result : Except DeviceError Unit) : Recoded φ (.done result) (.done result)

inductive Terminal.Recoded (φ : Recoding) (κ : Books μ) : Terminal → Terminal → Prop
  | terminal (location : Location) (registry : Registry) {fs gs : List FlowRule}
      (flows : φ.flows fs gs) {c c' : Counters} (counters : κ.counters c c')
      {q q' : IngressQueue Nat} (queue : q.Recoded φ q') :
      Recoded φ κ ⟨location, registry, fs, c, q⟩ ⟨location, registry, gs, c', q'⟩

inductive Subscriber.Recoded (φ : Recoding) (κ : Books μ) : Subscriber → Subscriber → Prop
  | subscriber (location : Location) {fs gs : List FlowRule} (flows : φ.flows fs gs)
      {c c' : Counters} (counters : κ.counters c c') :
      Recoded φ κ ⟨location, fs, c⟩ ⟨location, gs, c'⟩

inductive Machine.Recoded (φ : Recoding) (κ : Books μ) : Machine → Machine → Prop
  | terminal {t t' : Terminal} (same : t.Recoded φ κ t') : Recoded φ κ (.terminal t) (.terminal t')
  | subscriber {s s' : Subscriber} (same : s.Recoded φ κ s') :
      Recoded φ κ (.subscriber s) (.subscriber s')

inductive Device.Recoded (φ : Recoding) (κ : Books μ) : Device → Device → Prop
  | device {m m' : Machine} (machine : m.Recoded φ κ m') (forwardFault : Option DeviceError)
      (installFault : Option DeviceError) (view? : Option ChildView) :
      Recoded φ κ ⟨m, forwardFault, installFault, view?⟩ ⟨m', forwardFault, installFault, view?⟩

/-- The same frame on its way through a device, but for its contents. -/
inductive Passage.Recoded (φ : Recoding) : Passage → Passage → Prop
  | passage (port : Int32) {a b : Bytes} (payload : φ.payload a b) {f f' : Forward}
      (forward : f.Recoded φ f') : Recoded φ ⟨port, ⟨a⟩, f⟩ ⟨port, ⟨b⟩, f'⟩

theorem Terminal.Recoded.enter {t t' : Terminal} (same : t.Recoded φ κ t') (port : Int32)
    {a b : Bytes} (payload : φ.payload a b) :
    Both (Forward.Recoded φ) (Terminal.Recoded φ κ) (t.enter port ⟨a⟩) (t'.enter port ⟨b⟩) := by
  cases same with
  | terminal location registry flows counters queue =>
  simp only [Terminal.enter, Frame.length, φ.length_payload payload]
  split
  · exact ⟨.done _, .terminal location registry flows
      (κ.count .pon .tx _ (κ.count .nni .rx _ counters)) queue⟩
  · cases registry.find? port with
    | none => exact ⟨.done _, .terminal location registry flows counters queue⟩
    | some child =>
      exact ⟨.queueing port payload, .terminal location registry flows
        (κ.count .pon .rx _ counters) queue⟩

theorem Terminal.step_alike (hidden : φ.Hidden v) {t t' : Terminal} (same : t.Recoded φ κ t')
    {f f' : Forward} (forward : f.Recoded φ f') :
    Traced.Alike v μ (Both (Forward.Recoded φ) (Recoded φ κ)) (t.step f) (t'.step f') := by
  cases same with
  | terminal location registry flows counters queue =>
  cases forward with
  | begun port payload =>
    rw [step_begun, step_begun]
    exact .told (hidden.described (.forwarding .terminal location port) payload)
      (.pure (Recoded.enter (.terminal location registry flows counters queue) port payload))
  | queueing port payload =>
    have offered := queue.offer payload
    simp only [step, Frame.length, φ.length_payload payload]
    generalize IngressQueue.offer _ _ = x at offered ⊢
    generalize IngressQueue.offer _ _ = y at offered ⊢
    obtain ⟨answer, after⟩ := x
    obtain ⟨_, after'⟩ := y
    obtain ⟨rfl, after⟩ := offered
    cases answer with
    | accepted => exact .pure ⟨.counting _, .terminal location registry flows counters after⟩
    | full =>
      exact .after _ fun _ => .pure ⟨.done _, .terminal location registry flows counters queue⟩
    | closed => exact .pure ⟨.done _, .terminal location registry flows counters queue⟩
  | counting length =>
    exact .pure ⟨.done _, .terminal location registry flows (κ.count .nni .tx _ counters) queue⟩
  | done result => exact .pure ⟨.done result, .terminal location registry flows counters queue⟩

theorem Subscriber.Recoded.enter {s s' : Subscriber} (same : s.Recoded φ κ s') (port : Int32)
    {a b : Bytes} (payload : φ.payload a b) :
    (s.enter port ⟨a⟩).Recoded φ κ (s'.enter port ⟨b⟩) := by
  cases same with
  | subscriber location flows counters =>
  simp only [Subscriber.enter, Frame.length, φ.length_payload payload]
  exact .subscriber location flows (κ.count _ .rx _ counters)

namespace Device
variable {d d' : Device}

/-- What a router goes by has nothing of contents. -/
theorem Recoded.stays (same : d.Recoded φ κ d') : d.Stays d' := by
  obtain ⟨⟨machine⟩ | ⟨machine⟩, _, _, _⟩ := same <;> cases machine <;> exact ⟨rfl, rfl, rfl, rfl⟩

theorem Recoded.counters (same : d.Recoded φ κ d') : κ.counters d.counters d'.counters := by
  obtain ⟨⟨machine⟩ | ⟨machine⟩, _, _, _⟩ := same <;> cases machine <;> assumption

theorem Recoded.flows (same : d.Recoded φ κ d') : φ.flows d.flows d'.flows := by
  obtain ⟨⟨machine⟩ | ⟨machine⟩, _, _, _⟩ := same <;> cases machine <;> assumption

theorem Recoded.queue (same : d.Recoded φ κ d') : d.queue.Recoded φ d'.queue := by
  obtain ⟨⟨machine⟩ | ⟨machine⟩, _, _, _⟩ := same <;> cases machine
  · assumption
  · exact .queue 1 .nil true []

theorem Recoded.setQueue (same : d.Recoded φ κ d') {q q' : IngressQueue Nat}
    (queue : q.Recoded φ q') : (d.setQueue q).Recoded φ κ (d'.setQueue q') := by
  obtain ⟨⟨⟨location, registry, flows, counters, _⟩⟩ | machine, _, _, _⟩ := same
  · exact .device (.terminal (.terminal location registry flows counters queue)) _ _ _
  · exact .device (.subscriber machine) _ _ _

theorem Recoded.closeIngress (same : d.Recoded φ κ d') :
    d.closeIngress.Recoded φ κ d'.closeIngress := by
  obtain ⟨⟨⟨location, registry, flows, counters, queue⟩⟩ | machine, _, _, _⟩ := same
  · exact .device (.terminal (.terminal location registry flows counters queue.close)) _ _ _
  · exact .device (.subscriber machine) _ _ _

theorem Recoded.outage (same : d.Recoded φ κ d') (fault : Option DeviceError) :
    Recoded φ κ { d with forwardFault := fault } { d' with forwardFault := fault } := by
  obtain ⟨machine, _, _, _⟩ := same
  exact .device machine _ _ _

theorem call_alike (hidden : φ.Hidden v) (same : d.Recoded φ κ d') (port : Int32) {a b : Bytes}
    (payload : φ.payload a b) :
    Traced.Alike v μ (Passage.Recoded φ) (d.call port ⟨a⟩) (d'.call port ⟨b⟩) := by
  have stays := same.stays
  obtain ⟨machine, forwardFault, _, _⟩ := same
  cases forwardFault with
  | some fault => exact .pure (.passage port payload (.done _))
  | none =>
    simp only [call, stays.role, stays.location]
    exact .told (hidden.described (.forwarding _ _ port) payload)
      (.pure (.passage port payload (.begun port payload)))

theorem stepForward_alike (hidden : φ.Hidden v) (same : d.Recoded φ κ d') {f f' : Forward}
    (forward : f.Recoded φ f') :
    Traced.Alike v μ (Both (Forward.Recoded φ) (Recoded φ κ)) (d.stepForward f)
      (d'.stepForward f') := by
  have still := forward
  obtain ⟨terminal | subscriber, forwardFault, installFault, view?⟩ := same
  · have stepped := Terminal.step_alike (v := v) hidden terminal forward
    cases forward with
    | begun port payload =>
      obtain ⟨next, after⟩ := terminal.enter port payload
      exact .pure ⟨next, .device (.terminal after) _ _ _⟩
    | _ => exact .bind stepped fun x y same => .pure ⟨same.1, .device (.terminal same.2) _ _ _⟩
  · cases forward with
    | begun port payload =>
      exact .pure ⟨.done _, .device (.subscriber (subscriber.enter port payload)) _ _ _⟩
    | _ => exact .pure ⟨still, .device (.subscriber subscriber) _ _ _⟩

theorem install_alike (same : d.Recoded φ κ d') {fs gs : List FlowRule} (flows : φ.flows fs gs) :
    Traced.Alike v μ (Both Eq (Recoded φ κ)) (d.install fs) (d'.install gs) := by
  obtain ⟨machine, forwardFault, installFault, view?⟩ := same
  cases installFault with
  | some fault => exact .pure ⟨rfl, .device machine _ _ _⟩
  | none =>
    obtain ⟨location, registry, _, counters, queue⟩ | ⟨location, _, counters⟩ := machine
    · simp only [install, Terminal.install, φ.length_flows flows, bind_assoc, pure_bind]
      exact .after _ fun _ =>
        .pure ⟨rfl, .device (.terminal (.terminal location registry flows counters queue)) _ _ _⟩
    · simp only [install, Subscriber.install, φ.length_flows flows, bind_assoc, pure_bind]
      exact .after _ fun _ =>
        .pure ⟨rfl, .device (.subscriber (.subscriber location flows counters)) _ _ _⟩

end Device

namespace Router
variable {d d' : Device}

theorem info_recoded (same : d.Recoded φ κ d') : info d' = info d := by
  simp only [info, Device.childPorts, same.stays.view]

theorem statsCalls_recoded (same : d.Recoded φ κ d') : statsCalls d' = statsCalls d := by
  simp only [statsCalls, Device.childPorts, Device.childLocation?, same.stays.view]

theorem shownMetrics_recoded (same : d.Recoded φ κ d') : μ (shownMetrics d) (shownMetrics d') := by
  obtain ⟨⟨⟨location, _, _, counters, _⟩⟩ | machine, _, _, _⟩ := same
  · exact κ.shown location.address counters
  · exact κ.unshown

end Router
end OpticalAccess
