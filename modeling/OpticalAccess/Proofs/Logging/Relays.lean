import OpticalAccess.Device.Basic
import OpticalAccess.Proofs.Logging.Basic
import OpticalAccess.Relay.Sinks
import OpticalAccess.Router.Basic

/-!
# What devices and relays log

The text of a frame is long, and devices, routers and relays make it up only where it is kept. A
device or a router logs it at once. A relay makes it up when it takes the frame, carries it along
and logs it twice, the second time after the frame has been given away.
-/

namespace OpticalAccess

/-! ### Devices -/

namespace Subscriber

theorem forward_filtered (s : Subscriber) (port : Int32) (frame : Frame) :
    (s.forward port frame).Filtered :=
  .bind (.emit _) fun _ => .pure _

theorem install_filtered (s : Subscriber) (flows : List FlowRule) : (s.install flows).Filtered :=
  .bind (.emit _) fun _ => .pure _

theorem forward_guarded (s : Subscriber) (port : Int32) (frame : Frame) :
    s.forward port frame = do
      Traced.guarded .debug fun _ => .forwarding .subscriber s.location port frame.describe
      return { s with counters := s.counters.count (sideOf port) .rx frame.length } := by
  rw [Traced.guarded_eq]
  · rfl
  · exact Nat.le_refl _

end Subscriber

namespace Terminal

/-- What the first step of a forward does besides logging. -/
def enter (t : Terminal) (port : Int32) (frame : Frame) : Forward × Terminal :=
  if port = egressPort then
    (.done (.ok ()),
      { t with counters := (t.counters.count .nni .rx frame.length).count .pon .tx frame.length })
  else
    match t.registry.find? port with
    | none => (.done (.error (.portNotFound port)), t)
    | some _ =>
      (.queueing port frame, { t with counters := t.counters.count .pon .rx frame.length })

theorem step_begun (t : Terminal) (port : Int32) (frame : Frame) :
    t.step (.begun port frame) = do
      Traced.emit (.forwarding .terminal t.location port frame.describe)
      return t.enter port frame := by
  unfold enter
  split
  · rename_i own
    simp [step, own]
  · rename_i apart
    cases found : t.registry.find? port <;> simp [step, apart, found]

theorem step_begun_guarded (t : Terminal) (port : Int32) (frame : Frame) :
    t.step (.begun port frame) = do
      Traced.guarded .debug fun _ => .forwarding .terminal t.location port frame.describe
      return t.enter port frame := by
  rw [Traced.guarded_eq]
  · exact t.step_begun port frame
  · exact Nat.le_refl _

theorem step_filtered (t : Terminal) (f : Forward) : (t.step f).Filtered := by
  cases f with
  | begun port frame =>
    rw [step_begun]
    exact .bind (.emit _) fun _ => .pure _
  | queueing port frame =>
    simp only [step]
    split
    · exact .pure _
    · exact .bind (.emit _) fun _ => .pure _
    · exact .pure _
  | counting length | done result => exact .pure _

theorem forward_filtered (t : Terminal) (port : Int32) (frame : Frame) :
    (t.forward port frame).Filtered :=
  .bind (t.step_filtered _) fun (f, t) =>
    .bind (t.step_filtered f) fun (f, t) => .bind (t.step_filtered f) fun _ => .pure _

theorem install_filtered (t : Terminal) (flows : List FlowRule) : (t.install flows).Filtered :=
  .bind (.emit _) fun _ => .pure _

end Terminal

namespace Device

theorem forward_filtered (d : Device) (port : Int32) (frame : Frame) :
    (d.forward port frame).Filtered := by
  unfold forward
  split
  · exact .pure _
  · split
    · exact .bind (Terminal.forward_filtered _ _ _) fun _ => .pure _
    · exact .bind (Subscriber.forward_filtered _ _ _) fun _ => .pure _

theorem install_filtered (d : Device) (flows : List FlowRule) : (d.install flows).Filtered := by
  unfold install
  split
  · exact .pure _
  · split
    · exact .bind (Terminal.install_filtered _ _) fun _ => .pure _
    · exact .bind (Subscriber.install_filtered _ _) fun _ => .pure _

end Device

theorem Router.accept_guarded (d : Device) (frame : Frame) :
    accept d frame = Traced.guarded .info fun _ => .frameReceived d.location frame.describe := by
  rw [Traced.guarded_eq]
  · rfl
  · exact Nat.le_refl _

/-! ### Relays -/

namespace Relay

variable {ρ σ : Type}

theorem begin_filtered (role : Role) (device : Location) : (begin role device).Filtered := by
  cases role <;> exact .bind (.emit _) fun _ => .pure _

theorem receive_filtered (device : String) (sink : σ)
    (answer : IngressQueue.Answer × IngressQueue ρ) : (receive device sink answer).Filtered := by
  obtain ⟨answer, queue⟩ := answer
  cases answer with
  | payload | closed => exact .bind (.emit _) fun _ => .pure _
  | pending => exact .pure _

theorem leave_filtered (device : String) (queue : IngressQueue ρ) (sink : σ) :
    (leave device queue sink).Filtered :=
  .bind (.emit _) fun _ => .pure _

variable [DecidableEq ρ]

theorem step_filtered (device : String) (S : Sink σ) (call : ρ) (s : State ρ σ) :
    (step device S call s).Filtered := by
  unfold step
  split
  · split
    · exact .bind (leave_filtered _ _ _) fun _ => .pure _
    · exact .bind (receive_filtered _ _ _) fun _ => .pure _
  · split
    · exact .bind (leave_filtered _ _ _) fun _ => .pure _
    · split
      · exact .pure _
      · exact .bind (receive_filtered _ _ _) fun _ => .pure _
  · split
    · exact .bind (.emit _) fun _ => .pure _
    · exact .bind (.emit _) fun _ => .pure _
    · exact .pure _
  · exact .pure _

theorem runWithin_filtered (device : String) (S : Sink σ) (call : ρ) (fuel : Nat) (s : State ρ σ) :
    (runWithin device S call fuel s).Filtered := by
  induction fuel generalizing s with
  | zero => exact .pure s
  | succ fuel ih =>
    refine .bind (step_filtered device S call s) fun next => ?_
    cases next with
    | none => exact .pure s
    | some next => exact ih next

theorem run_filtered (device : String) (S : Sink σ) (call : ρ) (s : State ρ σ) :
    (run device S call s).Filtered :=
  runWithin_filtered device S call _ s

/-! ### Relays that carry the text of a frame -/

/-- A relay with the text of the frame that it holds, if that text is wanted. -/
structure Noting (ρ σ : Type) where
  state : State ρ σ
  text : Option String := none

end Relay

namespace Relay.Noting

/-- The text of a payload, made up only if frames are logged. -/
def textOf (payload : Bytes) : Traced (Option String) := do
  if ← Traced.enabled .debug then return some (Frame.describe ⟨payload⟩) else return none

/-- Logs an event about a text that was made up before. -/
def log (text : Option String) (e : String → Event) : Traced Unit :=
  match text with
  | some text => Traced.emit (e text)
  | none => return ()

theorem events_textOf (v : Verbosity) (payload : Bytes) : (textOf payload).events v = [] := by
  cases kept : v.enables .debug <;> simp [textOf, kept]

theorem events_log (v : Verbosity) (payload : Bytes) (e : String → Event)
    (level : (e (Frame.describe ⟨payload⟩)).level = .debug) :
    (log ((textOf payload).value v) e).events v =
      (Traced.emit (e (Frame.describe ⟨payload⟩))).events v := by
  cases kept : v.enables .debug <;> simp [log, textOf, kept, level]

variable {ρ σ : Type}

def receive (device : String) (sink : σ) :
    IngressQueue.Answer × IngressQueue ρ → Traced (Noting ρ σ)
  | (.payload payload, queue) => do
    let text ← textOf payload
    log text (.relayReceived device)
    return ⟨⟨queue, sink, .holding payload⟩, text⟩
  | answer => return ⟨← Relay.receive device sink answer, none⟩

/-- What a relay carries is the text of what it holds. -/
def Fits (v : Verbosity) (s : Noting ρ σ) : Prop :=
  ∀ payload, s.state.phase = .holding payload → s.text = (textOf payload).value v

/-- The steps of two relays, one of which carries a text, come to the same. -/
structure Agrees (v : Verbosity) (x : Traced (Option (Noting ρ σ)))
    (y : Traced (Option (State ρ σ))) : Prop where
  state : (x.value v).map Noting.state = y.value v
  events : x.events v = y.events v
  fits : ∀ next, x.value v = some next → next.Fits v

theorem agrees_none (v : Verbosity) :
    Agrees v (pure none : Traced (Option (Noting ρ σ))) (pure none) :=
  ⟨rfl, rfl, fun next same => by cases same⟩

theorem agrees_empty {v : Verbosity} {x : Traced (State ρ σ)}
    (empty : ∀ payload, (x.value v).phase ≠ .holding payload) :
    Agrees v (do return some ⟨← x, none⟩) (do return some (← x)) := by
  refine ⟨rfl, rfl, fun next same payload held => ?_⟩
  cases same
  exact absurd held (empty payload)

theorem receive_agrees (v : Verbosity) (device : String) (sink : σ)
    (answer : IngressQueue.Answer × IngressQueue ρ) :
    Agrees v (do return some (← receive device sink answer))
      (do return some (← Relay.receive device sink answer)) := by
  obtain ⟨answer, queue⟩ := answer
  cases answer with
  | payload payload =>
    refine ⟨rfl, ?_, fun next same held holds => ?_⟩
    · simp [receive, Relay.receive, events_textOf, events_log v payload (.relayReceived device) rfl]
    · cases same
      cases holds
      rfl
  | closed =>
    simp only [receive, bind_assoc, pure_bind]
    exact agrees_empty fun payload holds => by cases holds
  | pending =>
    simp only [receive, bind_assoc, pure_bind]
    exact agrees_empty fun payload holds => by cases holds

variable [DecidableEq ρ]

def step (device : String) (S : Sink σ) (call : ρ) (s : Noting ρ σ) :
    Traced (Option (Noting ρ σ)) := do
  match s.state.phase with
  | .ready =>
    if S.closed s.state.sink then return some ⟨← leave device s.state.queue s.state.sink, none⟩
    return some (← receive device s.state.sink (s.state.queue.start call))
  | .waiting =>
    if S.closed s.state.sink then
      return some ⟨← leave device (s.state.queue.cancel call) s.state.sink, none⟩
    match s.state.queue.poll call with
    | (.pending, _) => return none
    | answer => return some (← receive device s.state.sink answer)
  | .holding payload =>
    match S.write ⟨device, payload⟩ s.state.sink with
    | .accepted sink =>
      log s.text (.relaySent device)
      return some ⟨{ s.state with sink, phase := .ready }, none⟩
    | .refused error =>
      Traced.emit (.relaySendFailed device error)
      return some ⟨{ s.state with phase := .ended (.error error) }, none⟩
    | .blocked => return none
  | .ended _ => return none

def runWithin (device : String) (S : Sink σ) (call : ρ) :
    (fuel : Nat) → Noting ρ σ → Traced (Noting ρ σ)
  | 0, s => return s
  | fuel + 1, s => do
    match ← step device S call s with
    | none => return s
    | some s => runWithin device S call fuel s

theorem step_agrees {v : Verbosity} {s : Noting ρ σ} (fits : s.Fits v) (device : String)
    (S : Sink σ) (call : ρ) :
    Agrees v (step device S call s) (Relay.step device S call s.state) := by
  obtain ⟨⟨queue, sink, phase⟩, text⟩ := s
  cases phase with
  | ready =>
    simp only [step, Relay.step]
    split
    · exact agrees_empty fun payload holds => by cases holds
    · exact receive_agrees v device sink _
  | waiting =>
    simp only [step, Relay.step]
    split
    · exact agrees_empty fun payload holds => by cases holds
    · generalize queue.poll call = polled
      obtain ⟨answer, after⟩ := polled
      cases answer with
      | pending => exact agrees_none v
      | payload bytes => exact receive_agrees v device sink (.payload bytes, after)
      | closed => exact receive_agrees v device sink (.closed, after)
  | holding payload =>
    obtain rfl : text = (textOf payload).value v := fits payload rfl
    simp only [step, Relay.step]
    cases S.write ⟨device, payload⟩ sink with
    | accepted sink =>
      refine ⟨rfl, ?_, fun next same held holds => ?_⟩
      · simp [events_log v payload (.relaySent device) rfl]
      · cases same
        cases holds
    | refused error =>
      exact ⟨rfl, rfl, fun next same held holds => by cases same; cases holds⟩
    | blocked => exact agrees_none v
  | ended result => exact agrees_none v

/--
A relay that carries the text of its frame does and logs what a relay does that makes it up anew.
-/
theorem runWithin_agrees {v : Verbosity} {s : Noting ρ σ} (fits : s.Fits v) (device : String)
    (S : Sink σ) (call : ρ) (fuel : Nat) :
    ((runWithin device S call fuel s).value v).state =
        (Relay.runWithin device S call fuel s.state).value v ∧
      (runWithin device S call fuel s).events v =
        (Relay.runWithin device S call fuel s.state).events v := by
  induction fuel generalizing s with
  | zero => exact ⟨rfl, rfl⟩
  | succ fuel ih =>
    have agrees := step_agrees fits device S call
    simp only [runWithin, Relay.runWithin, Traced.value_bind, Traced.events_bind, ← agrees.state,
      agrees.events]
    cases moved : (step device S call s).value v with
    | none => exact ⟨rfl, rfl⟩
    | some next =>
      obtain ⟨state, events⟩ := ih (agrees.fits next moved)
      exact ⟨state, congrArg _ events⟩

end Relay.Noting
end OpticalAccess
