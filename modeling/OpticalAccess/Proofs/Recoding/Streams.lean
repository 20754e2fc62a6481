import OpticalAccess.Proofs.Recoding.Basic

/-!
# Replaced contents on their way

Queues, streams and sessions pass contents on. Each of their operations takes related states to
related ones, answers the same but for contents, and logs the same.
-/

namespace OpticalAccess

variable {φ : Recoding} {μ : Metrics → Metrics → Prop} {v : Verbosity}

/-! ### Queues and streams -/

namespace IngressQueue

inductive Recoded (φ : Recoding) : IngressQueue ρ → IngressQueue ρ → Prop
  | queue (capacity : Nat) {xs ys : List Bytes} (payloads : List.Forall₂ φ.payload xs ys)
      (isOpen : Bool) (line : List ρ) :
      Recoded φ ⟨capacity, xs, isOpen, line⟩ ⟨capacity, ys, isOpen, line⟩

inductive Answer.Recoded (φ : Recoding) : Answer → Answer → Prop
  | payload {a b : Bytes} (payload : φ.payload a b) : Recoded φ (.payload a) (.payload b)
  | closed : Recoded φ .closed .closed
  | pending : Recoded φ .pending .pending

theorem Recoded.offer {q q' : IngressQueue ρ} (same : q.Recoded φ q') {a b : Bytes}
    (payload : φ.payload a b) : Both Eq (Recoded φ) (q.offer a) (q'.offer b) := by
  cases same with
  | queue capacity payloads isOpen line =>
    unfold IngressQueue.offer
    simp only [payloads.length_eq]
    split
    · exact ⟨rfl, .queue capacity payloads isOpen line⟩
    · split
      · exact ⟨rfl, .queue capacity payloads isOpen line⟩
      · exact ⟨rfl, .queue capacity (List.rel_append payloads (.cons payload .nil)) isOpen line⟩

theorem Recoded.payloads {q q' : IngressQueue ρ} (same : q.Recoded φ q') :
    List.Forall₂ φ.payload q.payloads q'.payloads := by
  cases same with
  | queue capacity payloads isOpen line => exact payloads

theorem Recoded.close {q q' : IngressQueue ρ} (same : q.Recoded φ q') :
    q.close.Recoded φ q'.close := by
  cases same with
  | queue capacity payloads isOpen line => exact .queue capacity payloads false line

variable [DecidableEq ρ]

theorem Recoded.poll {q q' : IngressQueue ρ} (same : q.Recoded φ q') (call : ρ) :
    Both (Answer.Recoded φ) (Recoded φ) (q.poll call) (q'.poll call) := by
  cases same with
  | queue capacity payloads isOpen line =>
    unfold IngressQueue.poll
    cases line with
    | nil => exact ⟨.pending, .queue capacity payloads isOpen []⟩
    | cons first others =>
      dsimp only
      split
      · cases payloads with
        | nil =>
          cases isOpen with
          | true => exact ⟨.pending, .queue capacity .nil true (first :: others)⟩
          | false => exact ⟨.closed, .queue capacity .nil false others⟩
        | cons payload rest => exact ⟨.payload payload, .queue capacity rest isOpen others⟩
      · exact ⟨.pending, .queue capacity payloads isOpen (first :: others)⟩

theorem Recoded.start {q q' : IngressQueue ρ} (same : q.Recoded φ q') (call : ρ) :
    Both (Answer.Recoded φ) (Recoded φ) (q.start call) (q'.start call) := by
  cases same with
  | queue capacity payloads isOpen line =>
    exact Recoded.poll (.queue capacity payloads isOpen (line ++ [call])) call

theorem Recoded.cancel {q q' : IngressQueue ρ} (same : q.Recoded φ q') (call : ρ) :
    (q.cancel call).Recoded φ (q'.cancel call) := by
  cases same with
  | queue capacity payloads isOpen line =>
    exact .queue capacity payloads isOpen (line.erase call)

end IngressQueue

inductive Item.Recoded (φ : Recoding) : Item → Item → Prop
  | frame (id : String) {a b : Bytes} (payload : φ.payload a b) :
      Recoded φ (.frame ⟨id, a⟩) (.frame ⟨id, b⟩)
  | status (s : Status) : Recoded φ (.status s) (.status s)

namespace Stream

inductive Recoded (φ : Recoding) : Stream → Stream → Prop
  | stream (capacity : Nat) {xs ys : List Item} (buffer : List.Forall₂ (Item.Recoded φ) xs ys)
      {us vs : List Item} (taken : List.Forall₂ (Item.Recoded φ) us vs) (writing reading : Bool) :
      Recoded φ ⟨capacity, xs, us, writing, reading⟩ ⟨capacity, ys, vs, writing, reading⟩

inductive Read.Recoded (φ : Recoding) : Read → Read → Prop
  | item {i j : Item} (same : i.Recoded φ j) : Recoded φ (.item i) (.item j)
  | pending : Recoded φ .pending .pending
  | ended : Recoded φ .ended .ended

theorem Item.size_recoded {i j : OpticalAccess.Item} (same : i.Recoded φ j) :
    Item.size j = Item.size i := by
  cases same with
  | frame id payload =>
    exact congrArg (5 + ·) (Wire.length_encode_envelope id (φ.length_payload payload))
  | status s => rfl

theorem batch_recoded {xs ys : List Item} (same : List.Forall₂ (Item.Recoded φ) xs ys)
    (size : Nat) : List.Forall₂ (Item.Recoded φ) (batch size xs) (batch size ys) := by
  induction same generalizing size with
  | nil => exact .nil
  | cons item rest ih =>
    simp only [batch, Item.size_recoded item]
    split
    · exact .cons item .nil
    · exact .cons item (ih _)

variable {s t : Stream}

theorem Recoded.parts (same : s.Recoded φ t) :
    List.Forall₂ (Item.Recoded φ) s.buffer t.buffer ∧
      List.Forall₂ (Item.Recoded φ) s.taken t.taken ∧
      t.writing = s.writing ∧ t.reading = s.reading := by
  cases same with
  | stream capacity buffer taken writing reading => exact ⟨buffer, taken, rfl, rfl⟩

theorem Recoded.refill (same : s.Recoded φ t) : s.refill.Recoded φ t.refill := by
  cases same with
  | stream capacity buffer taken writing reading =>
    unfold Stream.refill
    cases taken with
    | nil =>
      have batch := batch_recoded buffer 0
      simp only [List.isEmpty_nil, if_true, batch.length_eq]
      exact .stream capacity (List.forall₂_drop _ buffer) batch writing reading
    | cons item rest => exact .stream capacity buffer (.cons item rest) writing reading

theorem Recoded.read (same : s.Recoded φ t) :
    Both (Read.Recoded φ) (Recoded φ) s.read t.read := by
  have refilled := same.refill
  unfold Stream.read
  generalize s.refill = s at refilled
  generalize t.refill = t at refilled
  cases refilled with
  | stream capacity buffer taken writing reading =>
    cases taken with
    | nil =>
      cases writing with
      | true => exact ⟨.pending, .stream capacity buffer .nil true reading⟩
      | false => exact ⟨.ended, .stream capacity buffer .nil false reading⟩
    | cons item rest => exact ⟨.item item, .stream capacity buffer rest writing reading⟩

theorem Recoded.write (same : s.Recoded φ t) {i j : Item} (item : i.Recoded φ j) :
    Both Eq (Recoded φ) (s.write i) (t.write j) := by
  cases same with
  | stream capacity buffer taken writing reading =>
    unfold Stream.write
    simp only [buffer.length_eq]
    split
    · exact ⟨rfl, .stream capacity buffer taken writing reading⟩
    · split
      · exact ⟨rfl, .stream capacity buffer taken writing reading⟩
      · exact ⟨rfl, .stream capacity (List.rel_append buffer (.cons item .nil)) taken writing
          reading⟩

theorem Recoded.finish (same : s.Recoded φ t) : s.finish.Recoded φ t.finish := by
  cases same with
  | stream capacity buffer taken writing reading =>
    exact .stream capacity buffer taken false reading

theorem Recoded.drop (same : s.Recoded φ t) : s.drop.Recoded φ t.drop := by
  cases same with
  | stream capacity buffer taken writing reading => exact .stream capacity .nil .nil writing false

theorem Recoded.fetch (same : s.Recoded φ t) : s.fetch.Recoded φ t.fetch := by
  cases same with
  | stream capacity buffer taken writing reading =>
    exact .stream capacity (List.forall₂_drop 1 buffer)
      (List.rel_append taken (List.forall₂_take 1 buffer)) writing reading

end Stream

/-! ### Relays and sessions -/

namespace Relay

inductive Phase.Recoded (φ : Recoding) : Phase → Phase → Prop
  | ready : Recoded φ .ready .ready
  | waiting : Recoded φ .waiting .waiting
  | holding {a b : Bytes} (payload : φ.payload a b) : Recoded φ (.holding a) (.holding b)
  | ended (result : Except RelayError Unit) : Recoded φ (.ended result) (.ended result)

inductive State.Recoded (φ : Recoding) : State ρ Stream → State ρ Stream → Prop
  | state {q q' : IngressQueue ρ} (queue : q.Recoded φ q') {s s' : Stream} (sink : s.Recoded φ s')
      {p p' : Phase} (phase : p.Recoded φ p') : Recoded φ ⟨q, s, p⟩ ⟨q', s', p'⟩

theorem receive_alike (hidden : φ.Hidden v) (device : String) {s s' : Stream}
    (sink : s.Recoded φ s') {x x' : IngressQueue.Answer × IngressQueue ρ}
    (answered : Both (IngressQueue.Answer.Recoded φ) (IngressQueue.Recoded φ) x x') :
    Traced.Alike v μ (State.Recoded φ) (receive device s x) (receive device s' x') := by
  obtain ⟨answer, queue⟩ := x
  obtain ⟨answer', queue'⟩ := x'
  obtain ⟨answer, queue⟩ := answered
  cases answer with
  | payload payload =>
    exact .told (hidden.described (.relayReceived device) payload)
      (.pure (.state queue sink (.holding payload)))
  | closed => exact .after _ fun _ => .pure (.state queue sink (.ended _))
  | pending => exact .pure (.state queue sink .waiting)

inductive Write.Recoded (φ : Recoding) : Write Stream → Write Stream → Prop
  | accepted {s s' : Stream} (sink : s.Recoded φ s') : Recoded φ (.accepted s) (.accepted s')
  | refused (error : RelayError) : Recoded φ (.refused error) (.refused error)
  | blocked : Recoded φ .blocked .blocked

theorem write_recoded (device : String) {a b : Bytes} (payload : φ.payload a b) {s s' : Stream}
    (sink : s.Recoded φ s') :
    (streamSink.write ⟨device, a⟩ s).Recoded φ (streamSink.write ⟨device, b⟩ s') := by
  have written := sink.write (.frame device payload)
  simp only [streamSink]
  generalize s.write (.frame ⟨device, a⟩) = x at written
  generalize s'.write (.frame ⟨device, b⟩) = y at written
  obtain ⟨answer, s⟩ := x
  obtain ⟨_, s'⟩ := y
  obtain ⟨rfl, sink⟩ := written
  cases answer with
  | accepted => exact .accepted sink
  | full => exact .blocked
  | closed => exact .refused .streamClosed

variable [DecidableEq ρ]

theorem step_alike (hidden : φ.Hidden v) (device : String) (call : ρ) {s s' : State ρ Stream}
    (same : s.Recoded φ s') :
    Traced.Alike v μ (Option.Rel (State.Recoded φ)) (step device streamSink call s)
      (step device streamSink call s') := by
  cases same with
  | @state q q' queue s s' sink p p' phase =>
  have closed : streamSink.closed s' = streamSink.closed s := congrArg not sink.parts.2.2.2
  cases phase with
  | ready =>
    simp only [step, closed]
    split
    · exact .bind (.after _ fun _ => .pure (.state queue sink (.ended _)))
        fun _ _ left => .pure (.some left)
    · exact .bind (receive_alike hidden device sink (queue.start call))
        fun _ _ received => .pure (.some received)
  | waiting =>
    simp only [step, closed]
    split
    · exact .bind (.after _ fun _ => .pure (.state (queue.cancel call) sink (.ended _)))
        fun _ _ left => .pure (.some left)
    · have polled := queue.poll call
      generalize q.poll call = x at polled
      generalize q'.poll call = y at polled
      obtain ⟨answer, after⟩ := x
      obtain ⟨answer', after'⟩ := y
      obtain ⟨answered, after⟩ := polled
      have received (x y) := @receive_alike φ μ v ρ hidden device s s' sink x y
      cases answered with
      | payload payload =>
        exact .bind (received _ _ ⟨.payload payload, after⟩) fun _ _ next => .pure (.some next)
      | closed => exact .bind (received _ _ ⟨.closed, after⟩) fun _ _ next => .pure (.some next)
      | pending => exact .pure .none
  | holding payload =>
    have written := write_recoded device payload sink
    simp only [step]
    generalize streamSink.write _ s = x at written ⊢
    generalize streamSink.write _ s' = y at written ⊢
    cases written with
    | accepted sink =>
      exact .told (hidden.described (.relaySent device) payload)
        (.pure (.some (.state queue sink .ready)))
    | refused error => exact .after _ fun _ => .pure (.some (.state queue sink (.ended _)))
    | blocked => exact .pure .none
  | ended result => exact .pure .none

end Relay

namespace Session

inductive Recoded (φ : Recoding) : Session → Session → Prop
  | session (call : Nat) {p p' : Relay.Phase} (phase : p.Recoded φ p') {s s' : Stream}
      (stream : s.Recoded φ s') : Recoded φ ⟨call, p, s⟩ ⟨call, p', s'⟩

inductive Note.Recoded (φ : Recoding) : Note → Note → Prop
  | pulled {a b : Bytes} (payload : φ.payload a b) : Recoded φ (.pulled a) (.pulled b)
  | received {i j : Item} (item : i.Recoded φ j) : Recoded φ (.received i) (.received j)
  | handed {i j : Item} (item : i.Recoded φ j) : Recoded φ (.handed i) (.handed j)
  | ended : Recoded φ .ended .ended
  | lost {a b : Bytes} (payload : φ.payload a b) : Recoded φ (.lost a) (.lost b)

variable {s s' : Session}

theorem report_recoded (same : s.Recoded φ s') : s.report.Recoded φ s'.report := by
  cases same with
  | session call phase stream =>
    cases phase with
    | ready => exact .session call .ready stream
    | waiting => exact .session call .waiting stream
    | holding payload => exact .session call (.holding payload) stream
    | ended result =>
      cases result with
      | ok done => exact .session call (.ended _) stream.finish
      | error error =>
        have written := stream.write (.status error.status)
        simp only [report]
        generalize Stream.write _ _ = x at written ⊢
        generalize Stream.write _ _ = y at written ⊢
        obtain ⟨answer, after⟩ := x
        obtain ⟨_, after'⟩ := y
        obtain ⟨rfl, written⟩ := written
        cases answer with
        | accepted => exact .session call (.ended _) written.finish
        | full => exact .session call (.ended _) stream
        | closed => exact .session call (.ended _) written.finish

theorem relayNotes_recoded {p p' n n' : Relay.Phase} (before : p.Recoded φ p')
    (after : n.Recoded φ n') :
    List.Forall₂ (Note.Recoded φ) (relayNotes p n) (relayNotes p' n') := by
  cases before with
  | holding payload =>
    cases after with
    | ended result => exact .cons (.lost payload) .nil
    | _ => exact .nil
  | _ =>
    cases after with
    | holding payload => exact .cons (.pulled payload) .nil
    | _ => exact .nil

theorem readNotes_recoded {s t : Stream} (same : s.Recoded φ t) :
    List.Forall₂ (Note.Recoded φ) (readNotes s) (readNotes t) := by
  obtain ⟨_, taken, _, _⟩ := same.parts
  obtain ⟨_, refilled, _, _⟩ := same.refill.parts
  have read := same.read.1
  unfold readNotes
  rw [← taken.length_eq]
  refine List.rel_append (List.rel_map (fun _ _ item => .received item)
    (List.forall₂_drop _ refilled)) ?_
  generalize s.read.1 = x at read
  generalize t.read.1 = y at read
  cases read with
  | item item => exact .cons (.handed item) .nil
  | pending => exact .nil
  | ended => exact .cons .ended .nil

theorem payloads_recoded {xs ys : List Item} (same : List.Forall₂ (Item.Recoded φ) xs ys) :
    List.Forall₂ φ.payload (Item.payloads xs) (Item.payloads ys) := by
  refine List.rel_filterMap (fun i j item => ?_) same
  cases item with
  | frame id payload => exact .some payload
  | status s => exact .none

/-- The results of a move of a session: the session, the queue and what it notes. -/
abbrev Performed (φ : Recoding) :=
  Both (Recoded φ) (Both (IngressQueue.Recoded φ (ρ := Nat)) (List.Forall₂ (Note.Recoded φ)))

theorem perform_alike (hidden : φ.Hidden v) (address : String) {q q' : IngressQueue Nat}
    (queue : q.Recoded φ q') (same : s.Recoded φ s') (m : Move) :
    Traced.Alike v μ (Performed φ) (s.perform address q m) (s'.perform address q' m) := by
  cases m with
  | relay =>
    cases same with
    | session call phase stream =>
    refine .bind (Relay.step_alike hidden address call (.state queue stream phase))
      fun x y next => ?_
    cases next with
    | none => exact .pure ⟨.session call phase stream, queue, .nil⟩
    | some after =>
      cases after with
      | state queue sink after =>
        exact .pure ⟨.session call after sink, queue, relayNotes_recoded phase after⟩
  | report =>
    have reported := report_recoded same
    cases same with
    | session call phase stream =>
    obtain ⟨_, _, writing, _⟩ := stream.parts
    refine .pure ⟨?_, queue, .nil⟩
    simp only [move, writing]
    split
    · exact reported
    · exact .session call phase stream
  | fetch =>
    cases same with
    | session call phase stream =>
    refine .pure ⟨.session call phase stream.fetch, queue, ?_⟩
    exact List.rel_map (fun _ _ item => .received item) (List.forall₂_take 1 stream.parts.1)
  | read =>
    cases same with
    | session call phase stream =>
    exact .pure ⟨.session call phase stream.read.2, queue, readNotes_recoded stream⟩
  | drop =>
    cases same with
    | session call phase stream =>
    refine .pure ⟨.session call phase stream.drop, queue, ?_⟩
    exact List.rel_map (fun _ _ payload => .lost payload) (payloads_recoded stream.parts.1)

theorem opened_recoded (φ : Recoding) (call buffer : Nat) :
    (opened call buffer).Recoded φ (opened call buffer) :=
  .session call .ready (.stream _ .nil .nil true true)

theorem begin_alike (same : s.Recoded φ s') {d d' : Device} (role : d'.role = d.role)
    (location : d'.location = d.location) :
    Traced.Alike v μ (Recoded φ) (s.begin d) (s'.begin d') := by
  cases same with
  | session call phase stream =>
  unfold begin
  rw [role, location]
  have begun : Traced.Alike v μ (Relay.Phase.Recoded φ) (Relay.begin d.role d.location)
      (Relay.begin d.role d.location) := by
    cases d.role with
    | terminal => exact .after _ fun _ => .pure .ready
    | subscriber => exact .after _ fun _ => .pure (.ended _)
  exact .bind begun fun _ _ phase => .pure (.session call phase stream)

end Session
end OpticalAccess
