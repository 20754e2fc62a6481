import OpticalAccess.Network.Basic

/-!
# A terminal at work

Forwards, relays and controllers work on one terminal at the same time. A task runs on its own from
one point at which it may have to wait to the next; between two such points anything else may
happen. A run is a list of acts in any order, and it leaves a log of what became of the payloads.
-/

namespace OpticalAccess

/-! ### Sessions -/

namespace Item

def payload? : Item → Option Bytes
  | .frame e => some e.payload
  | .status _ => none

def payloads (items : List Item) : List Bytes := items.filterMap payload?

@[simp] theorem payloads_nil : payloads [] = [] := rfl

@[simp] theorem payloads_append (xs ys : List Item) :
    payloads (xs ++ ys) = payloads xs ++ payloads ys := List.filterMap_append

@[simp] theorem payloads_frame (e : Envelope) : payloads [.frame e] = [e.payload] := rfl

@[simp] theorem payloads_status (s : Status) : payloads [.status s] = [] := rfl

theorem length_payloads_le (items : List Item) : (payloads items).length ≤ items.length :=
  List.length_filterMap_le _ _

end Item

namespace Stream

/-- The reader's side takes the oldest item, if there is one. -/
def fetch (s : Stream) : Stream :=
  { s with buffer := s.buffer.drop 1, taken := s.taken ++ s.buffer.take 1 }

end Stream

namespace Session

inductive Note where
  /-- The relay took a payload off the queue. -/
  | pulled (payload : Bytes)
  /-- The reader's side took an item out of the stream's buffer. -/
  | received (item : Item)
  | handed (item : Item)
  /-- The controller learned that nothing more comes. -/
  | ended
  /-- A payload is gone with a controller that went away. -/
  | lost (payload : Bytes)

namespace Note

@[simp] def pulled? : Note → Option Bytes
  | pulled payload => some payload
  | _ => none

@[simp] def received? : Note → Option Bytes
  | received item => item.payload?
  | _ => none

@[simp] def handed? : Note → Option Bytes
  | handed item => item.payload?
  | _ => none

@[simp] def lost? : Note → Option Bytes
  | lost payload => some payload
  | _ => none

end Note

/-- The payload that a relay holds: it is off the queue and not yet written. -/
def held (s : Session) : List Bytes :=
  match s.phase with
  | .holding payload => [payload]
  | _ => []

inductive Move where
  | relay
  /-- The relay has ended, and the controller is told why. -/
  | report
  /-- The reader's side takes an item. -/
  | fetch
  | read
  | drop

/-- What a step of the relay means for payloads: it takes one, keeps it or gives it up. -/
def relayNotes : Relay.Phase → Relay.Phase → List Note
  | .holding payload, .ended _ => [.lost payload]
  | .holding _, _ => []
  | _, .holding payload => [.pulled payload]
  | _, _ => []

/-- Notes of a read: what was taken out of the buffer for it, and what the controller learned. -/
def readNotes (s : Stream) : List Note :=
  (s.refill.taken.drop s.taken.length).map .received ++
    match s.read.1 with
    | .item item => [.handed item]
    | .pending => []
    | .ended => [.ended]

/-- A move of a session of the terminal at `address`, over the terminal's queue. -/
def move (v : Verbosity) (address : String) (q : IngressQueue Nat) (s : Session) :
    Move → Session × IngressQueue Nat × List Note
  | .relay =>
    match (Relay.step address Relay.streamSink s.call ⟨q, s.stream, s.phase⟩).value v with
    | none => (s, q, [])
    | some after =>
      ({ s with phase := after.phase, stream := after.sink }, after.queue,
        relayNotes s.phase after.phase)
  | .report => (if s.stream.writing then s.report else s, q, [])
  | .fetch => ({ s with stream := s.stream.fetch }, q, (s.stream.buffer.take 1).map .received)
  | .read => ({ s with stream := s.stream.read.2 }, q, readNotes s.stream)
  | .drop =>
    ({ s with stream := s.stream.drop }, q, (Item.payloads s.stream.buffer).map .lost)

end Session

/-! ### The terminal and its tasks -/

/-- A terminal with every forward that was begun on it and every session that was opened. -/
structure Headend where
  terminal : Terminal
  settings : Settings := {}
  forwards : List Forward := []
  /-- The sessions; the call of a session is its place. -/
  sessions : List Session := []

namespace Headend

inductive Act where
  /-- A frame arrives at a port, from a child or from the controller. -/
  | arrive (port : Int32) (payload : Bytes)
  | forward (index : Nat)
  | closeIngress
  | install (flows : List FlowRule)
  | openStream
  | session (index : Nat) (move : Session.Move)

inductive Note where
  /-- The queue took a payload. -/
  | accepted (payload : Bytes)
  /-- Something happened in a session. -/
  | session (index : Nat) (note : Session.Note)

/-- What a step of a forward means for its payload: the queue took it, or not. -/
def forwardNotes : Forward → Forward → List Note
  | .queueing _ frame, .counting _ => [.accepted frame.payload]
  | _, _ => []

def step (v : Verbosity) (h : Headend) : Act → Headend × List Note
  | .arrive port payload => ({ h with forwards := h.forwards ++ [.begun port ⟨payload⟩] }, [])
  | .forward index =>
    match h.forwards[index]? with
    | none => (h, [])
    | some f =>
      let (next, terminal) := (h.terminal.step f).value v
      ({ h with terminal, forwards := h.forwards.set index next },
        forwardNotes f next)
  | .closeIngress => ({ h with terminal := h.terminal.closeIngress }, [])
  | .install flows => ({ h with terminal := (h.terminal.install flows).value v }, [])
  | .openStream =>
    if IngressQueue.validCapacity (max 1 h.settings.relayBuffer) then
      let device : Device := { machine := .terminal h.terminal }
      let opened := (Session.start device h.sessions.length h.settings.relayBuffer).value v
      ({ h with sessions := h.sessions ++ [opened] }, [])
    else (h, [])
  | .session index move =>
    match h.sessions[index]? with
    | none => (h, [])
    | some s =>
      let (next, queue, notes) := s.move v h.terminal.location.address h.terminal.queue move
      ({ h with
          terminal := { h.terminal with queue }
          sessions := h.sessions.set index next },
        notes.map (.session index))

def run (v : Verbosity) : Headend → List Act → Headend × List Note
  | h, [] => (h, [])
  | h, act :: rest =>
    let (next, notes) := h.step v act
    let (last, later) := run v next rest
    (last, notes ++ later)

def new (location : Location) (registry : Registry) (queueSize : Nat) (settings : Settings) :
    Headend :=
  { terminal := .new location registry queueSize, settings }

/-! ### Reading the log -/

@[simp] def accepted? : Note → Option Bytes
  | .accepted payload => some payload
  | .session .. => none

@[simp] def pulled? : Note → Option Bytes
  | .accepted _ => none
  | .session _ note => note.pulled?

@[simp] def sessionNote? (index : Nat) : Note → Option Session.Note
  | .accepted _ => none
  | .session other note => if other = index then some note else none

def about (index : Nat) (log : List Note) : List Session.Note :=
  log.filterMap (sessionNote? index)

end Headend
end OpticalAccess
