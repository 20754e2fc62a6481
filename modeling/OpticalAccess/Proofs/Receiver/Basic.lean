import OpticalAccess.IngressQueue.Basic

/-!
# A receiver behind a lock

Calls for the next payload share the receiving end of a bounded channel. It stands behind a lock
that passes from call to call in the order in which they asked for it. A call first asks for the
lock and then, with the lock in hand, for a payload; it may be dropped wherever it waits. The queue
with a line of calls is what this looks like from outside.
-/

namespace OpticalAccess
open IngressQueue (Offer Answer)

/-! ### The channel -/

structure Channel where
  capacity : Nat
  /-- Payloads in the channel, oldest first. -/
  payloads : List Bytes := []
  /-- Whether the producer is still there. -/
  isOpen : Bool := true

namespace Channel

def offer (c : Channel) (bytes : Bytes) : Offer × Channel :=
  if !c.isOpen then (.closed, c)
  else if c.payloads.length < c.capacity then
    (.accepted, { c with payloads := c.payloads ++ [bytes] })
  else (.full, c)

/-- The producer goes away; what is in the channel stays there. -/
def close (c : Channel) : Channel := { c with isOpen := false }

def receive (c : Channel) : Answer × Channel :=
  match c.payloads with
  | bytes :: rest => (.payload bytes, { c with payloads := rest })
  | [] => (if c.isOpen then .pending else .closed, c)

end Channel

/-! ### The lock -/

/-- A lock for calls, which are known by their numbers. -/
structure Lock where
  /-- The call that the lock belongs to, whether or not it has been told. -/
  owner : Option Nat := none
  /-- The calls behind the owner, in the order in which they asked. -/
  waiting : List Nat := []

namespace Lock

def ask (l : Lock) (call : Nat) : Lock :=
  match l.owner with
  | none => { l with owner := some call }
  | some _ => { l with waiting := l.waiting ++ [call] }

/-- The owner lets go, and the lock passes to the call that has waited longest. -/
def release (l : Lock) : Lock :=
  match l.waiting with
  | [] => {}
  | next :: others => ⟨some next, others⟩

/-- A call no longer wants the lock: it passes the lock on if it has become the owner meanwhile. -/
def abandon (l : Lock) (call : Nat) : Lock :=
  if l.owner = some call then l.release else { l with waiting := l.waiting.erase call }

/-- The owner and the calls behind it. -/
def line (l : Lock) : List Nat := l.owner.toList ++ l.waiting

end Lock

/-! ### Calls for the next payload -/

inductive Call where
  /-- Has asked for the lock, and has not seen yet that it got it. -/
  | locking
  /-- Has the lock in hand and waits for a payload. -/
  | receiving
  | answered (answer : Answer)
  | dropped
  deriving DecidableEq

def Call.isPending : Call → Bool
  | locking | receiving => true
  | answered _ | dropped => false

structure Receiver where
  channel : Channel
  lock : Lock := {}
  /-- The calls; the number of a call is its place. -/
  calls : List Call := []

namespace Receiver

def new (capacity : Nat) : Receiver := { channel := { capacity } }

def isPending (r : Receiver) (call : Nat) : Bool := r.calls[call]?.any Call.isPending

/-- The owner of the lock looks for a payload; with an answer it is over and lets the lock go. -/
def attempt (r : Receiver) (call : Nat) : Answer × Receiver :=
  match r.channel.receive with
  | (.pending, _) => (.pending, { r with calls := r.calls.set call .receiving })
  | (answer, channel) =>
    (answer, ⟨channel, r.lock.release, r.calls.set call (.answered answer)⟩)

def poll (r : Receiver) (call : Nat) : Answer × Receiver :=
  match r.calls[call]? with
  | some .locking => if r.lock.owner = some call then r.attempt call else (.pending, r)
  | some .receiving => r.attempt call
  | _ => (.pending, r)

/-- Starts a call and polls it once. -/
def start (r : Receiver) : Answer × Receiver :=
  poll { r with lock := r.lock.ask r.calls.length, calls := r.calls ++ [.locking] } r.calls.length

def drop (r : Receiver) (call : Nat) : Receiver :=
  match r.calls[call]? with
  | some .locking => { r with lock := r.lock.abandon call, calls := r.calls.set call .dropped }
  | some .receiving => { r with lock := r.lock.release, calls := r.calls.set call .dropped }
  | _ => r

/-- The queue that the receiver shows, with the calls that the lock knows in its line. -/
def queue (r : Receiver) : IngressQueue Nat :=
  ⟨r.channel.capacity, r.channel.payloads, r.channel.isOpen, r.lock.line⟩

/-! ### Runs -/

inductive Act where
  | offer (bytes : Bytes)
  | close
  | start
  | poll (call : Nat)
  | drop (call : Nat)

inductive Note where
  | accepted (bytes : Bytes)
  | started (call : Nat)
  | answered (call : Nat) (answer : Answer)
  | dropped (call : Nat)

/-- A call that is still pending has no answer to note. -/
def answerNotes (call : Nat) : Answer → List Note
  | .pending => []
  | answer => [.answered call answer]

def step (r : Receiver) : Act → Receiver × List Note
  | .offer bytes =>
    match r.channel.offer bytes with
    | (.accepted, channel) => ({ r with channel }, [.accepted bytes])
    | _ => (r, [])
  | .close => ({ r with channel := r.channel.close }, [])
  | .start => (r.start.2, .started r.calls.length :: answerNotes r.calls.length r.start.1)
  | .poll call => ((r.poll call).2, answerNotes call (r.poll call).1)
  | .drop call => (r.drop call, if r.isPending call then [.dropped call] else [])

def run : Receiver → List Act → Receiver × List Note
  | r, [] => (r, [])
  | r, act :: rest =>
    let (next, notes) := r.step act
    let (last, later) := run next rest
    (last, notes ++ later)

/-! ### Reading the log -/

namespace Note

@[simp] def accepted? : Note → Option Bytes
  | accepted bytes => some bytes
  | _ => none

@[simp] def returned? : Note → Option Bytes
  | answered _ (.payload bytes) => some bytes
  | _ => none

@[simp] def started? : Note → Option Nat
  | started call => some call
  | _ => none

@[simp] def served? : Note → Option Nat
  | answered call _ => some call
  | _ => none

@[simp] def dropped? : Note → Option Nat
  | dropped call => some call
  | _ => none

end Note

def accepted (log : List Note) : List Bytes := log.filterMap Note.accepted?

/-- The payloads that calls were answered with, in the order of the answers. -/
def returned (log : List Note) : List Bytes := log.filterMap Note.returned?

def started (log : List Note) : List Nat := log.filterMap Note.started?

/-- The calls that were answered, in the order of the answers. -/
def served (log : List Note) : List Nat := log.filterMap Note.served?

def dropped (log : List Note) : List Nat := log.filterMap Note.dropped?

section Accounts
variable (xs ys : List Note)

@[simp] theorem accepted_append : accepted (xs ++ ys) = accepted xs ++ accepted ys :=
  List.filterMap_append

@[simp] theorem returned_append : returned (xs ++ ys) = returned xs ++ returned ys :=
  List.filterMap_append

@[simp] theorem started_append : started (xs ++ ys) = started xs ++ started ys :=
  List.filterMap_append

@[simp] theorem served_append : served (xs ++ ys) = served xs ++ served ys := List.filterMap_append

@[simp] theorem dropped_append : dropped (xs ++ ys) = dropped xs ++ dropped ys :=
  List.filterMap_append

end Accounts

end Receiver
end OpticalAccess
