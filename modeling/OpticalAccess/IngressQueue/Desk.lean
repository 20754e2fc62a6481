import OpticalAccess.IngressQueue.Basic

/-!
# Named readers

A desk holds a queue for readers that have names. Each reader has at most one pending call; a reader
whose call was answered is forgotten.
-/

namespace OpticalAccess

structure Desk where
  queue : IngressQueue Nat
  pending : List (String × Nat) := []
  calls : Nat := 0

namespace Desk

def forget (pending : List (String × Nat)) (reader : String) : List (String × Nat) :=
  pending.filter fun p => p.1 ≠ reader

/-- Starts a call; a pending call of the same reader is given up behind it. -/
def start (d : Desk) (reader : String) : IngressQueue.Answer × Desk :=
  let call := d.calls
  let (answer, queue) := d.queue.start call
  let queue := ((d.pending.lookup reader).map queue.cancel).getD queue
  let others := forget d.pending reader
  (answer,
    { queue
      pending := if answer = .pending then (reader, call) :: others else others
      calls := call + 1 })

/-- Polls a reader's call; none if it has no pending one. -/
def poll (d : Desk) (reader : String) : Option (IngressQueue.Answer × Desk) :=
  (d.pending.lookup reader).map fun call =>
    let (answer, queue) := d.queue.poll call
    let pending := if answer = .pending then d.pending else forget d.pending reader
    (answer, { d with queue, pending })

/-- Gives a reader's call up; whether it had a pending one. -/
def cancel (d : Desk) (reader : String) : Bool × Desk :=
  match d.pending.lookup reader with
  | none => (false, d)
  | some call =>
    (true, { d with queue := d.queue.cancel call, pending := forget d.pending reader })

end Desk
end OpticalAccess
