import OpticalAccess.Frame

/-!
# The ingress queue

A bounded queue of payloads on their way from the network to controllers. Any number of calls may
wait for a payload. They stand in line: only the first holds the receiver, and it keeps it until it
is answered or given up.
-/

namespace OpticalAccess

/-- A queue with calls of type `ρ` in its line. -/
structure IngressQueue (ρ : Type) where
  capacity : Nat
  /-- Payloads in the queue, oldest first. -/
  payloads : List Bytes := []
  /-- Whether the producer is still there. -/
  isOpen : Bool := true
  /-- Calls that wait, in the order in which they were started. -/
  line : List ρ := []
  deriving DecidableEq

namespace IngressQueue

inductive Offer where
  | accepted
  | full
  | closed
  deriving DecidableEq, Repr

inductive Answer where
  | payload (bytes : Bytes)
  | closed
  | pending
  deriving DecidableEq, Repr

/-- Capacities for which a queue can be made: at least one, and no more than permits can count. -/
def maxCapacity : Nat := 0xFFFFFFFFFFFFFFFF / 8

def validCapacity (n : Nat) : Bool := 1 ≤ n && n ≤ maxCapacity

def empty (capacity : Nat) : IngressQueue ρ := { capacity }

/-- Offers a payload; it is taken if there is room and the producer is still there. -/
def offer (q : IngressQueue ρ) (bytes : Bytes) : Offer × IngressQueue ρ :=
  if !q.isOpen then (.closed, q)
  else if q.capacity ≤ q.payloads.length then (.full, q)
  else (.accepted, { q with payloads := q.payloads ++ [bytes] })

def close (q : IngressQueue ρ) : IngressQueue ρ := { q with isOpen := false }

variable [DecidableEq ρ]

/-- Polls a call. Only the first in line can be answered; it then leaves the line. -/
def poll (q : IngressQueue ρ) (call : ρ) : Answer × IngressQueue ρ :=
  match q.line with
  | [] => (.pending, q)
  | first :: others =>
    if first = call then
      match q.payloads with
      | bytes :: rest => (.payload bytes, { q with payloads := rest, line := others })
      | [] => if q.isOpen then (.pending, q) else (.closed, { q with line := others })
    else (.pending, q)

def start (q : IngressQueue ρ) (call : ρ) : Answer × IngressQueue ρ :=
  { q with line := q.line ++ [call] }.poll call

def cancel (q : IngressQueue ρ) (call : ρ) : IngressQueue ρ := { q with line := q.line.erase call }

end IngressQueue
end OpticalAccess
