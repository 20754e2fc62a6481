import OpticalAccess.Relay.Error
import OpticalAccess.Wire.Codec

/-!
# Streams to controllers

A relay writes frames into a bounded buffer. The reader's side takes what it finds there at once, up
to a size, and hands it to the controller one by one.
-/

namespace OpticalAccess

/-- What a stream carries. A status is the last thing on a stream. -/
inductive Item where
  | frame (e : Envelope)
  | status (s : Status)
  deriving DecidableEq

structure Stream where
  capacity : Nat
  /-- What has been written and not yet taken, oldest first. -/
  buffer : List Item := []
  /-- What the reader's side has taken and not yet handed out. -/
  taken : List Item := []
  /-- Whether anybody can still write. -/
  writing : Bool := true
  /-- Whether the controller is still there. -/
  reading : Bool := true

namespace Stream

/-- The bytes after which the reader's side takes no more at once. -/
def batchSize : Nat := 32768

/-- The length of an item on the wire; a status is no part of a batch. -/
def Item.size : Item → Nat
  | .frame e => 5 + (Wire.encode e).length
  | .status _ => 0

/-- The items up to the one with which the size reaches the batch size. -/
def batch (size : Nat) : List Item → List Item
  | [] => []
  | item :: rest =>
    let size := size + Item.size item
    if batchSize ≤ size then [item] else item :: batch size rest

inductive Read where
  | item (i : Item)
  | pending
  | ended
  deriving DecidableEq

/-- Takes a batch if nothing is in hand. -/
def refill (s : Stream) : Stream :=
  if s.taken.isEmpty then
    let items := batch 0 s.buffer
    { s with taken := items, buffer := s.buffer.drop items.length }
  else s

/-- Reads without waiting. -/
def read (s : Stream) : Read × Stream :=
  let s := s.refill
  match s.taken with
  | item :: rest => (.item item, { s with taken := rest })
  | [] => (if s.writing then .pending else .ended, s)

inductive Written where
  | accepted
  | full
  | closed
  deriving DecidableEq

def write (s : Stream) (item : Item) : Written × Stream :=
  if !s.reading then (.closed, s)
  else if s.capacity ≤ s.buffer.length then (.full, s)
  else (.accepted, { s with buffer := s.buffer ++ [item] })

def finish (s : Stream) : Stream := { s with writing := false }

/-- The controller goes away, and what it has not read is lost. -/
def drop (s : Stream) : Stream := { s with reading := false, buffer := [], taken := [] }

end Stream
end OpticalAccess
