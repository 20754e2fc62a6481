import OpticalAccess.Text.Digits

/-!
# Packet counters

A device counts the frames that cross its two sides, by direction and by size.
-/

namespace OpticalAccess

inductive SizeBin where
  | upTo64
  | upTo127
  | upTo255
  | upTo511
  | upTo1023
  | upTo1518
  | jumbo
  deriving DecidableEq, Repr

namespace SizeBin

def all : List SizeBin := [upTo64, upTo127, upTo255, upTo511, upTo1023, upTo1518, jumbo]

def ofLength (n : Nat) : SizeBin :=
  if n ≤ 64 then upTo64
  else if n ≤ 127 then upTo127
  else if n ≤ 255 then upTo255
  else if n ≤ 511 then upTo511
  else if n ≤ 1023 then upTo1023
  else if n ≤ 1518 then upTo1518
  else jumbo

def label : SizeBin → String
  | upTo64 => "64_pkts"
  | upTo127 => "65_127_pkts"
  | upTo255 => "128_255_pkts"
  | upTo511 => "256_511_pkts"
  | upTo1023 => "512_1023_pkts"
  | upTo1518 => "1024_1518_pkts"
  | jumbo => "1519_9k_pkts"

end SizeBin

/-- The two sides of a device: the passive optical network and the network of the controller. -/
inductive Side where
  | pon
  | nni
  deriving DecidableEq, Repr

def Side.all : List Side := [pon, nni]

def Side.label : Side → String
  | pon => "pon"
  | nni => "nni"

inductive Direction where
  | tx
  | rx
  deriving DecidableEq, Repr

def Direction.all : List Direction := [tx, rx]

def Direction.label : Direction → String
  | tx => "tx"
  | rx => "rx"

structure Histogram where
  upTo64 : Nat := 0
  upTo127 : Nat := 0
  upTo255 : Nat := 0
  upTo511 : Nat := 0
  upTo1023 : Nat := 0
  upTo1518 : Nat := 0
  jumbo : Nat := 0
  deriving DecidableEq, Repr

namespace Histogram

def get (h : Histogram) : SizeBin → Nat
  | .upTo64 => h.upTo64
  | .upTo127 => h.upTo127
  | .upTo255 => h.upTo255
  | .upTo511 => h.upTo511
  | .upTo1023 => h.upTo1023
  | .upTo1518 => h.upTo1518
  | .jumbo => h.jumbo

def add (h : Histogram) (n : Nat) : SizeBin → Histogram
  | .upTo64 => { h with upTo64 := h.upTo64 + n }
  | .upTo127 => { h with upTo127 := h.upTo127 + n }
  | .upTo255 => { h with upTo255 := h.upTo255 + n }
  | .upTo511 => { h with upTo511 := h.upTo511 + n }
  | .upTo1023 => { h with upTo1023 := h.upTo1023 + n }
  | .upTo1518 => { h with upTo1518 := h.upTo1518 + n }
  | .jumbo => { h with jumbo := h.jumbo + n }

@[simp] theorem get_add (h : Histogram) (n : Nat) (b c : SizeBin) :
    (h.add n b).get c = h.get c + if b = c then n else 0 := by
  cases b <;> cases c <;> rfl

end Histogram

structure SideCounters where
  tx : Histogram := {}
  rx : Histogram := {}
  deriving DecidableEq, Repr

namespace SideCounters

def get (s : SideCounters) : Direction → Histogram
  | .tx => s.tx
  | .rx => s.rx

def add (s : SideCounters) (n : Nat) (bin : SizeBin) : Direction → SideCounters
  | .tx => { s with tx := s.tx.add n bin }
  | .rx => { s with rx := s.rx.add n bin }

end SideCounters

structure Counters where
  pon : SideCounters := {}
  nni : SideCounters := {}
  deriving DecidableEq, Repr

namespace Counters

def side (c : Counters) : Side → SideCounters
  | .pon => c.pon
  | .nni => c.nni

def get (c : Counters) (side : Side) (direction : Direction) (bin : SizeBin) : Nat :=
  ((c.side side).get direction).get bin

/-- Counts `times` frames of one length. -/
def countMany (c : Counters) (side : Side) (direction : Direction) (length times : Nat) :
    Counters :=
  let bin := SizeBin.ofLength length
  match side with
  | .pon => { c with pon := c.pon.add times bin direction }
  | .nni => { c with nni := c.nni.add times bin direction }

def count (c : Counters) (side : Side) (direction : Direction) (length : Nat) : Counters :=
  c.countMany side direction length 1

theorem get_countMany (c : Counters) (s t : Side) (d e : Direction) (length times : Nat)
    (b : SizeBin) :
    (c.countMany s d length times).get t e b =
      c.get t e b + if s = t ∧ d = e ∧ SizeBin.ofLength length = b then times else 0 := by
  cases s <;> cases t <;> cases d <;> cases e <;>
    simp [countMany, get, side, SideCounters.add, SideCounters.get]

end Counters
end OpticalAccess
