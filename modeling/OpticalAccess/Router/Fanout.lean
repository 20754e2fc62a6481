/-!
# Bounded concurrency

Calls wait for their turn, and no more than a limit of them are in flight. A call that comes back
makes room for the next.
-/

namespace OpticalAccess

structure Fanout (κ : Type) where
  limit : Nat
  waiting : List κ
  inFlight : List κ := []
  /-- The most calls that were in flight at once. -/
  peak : Nat := 0
  deriving DecidableEq, Repr

namespace Fanout

/-- A limit of zero counts as one. -/
def new (limit : Nat) (calls : List κ) : Fanout κ := { limit := max 1 limit, waiting := calls }

def launch (f : Fanout κ) : Fanout κ :=
  let room := f.limit - f.inFlight.length
  let inFlight := f.inFlight ++ f.waiting.take room
  { f with inFlight, waiting := f.waiting.drop room, peak := max f.peak inFlight.length }

/-- Takes back the call at an index among those in flight; the last one if there are not so many. -/
def settle (f : Fanout κ) (index : Nat) : Option (κ × Fanout κ) :=
  let index := min index (f.inFlight.length - 1)
  f.inFlight[index]?.map fun call => (call, { f with inFlight := f.inFlight.eraseIdx index })

def size (f : Fanout κ) : Nat := f.waiting.length + f.inFlight.length

/--
Makes all calls, at most `fuel` of them, and hands on the world from call to call. Of the calls in
flight the one that `order` picks comes back next.
-/
def runWithin [Monad m] (order : Fanout κ → Nat) (act : κ → ω → m ω) :
    (fuel : Nat) → Fanout κ → ω → m (ω × Fanout κ)
  | 0, f, w => return (w, f)
  | fuel + 1, f, w =>
    let f := f.launch
    match f.settle (order f) with
    | none => return (w, f)
    | some (call, f) => do
      let w ← act call w
      runWithin order act fuel f w

def run [Monad m] (order : Fanout κ → Nat) (act : κ → ω → m ω) (f : Fanout κ) (w : ω) :
    m (ω × Fanout κ) :=
  runWithin order act (f.size + 1) f w

end Fanout
end OpticalAccess
