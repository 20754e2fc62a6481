/-! # Sets of characters given by ranges -/

namespace OpticalAccess

/-- Inclusive ranges of code points, in ascending order. -/
abbrev Ranges : Type := List (Nat × Nat)

def Ranges.contains (ranges : Ranges) (n : Nat) : Bool :=
  ranges.any fun (first, last) => first ≤ n && n ≤ last

end OpticalAccess
