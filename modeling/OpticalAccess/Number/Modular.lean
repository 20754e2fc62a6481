/-!
# Powers in modular arithmetic
-/

namespace OpticalAccess.Modular

/-- The power `a ^ e` modulo `m`, by squaring. -/
def pow (m a : Nat) (e : Nat) : Nat :=
  if h : e = 0 then 1 % m
  else
    let half := pow m (a * a % m) (e / 2)
    if e % 2 = 1 then a * half % m else half
termination_by e
decreasing_by omega

/-- The inverse of `a` modulo a prime. -/
def inverse (prime a : Nat) : Nat := pow prime a (prime - 2)

end OpticalAccess.Modular
