import OpticalAccess.Text.Digits

/-!
# Double precision numbers

A number is `mantissa · 2 ^ exponent` with a mantissa of at most 53 bits. Quotients and decimals
are rounded to the nearest number, a half to the even neighbour.
-/

namespace OpticalAccess

inductive Binary64 where
  | nan
  | infinite (negative : Bool)
  | finite (negative : Bool) (mantissa : Nat) (exponent : Int)
  deriving DecidableEq, Repr

namespace Binary64

/-- The least exponent, that of zero and of the smallest numbers. -/
def minExponent : Int := -1074

def maxExponent : Int := 971

def hiddenBit : Nat := 0x10000000000000

/-- The quotient of two numbers, rounded to the nearest integer, a half to the even one. -/
def divEven (num den : Nat) : Nat :=
  let q := num / den
  let r := num % den
  if den < 2 * r ∨ (2 * r = den ∧ q % 2 = 1) then q + 1 else q

/-- Numerator and denominator of `num / den / 2 ^ e`. -/
def scaled (num den : Nat) (e : Int) : Nat × Nat :=
  if 0 ≤ e then (num, den * Nat.pow 2 e.toNat) else (num * Nat.pow 2 (-e).toNat, den)

/-- The number nearest to `num / den`. -/
def ofRatio (negative : Bool) (num den : Nat) : Binary64 :=
  if num = 0 then finite negative 0 minExponent
  else
    let low := max minExponent ((num.log2 : Int) - (den.log2 : Int) - 53)
    let (n, d) := scaled num den low
    let e := if n / d < 2 * hiddenBit then low else low + 1
    let (n, d) := scaled num den e
    let m := divEven n d
    let (m, e) := if m = 2 * hiddenBit then (hiddenBit, e + 1) else (m, e)
    if maxExponent < e then infinite negative else finite negative m e

/-- The number nearest to `digits · 10 ^ power`. -/
def ofDecimal (negative : Bool) (digits : Nat) (power : Int) : Binary64 :=
  if digits = 0 then finite negative 0 minExponent
  else
    -- Beyond these bounds every number is infinite or zero.
    let size := (Digits.decimal digits).length + power
    if 400 < size then infinite negative
    else if size < -400 then finite negative 0 minExponent
    else if 0 ≤ power then ofRatio negative (digits * Nat.pow 10 power.toNat) 1
    else ofRatio negative digits (Nat.pow 10 (-power).toNat)

def ratio (mantissa : Nat) (exponent : Int) : Nat × Nat :=
  if 0 ≤ exponent then (mantissa * Nat.pow 2 exponent.toNat, 1)
  else (mantissa, Nat.pow 2 (-exponent).toNat)

/-- The product of finite numbers, rounded; anything else gives `nan`. -/
def mul : Binary64 → Binary64 → Binary64
  | finite s m e, finite t n f =>
    let (a, b) := ratio m e
    let (c, d) := ratio n f
    ofRatio (s != t) (a * c) (b * d)
  | _, _ => nan

/-- The quotient of finite numbers, rounded; anything else gives `nan`. -/
def div : Binary64 → Binary64 → Binary64
  | finite s m e, finite t n f =>
    let (a, b) := ratio m e
    let (c, d) := ratio n f
    if c = 0 then nan else ofRatio (s != t) (a * d) (b * c)
  | _, _ => nan

def isFinite : Binary64 → Bool
  | finite .. => true
  | _ => false

/-- The integer part, cut off at the ends of a range; zero for `nan`. -/
def clamp (low high : Int) : Binary64 → Int
  | nan => 0
  | infinite true => low
  | infinite false => high
  | finite negative mantissa exponent =>
    let (a, b) := ratio mantissa exponent
    let n : Int := if negative then -(a / b : Nat) else (a / b : Nat)
    max low (min high n)

end Binary64
end OpticalAccess
