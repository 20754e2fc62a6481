import OpticalAccess.Number.Binary64

/-!
# Shortest decimals

The decimal of a double precision number with the fewest digits that still reads back as that
number, the nearest of those if there are several; and its text, positional or with an exponent.
-/

namespace OpticalAccess

/-- `digits · 10 ^ power` -/
structure Decimal where
  digits : Nat
  power : Int
  deriving DecidableEq, Repr

namespace Decimal

/-- Without zeros at the end; `fuel` bounds their number. -/
def strip (fuel : Nat) (d : Decimal) : Decimal :=
  match fuel with
  | 0 => d
  | fuel + 1 => if d.digits % 10 = 0 then strip fuel ⟨d.digits / 10, d.power + 1⟩ else d

def ratio (d : Decimal) : Nat × Nat :=
  if 0 ≤ d.power then (d.digits * Nat.pow 10 d.power.toNat, 1)
  else (d.digits, Nat.pow 10 (-d.power).toNat)

end Decimal

namespace Binary64

def compareRatio (a b : Nat × Nat) : Ordering := compare (a.1 * b.2) (b.1 * a.2)

/-- The place of the first digit: a quotient in `[10 ^ (p - 1), 10 ^ p)` has place `p`. -/
def place (num den : Nat) : Int :=
  if den ≤ num then (Digits.decimal (num / den)).length
  else 1 - (Digits.decimal ((den - 1) / num)).length

/-- Whether a decimal reads back as the positive number `mantissa · 2 ^ exponent`. -/
def readsBack (mantissa : Nat) (exponent : Int) (d : Decimal) : Bool :=
  let below := if mantissa = hiddenBit ∧ minExponent < exponent then 1 else 2
  let low := ratio (4 * mantissa - below) (exponent - 2)
  let high := ratio (4 * mantissa + 2) (exponent - 2)
  let even := mantissa % 2 = 0
  let above := compareRatio d.ratio low
  let under := compareRatio d.ratio high
  (above = .gt ∨ (even ∧ above = .eq)) ∧ (under = .lt ∨ (even ∧ under = .eq))

/-- Searches the grids of `count` digits and more, up to `left` further ones. -/
def shortestFrom (mantissa : Nat) (exponent : Int) (first : Int) : (left count : Nat) → Decimal :=
  fun left count =>
    let (num, den) := ratio mantissa exponent
    let power := first - count
    let (n, d) :=
      if 0 ≤ power then (num, den * Nat.pow 10 power.toNat)
      else (num * Nat.pow 10 (-power).toNat, den)
    let below : Decimal := ⟨n / d, power⟩
    let above : Decimal := ⟨n / d + 1, power⟩
    match readsBack mantissa exponent below, readsBack mantissa exponent above with
    | true, true => if 2 * (n % d) ≤ d then below else above
    | true, false => below
    | false, true => above
    | false, false =>
      match left with
      | 0 => below
      | left + 1 => shortestFrom mantissa exponent first left (count + 1)

/-- The shortest decimal of `mantissa · 2 ^ exponent`. -/
def shortest (mantissa : Nat) (exponent : Int) : Decimal :=
  if mantissa = 0 then ⟨0, 0⟩
  else
    let (num, den) := ratio mantissa exponent
    (shortestFrom mantissa exponent (place num den) 16 1).strip 17

/-- Digits with the point `point` places after the first; at least one digit on both sides. -/
def positional (digits : List Char) (point : Int) : List Char :=
  if point ≤ 0 then "0.".toList ++ List.replicate (-point).toNat '0' ++ digits
  else
    let n := point.toNat
    if digits.length ≤ n then digits ++ List.replicate (n - digits.length) '0' ++ ".0".toList
    else digits.take n ++ '.' :: digits.drop n

/-- One digit before the point and the power of ten, with its sign, after an `e`. -/
def scientific (digits : List Char) (point : Int) : List Char :=
  digits.take 1 ++ (if digits.length = 1 then [] else '.' :: digits.drop 1) ++
    'e' :: (if 1 ≤ point then ['+'] else []) ++ Digits.signed (point - 1)

/-- How numbers are laid out: the places of the first digit that are written without an exponent. -/
structure Layout where
  positional : Int → Bool

/-- Every number is written without an exponent. -/
def Layout.plain : Layout := ⟨fun _ => true⟩

/-- Numbers from `10 ^ -5` up to `10 ^ 16` are written without an exponent. -/
def Layout.compact : Layout := ⟨fun p => -5 < p ∧ p ≤ 16⟩

def Layout.chars (layout : Layout) : Binary64 → List Char
  | .nan => "NaN".toList
  | .infinite negative => (if negative then ['-'] else []) ++ "inf".toList
  | .finite negative mantissa exponent =>
    let d := shortest mantissa exponent
    let digits := Digits.decimal d.digits
    let point := digits.length + d.power
    (if negative then ['-'] else []) ++
      if layout.positional point then Binary64.positional digits point
      else scientific digits point

def Layout.text (layout : Layout) (x : Binary64) : String := String.ofList (layout.chars x)

end Binary64
end OpticalAccess
