import OpticalAccess.Number.Binary64

/-!
# Numbers of JSON5

A numeral is read in two ways: for its own sake, as an integer of 64 bits or a double, and as a
double where a number is asked for.
-/

namespace OpticalAccess.Json5

inductive Sign where
  | none
  | plus
  | minus
  deriving DecidableEq, Repr

inductive Magnitude where
  | infinity
  | nan
  | hex (digits : List Char)
  | decimal (whole : List Char) (fraction : Option (List Char)) (exponent : Option Int)
  deriving DecidableEq, Repr

structure Numeral where
  sign : Sign
  magnitude : Magnitude
  deriving DecidableEq, Repr

inductive NumberFault where
  | badHex
  | badInteger
  | badNumber
  | tooLarge
  /-- The first two bytes end inside a character. -/
  | torn
  deriving DecidableEq, Repr

def NumberFault.message : NumberFault → String
  | badHex => "error parsing hex"
  | badInteger => "error parsing integer"
  | badNumber => "error parsing number"
  | tooLarge => "error parsing number: too large"
  | torn => "error parsing number: it begins inside a character"

/-- Splits behind the letters, digits and points of a numeral; a sign may follow an `e`. -/
def splitNumeral : (signAllowed : Bool) → List Char → List Char × List Char
  | _, [] => ([], [])
  | signAllowed, c :: rest =>
    if c.isAlphanum || c = '.' || (signAllowed && (c = '+' || c = '-')) then
      let (numeral, rest) := splitNumeral (c = 'e' || c = 'E') rest
      (c :: numeral, rest)
    else ([], c :: rest)

namespace Numeral

def splitSign : List Char → Sign × List Char
  | '+' :: rest => (.plus, rest)
  | '-' :: rest => (.minus, rest)
  | s => (.none, s)

/-- The power of ten behind the digits of a decimal; the outer none stands for a malformed one. -/
def exponent? : List Char → Option (Option Int)
  | [] => some none
  | c :: rest =>
    if c = 'e' || c = 'E' then
      let (sign, digits) := splitSign rest
      if digits.isEmpty || !digits.all Digits.isDecimal then none
      else
        let n := Digits.value 10 digits
        some (some (if sign = .minus then -(n : Int) else n))
    else none

def decimal? (s : List Char) : Option Magnitude :=
  let whole := s.takeWhile Digits.isDecimal
  let rest := s.dropWhile Digits.isDecimal
  if 1 < whole.length ∧ whole.head? = some '0' then none
  else
    match rest with
    | '.' :: rest =>
      let fraction := rest.takeWhile Digits.isDecimal
      if whole.isEmpty && fraction.isEmpty then none
      else (exponent? (rest.dropWhile Digits.isDecimal)).map (.decimal whole (some fraction))
    | rest => if whole.isEmpty then none else (exponent? rest).map (.decimal whole none)

def magnitude? (s : List Char) : Option Magnitude :=
  if s = "Infinity".toList then some .infinity
  else if s = "NaN".toList then some .nan
  else
    match s with
    | '0' :: x :: digits =>
      if x = 'x' || x = 'X' then
        if digits.isEmpty || !digits.all Digits.isHex then none else some (.hex digits)
      else decimal? s
    | _ => decimal? s

def ofChars? (s : List Char) : Option Numeral :=
  let (sign, rest) := splitSign s
  (magnitude? rest).map (⟨sign, ·⟩)

/-- A hexadecimal number has at most 32 bits. -/
def hexValue (digits : List Char) : Except NumberFault Nat :=
  let n := Digits.value 16 digits
  if n < 0x100000000 then .ok n else .error .badHex

/--
The nearest double. A plus sign is not read before `Infinity` and `NaN`, nor any sign before a
hexadecimal number.
-/
def toDouble (n : Numeral) : Except NumberFault Binary64 :=
  let negative := n.sign = .minus
  match n.magnitude with
  | .infinity => if n.sign = .plus then .error .tooLarge else .ok (.infinite negative)
  | .nan => if n.sign = .plus then .error .tooLarge else .ok .nan
  | .hex digits =>
    if n.sign = .none then (hexValue digits).map fun n => .ofRatio false n 1
    else .error .badNumber
  | .decimal whole fraction exponent =>
    let fraction := fraction.getD []
    let x := Binary64.ofDecimal negative (Digits.value 10 (whole ++ fraction))
      (exponent.getD 0 - fraction.length)
    if x.isFinite then .ok x else .error .tooLarge

inductive Value where
  | integer (n : Int)
  | double (x : Binary64)
  deriving DecidableEq, Repr

/-- Whether a numeral is read as an integer: it has no point and no `e`, or is plain hexadecimal. -/
def isInteger (n : Numeral) : Bool :=
  match n.magnitude with
  | .infinity | .nan => n.sign = .plus
  | .hex digits => n.sign = .none || !digits.any fun c => c = 'e' || c = 'E'
  | .decimal _ fraction exponent => fraction.isNone && exponent.isNone

/-- The number that a numeral writes: an integer of 64 bits, or a double. -/
def toValue (n : Numeral) : Except NumberFault Value :=
  if n.isInteger then
    match n.magnitude with
    | .hex digits =>
      if n.sign = .none then (hexValue digits).map fun n => .integer n else .error .badInteger
    | .decimal whole _ _ =>
      let m : Int := Digits.value 10 whole
      let m := if n.sign = .minus then -m else m
      if -0x8000000000000000 ≤ m ∧ m < 0x8000000000000000 then .ok (.integer m)
      else .error .badInteger
    | _ => .error .badInteger
  else n.toDouble.map .double

end Numeral
end OpticalAccess.Json5
