import OpticalAccess.Number.Binary64

/-!
# Numbers of JSON

Numerals are read from the front of a text: as integers of 64 bits where that is possible, else as
doubles. Digits beyond the largest integer of 64 bits only count as places.
-/

namespace OpticalAccess.Json

inductive Error where
  | endOfValue
  | endOfList
  | endOfObject
  | endOfText
  | expectedValue
  | expectedIdent
  | expectedColon
  | expectedListEnd
  | expectedObjectEnd
  | keyNotText
  | trailingComma
  | trailingCharacters
  | invalidEscape
  | invalidNumber
  | numberOutOfRange
  | controlCharacter
  | loneSurrogate
  | endOfSurrogate
  | tooDeep
  deriving DecidableEq, Repr

def Error.message : Error → String
  | endOfValue => "EOF while parsing a value"
  | endOfList => "EOF while parsing a list"
  | endOfObject => "EOF while parsing an object"
  | endOfText => "EOF while parsing a string"
  | expectedValue => "expected value"
  | expectedIdent => "expected ident"
  | expectedColon => "expected \x60:\x60"
  | expectedListEnd => "expected \x60,\x60 or \x60]\x60"
  | expectedObjectEnd => "expected \x60,\x60 or \x60\x7d\x60"
  | keyNotText => "key must be a string"
  | trailingComma => "trailing comma"
  | trailingCharacters => "trailing characters"
  | invalidEscape => "invalid escape"
  | invalidNumber => "invalid number"
  | numberOutOfRange => "number out of range"
  | controlCharacter => "control character (\\u0000-\\u001F) found while parsing a string"
  | loneSurrogate => "lone leading surrogate in hex escape"
  | endOfSurrogate => "unexpected end of hex escape"
  | tooDeep => "recursion limit exceeded"

inductive Number where
  | integer (n : Int)
  | double (x : Binary64)
  deriving DecidableEq, Repr

/-- The digits that fit into 64 bits, and how many places follow them. -/
structure Significand where
  value : Nat := 0
  dropped : Nat := 0

/-- Takes one digit; once one does not fit, none of the following does. -/
def Significand.push (s : Significand) (c : Char) : Significand :=
  let value := 10 * s.value + Digits.value 10 [c]
  if s.dropped = 0 ∧ value < 0x10000000000000000 then { s with value }
  else { s with dropped := s.dropped + 1 }

/--
A significand times a power of ten, in double precision: the significand is rounded first, then
multiplied or divided by the rounded power. Powers below `10 ^ -308` are taken off step by step.
-/
def scale (negative : Bool) (x : Binary64) (power : Int) : (fuel : Nat) → Except Error Binary64
  | 0 => .ok x
  | fuel + 1 =>
    let sign : Binary64 := .ofRatio negative 1 1
    if x = .ofRatio false 0 1 then .ok (x.mul sign)
    else if 308 < power then .error .numberOutOfRange
    else if 0 ≤ power then
      let y := x.mul (.ofDecimal false 1 power)
      if y.isFinite then .ok (y.mul sign) else .error .numberOutOfRange
    else if -308 ≤ power then .ok ((x.div (.ofDecimal false 1 (-power))).mul sign)
    else scale negative (x.div (.ofDecimal false 1 308)) (power + 308) fuel

def toDouble (negative : Bool) (significand : Nat) (power : Int) : Except Error Binary64 :=
  scale negative (.ofRatio false significand 1) power 4

def maxExponent : Nat := 0x7FFFFFFF

def readExponent (negative : Bool) (significand : Nat) (power : Int) (s : List Char) :
    Except Error (Number × List Char) := do
  let (down, s) := match s with
    | '+' :: s => (false, s)
    | '-' :: s => (true, s)
    | s => (false, s)
  let digits := s.takeWhile Digits.isDecimal
  let rest := s.dropWhile Digits.isDecimal
  if digits.isEmpty then throw (if rest.isEmpty then .endOfValue else .invalidNumber)
  let exponent := Digits.value 10 digits
  if maxExponent < exponent then
    if significand ≠ 0 ∧ !down then throw .numberOutOfRange
    return (.double (.finite negative 0 Binary64.minExponent), rest)
  let exponent : Int := if down then -exponent else exponent
  return (.double (← toDouble negative significand (power + exponent)), rest)

def isExponentMark (c : Char) : Bool := c = 'e' || c = 'E'

def readFraction (negative : Bool) (whole : Significand) (s : List Char) :
    Except Error (Number × List Char) := do
  let digits := s.takeWhile Digits.isDecimal
  let rest := s.dropWhile Digits.isDecimal
  if digits.isEmpty then throw (if rest.isEmpty then .endOfValue else .invalidNumber)
  -- Digits that do not fit any more move no place.
  let start : Significand := { value := whole.value }
  let all := digits.foldl Significand.push start
  let kept := digits.length - all.dropped
  let power : Int := (whole.dropped : Int) - kept
  match rest with
  | c :: after =>
    if isExponentMark c then readExponent negative all.value power after
    else return (.double (← toDouble negative all.value power), rest)
  | [] => return (.double (← toDouble negative all.value power), [])

/-- The integer of 64 bits that a significand and a sign stand for, if there is one. -/
def integer? (negative : Bool) (significand : Nat) : Option Int :=
  if negative then
    if 0 < significand ∧ significand ≤ 0x8000000000000000 then some (-(significand : Int)) else none
  else some significand

def readNumber (negative : Bool) (s : List Char) : Except Error (Number × List Char) := do
  let digits := s.takeWhile Digits.isDecimal
  let rest := s.dropWhile Digits.isDecimal
  if digits.isEmpty then throw (if rest.isEmpty then .endOfValue else .invalidNumber)
  if digits.head? = some '0' ∧ 1 < digits.length then throw .invalidNumber
  let whole := digits.foldl Significand.push {}
  match rest with
  | '.' :: after => readFraction negative whole after
  | c :: after =>
    if isExponentMark c then readExponent negative whole.value whole.dropped after
    else plain whole rest
  | [] => plain whole rest
where
  plain (whole : Significand) (rest : List Char) : Except Error (Number × List Char) := do
    if whole.dropped = 0 then
      match integer? negative whole.value with
      | some n => return (.integer n, rest)
      | none => return (.double (.ofRatio negative whole.value 1), rest)
    else return (.double (← toDouble negative whole.value whole.dropped), rest)

end OpticalAccess.Json
