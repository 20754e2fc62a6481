/-!
# Digits

Numbers as text: decimal without leading zeros, hexadecimal of a fixed width,
and the value of a run of digits.
-/

namespace OpticalAccess.Digits

def digit (n : Nat) : Char :=
  if n < 10 then Char.ofNat (48 + n) else Char.ofNat (87 + n)

def decimal (n : Nat) : List Char :=
  if n < 10 then [digit n] else decimal (n / 10) ++ [digit (n % 10)]

def signed : Int → List Char
  | .ofNat n => decimal n
  | .negSucc n => '-' :: decimal (n + 1)

def hex : (width : Nat) → Nat → List Char
  | 0, _ => []
  | width + 1, n => hex width (n / 16) ++ [digit (n % 16)]

/-- The hexadecimal digits of a number without leading zeros. -/
def hexadecimal (n : Nat) : List Char :=
  if n < 16 then [digit n] else hexadecimal (n / 16) ++ [digit (n % 16)]

/-- The value of a character as a digit in a base up to sixteen. -/
def valueOf? (base : Nat) (c : Char) : Option Nat :=
  let value :=
    if '0' ≤ c ∧ c ≤ '9' then c.toNat - 48
    else if 'a' ≤ c ∧ c ≤ 'f' then c.toNat - 87
    else if 'A' ≤ c ∧ c ≤ 'F' then c.toNat - 55
    else base
  if value < base then some value else none

/-- The number that a text of digits writes in a base; none for any other character. -/
def value? (base : Nat) (digits : List Char) : Option Nat :=
  digits.foldlM (fun n c => (valueOf? base c).map (base * n + ·)) 0

/-- The number that a text of digits writes; a character that is no digit counts as zero. -/
def value (base : Nat) (digits : List Char) : Nat :=
  digits.foldl (fun n c => base * n + (valueOf? base c).getD 0) 0

def isDecimal (c : Char) : Bool := '0' ≤ c ∧ c ≤ '9'

def isHex (c : Char) : Bool := (valueOf? 16 c).isSome

def natText (n : Nat) : String := String.ofList (decimal n)

def intText (n : Int) : String := String.ofList (signed n)

theorem decimal_of_lt {n : Nat} (h : n < 10) : decimal n = [digit n] := by
  rw [decimal, if_pos h]

theorem decimal_of_le {n : Nat} (h : 10 ≤ n) :
    decimal n = decimal (n / 10) ++ [digit (n % 10)] := by
  rw [decimal, if_neg (by omega)]

end OpticalAccess.Digits
