import OpticalAccess.Frame

/-!
# Tagged elements

An element is a tag, the length of its content and the content. There is one way only to write an
element: its length takes as few bytes as it can, and no more than two behind the first.
-/

namespace OpticalAccess.Der

def booleanTag : UInt8 := 0x01

def integerTag : UInt8 := 0x02

def bitStringTag : UInt8 := 0x03

def octetStringTag : UInt8 := 0x04

def nullTag : UInt8 := 0x05

def identifierTag : UInt8 := 0x06

def sequenceTag : UInt8 := 0x30

/-- A tag that has its meaning from what it stands in; the content is made of elements. -/
def contextTag (n : UInt8) : UInt8 := 0xA0 + n

def plainContextTag (n : UInt8) : UInt8 := 0x80 + n

/-! ### Reading -/

def readLength : Bytes → Option (Nat × Bytes)
  | [] => none
  | first :: rest =>
    if first < 0x80 then some (first.toNat, rest)
    else
      match rest with
      | [] => none
      | high :: rest =>
        if first = 0x81 then if high < 0x80 then none else some (high.toNat, rest)
        else if first = 0x82 then
          match rest with
          | [] => none
          | low :: rest => if high = 0 then none else some (256 * high.toNat + low.toNat, rest)
        else none

structure Element where
  tag : UInt8
  content : Bytes
  deriving DecidableEq, Repr

/-- Reads an element; its tag is a single byte. -/
def readElement : Bytes → Option (Element × Bytes)
  | [] => none
  | tag :: rest => do
    if tag &&& 0x1F = 0x1F then none
    let (n, rest) ← readLength rest
    if rest.length < n then none
    return (⟨tag, rest.take n⟩, rest.drop n)

def take? (tag : UInt8) (bytes : Bytes) : Option (Bytes × Bytes) := do
  let (e, rest) ← readElement bytes
  if e.tag = tag then return (e.content, rest) else none

/-- Reads the content of an element with a tag, behind which there is nothing else. -/
def sole? (tag : UInt8) (bytes : Bytes) : Option Bytes := do
  let (content, rest) ← take? tag bytes
  if rest.isEmpty then return content else none

/-- The digits in base 256 of a natural number, without a zero in front that only keeps the sign. -/
def digits? : Bytes → Option Bytes
  | [] => none
  | [b] => if b < 0x80 then some [b] else none
  | b :: next :: rest =>
    if b = 0 then if next < 0x80 then none else some (next :: rest)
    else if b < 0x80 then some (b :: next :: rest)
    else none

def value (bytes : Bytes) : Nat := bytes.foldl (fun n b => 256 * n + b.toNat) 0

def takeDigits? (bytes : Bytes) : Option (Bytes × Bytes) := do
  let (content, rest) ← take? integerTag bytes
  return (← digits? content, rest)

def takeSmall? (bytes : Bytes) : Option (Nat × Bytes) := do
  match ← takeDigits? bytes with
  | ([b], rest) => return (b.toNat, rest)
  | _ => none

/-- The bytes of a string of bits whose number is a multiple of eight. -/
def wholeBytes? : Bytes → Option Bytes
  | 0 :: bytes => some bytes
  | _ => none

/-! ### Writing -/

def writeLength (n : Nat) : Bytes :=
  if n < 0x80 then [UInt8.ofNat n]
  else if n < 0x100 then [0x81, UInt8.ofNat n]
  else [0x82, UInt8.ofNat (n / 0x100), UInt8.ofNat n]

def write (tag : UInt8) (content : Bytes) : Bytes := tag :: writeLength content.length ++ content

def writeDigits (digits : Bytes) : Bytes :=
  write integerTag <|
    match digits with
    | b :: _ => if b < 0x80 then digits else 0 :: digits
    | [] => [0]

def writeBits (bytes : Bytes) : Bytes := write bitStringTag (0 :: bytes)

end OpticalAccess.Der
