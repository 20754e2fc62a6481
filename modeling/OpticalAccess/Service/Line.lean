import OpticalAccess.Service

/-!
# Calls as lines

A call is written as its target, a blank and the hexadecimal digits of its body; a reply as the
number of its code, or a dash while the call goes on, and the digits of its content.
-/

namespace OpticalAccess.Service

def bytesOfHex? : List Char → Option Bytes
  | [] => some []
  | a :: b :: rest => do
    let high ← Digits.valueOf? 16 a
    let low ← Digits.valueOf? 16 b
    return UInt8.ofNat (16 * high + low) :: (← bytesOfHex? rest)
  | _ => none

def hexOfBytes (bytes : Bytes) : List Char := bytes.flatMap fun b => Digits.hex 2 b.toNat

def callOfLine? (line : List Char) : Option (String × Bytes) :=
  let target := line.takeWhile (· ≠ ' ')
  (bytesOfHex? (line.drop (target.length + 1))).map (String.ofList target, ·)

def Reply.line (r : Reply) : String :=
  String.ofList
    ((match r.code with
      | some code => Digits.decimal code.number
      | none => ['-']) ++ ' ' :: hexOfBytes r.content)

end OpticalAccess.Service
