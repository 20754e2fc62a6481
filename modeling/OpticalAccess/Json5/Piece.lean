import OpticalAccess.Text.Digits
import OpticalAccess.Text.Identifier

/-!
# Quoted texts and names of JSON5

Quoted texts and names are made of pieces: characters that stand for themselves and escapes. The
text that they mean pairs surrogates; a lead surrogate takes whatever piece follows as its trail.
-/

namespace OpticalAccess.Json5

def isLineEnd (c : Char) : Bool := c = '\n' || c = '\r' || c = '\u2028' || c = '\u2029'

inductive Piece where
  | char (c : Char)
  | escaped (c : Char)
  | byte (high low : Char)
  | unit (d0 d1 d2 d3 : Char)
  deriving DecidableEq, Repr

inductive TextFault where
  | badHex
  | loneTrail
  | wrongTrail
  | missingTrail
  deriving DecidableEq, Repr

def TextFault.message : TextFault → String
  | badHex => "error parsing hex"
  | loneTrail => "unexpected unicode trail surrogate"
  | wrongTrail => "expecting unicode trail surrogate"
  | missingTrail => "missing unicode trail surrogate"

/--
The pieces of a text without its quotes; none if an escape is malformed. A backslash before the end
of a line joins the lines.
-/
def pieces : List Char → Option (List Piece)
  | [] => some []
  | '\\' :: 'x' :: high :: low :: rest =>
    if [high, low].all Digits.isHex then (pieces rest).map (.byte high low :: ·) else none
  | '\\' :: 'u' :: d0 :: d1 :: d2 :: d3 :: rest =>
    if [d0, d1, d2, d3].all Digits.isHex then (pieces rest).map (.unit d0 d1 d2 d3 :: ·) else none
  | '\\' :: '\r' :: '\n' :: rest => pieces rest
  | '\\' :: c :: rest =>
    if c = 'x' || c = 'u' || ('1' ≤ c && c ≤ '9') then none
    else if isLineEnd c then pieces rest
    else (pieces rest).map (.escaped c :: ·)
  | c :: rest =>
    if c = '\\' || isLineEnd c then none else (pieces rest).map (.char c :: ·)

/-- Splits at the closing quote; none if there is none. -/
def splitQuoted (quote : Char) : List Char → Option (List Char × List Char)
  | [] => none
  | '\\' :: '\r' :: '\n' :: rest =>
    (splitQuoted quote rest).map fun (content, rest) => ('\\' :: '\r' :: '\n' :: content, rest)
  | '\\' :: c :: rest =>
    (splitQuoted quote rest).map fun (content, rest) => ('\\' :: c :: content, rest)
  | c :: rest =>
    if c = quote then some ([], rest)
    else if isLineEnd c then none
    else (splitQuoted quote rest).map fun (content, rest) => (c :: content, rest)

def splitName : List Char → List Char × List Char
  | [] => ([], [])
  | '\\' :: 'u' :: d0 :: d1 :: d2 :: d3 :: rest =>
    if [d0, d1, d2, d3].all Digits.isHex then
      let (name, rest) := splitName rest
      ('\\' :: 'u' :: d0 :: d1 :: d2 :: d3 :: name, rest)
    else ([], '\\' :: 'u' :: d0 :: d1 :: d2 :: d3 :: rest)
  | c :: rest =>
    if Identifier.isPart c then
      let (name, rest) := splitName rest
      (c :: name, rest)
    else ([], c :: rest)

def unescape : Char → Char
  | 'b' => '\x08'
  | 'f' => '\x0c'
  | 'n' => '\n'
  | 'r' => '\r'
  | 't' => '\t'
  | 'v' => '\x0b'
  | '0' => '\x00'
  | c => c

namespace Piece

def digits : Piece → List Char
  | char c => [c]
  | escaped c => [c]
  | byte high low => [high, low]
  | unit d0 d1 d2 d3 => [d0, d1, d2, d3]

def decode : List Piece → Except TextFault (List Char)
  | [] => .ok []
  | char c :: rest => (decode rest).map (c :: ·)
  | escaped c :: rest => (decode rest).map (unescape c :: ·)
  | byte high low :: rest =>
    (decode rest).map (Char.ofNat (Digits.value 16 [high, low]) :: ·)
  | unit d0 d1 d2 d3 :: rest =>
    let lead := Digits.value 16 [d0, d1, d2, d3]
    if 0xDC00 ≤ lead ∧ lead ≤ 0xDFFF then .error .loneTrail
    else if 0xD800 ≤ lead ∧ lead ≤ 0xDBFF then
      match rest with
      | [] => .error .missingTrail
      | next :: rest =>
        match Digits.value? 16 next.digits with
        | none => .error .badHex
        | some trail =>
          if 0xDC00 ≤ trail ∧ trail ≤ 0xDFFF then
            let c := (lead - 0xD800) <<< 10 ||| (trail - 0xDC00 + 0x10000)
            (decode rest).map (Char.ofNat c :: ·)
          else .error .wrongTrail
    else (decode rest).map (Char.ofNat lead :: ·)

end Piece
end OpticalAccess.Json5
