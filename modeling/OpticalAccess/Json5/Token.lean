import OpticalAccess.Json5.Numeral
import OpticalAccess.Json5.Piece
import OpticalAccess.Text.Position

/-!
# Tokens of JSON5

A document is a row of punctuation, names, quoted texts and numerals, with blanks and comments
between them.
-/

namespace OpticalAccess.Json5

inductive Token where
  | openArray
  | closeArray
  | openObject
  | closeObject
  | colon
  | comma
  | name (pieces : List Piece)
  | text (pieces : List Piece)
  | numeral (n : Numeral)
  deriving DecidableEq, Repr

/-- A token, the place where it begins, and the document from there on. -/
structure Located where
  token : Token
  place : Position
  source : List Char
  deriving DecidableEq, Repr

/-- Blanks: controls that move on, line ends, the byte order mark and all space separators. -/
def isBlank (c : Char) : Bool :=
  isLineEnd c || c = '\t' || c = '\x0b' || c = '\x0c' || c = ' ' || c = '\u00a0' || c = '\u1680' ||
    ('\u2000' ≤ c && c ≤ '\u200a') || c = '\u202f' || c = '\u205f' || c = '\u3000' || c = '\ufeff'

def punctuation? : Char → Option Token
  | '[' => some .openArray
  | ']' => some .closeArray
  | '\x7b' => some .openObject
  | '\x7d' => some .closeObject
  | ':' => some .colon
  | ',' => some .comma
  | _ => none

/-- Splits behind the end of a block comment; none if it does not end. -/
def splitBlock : List Char → Option (List Char × List Char)
  | '*' :: '/' :: rest => some (['*', '/'], rest)
  | c :: rest => (splitBlock rest).map fun (comment, rest) => (c :: comment, rest)
  | [] => none

def splitLine : List Char → List Char × List Char
  | [] => ([], [])
  | c :: rest =>
    if isLineEnd c then ([], c :: rest)
    else
      let (line, rest) := splitLine rest
      (c :: line, rest)

/-- A lexeme: what it is, if it is more than a blank, its characters and the rest. -/
structure Lexeme where
  token : Option Token
  written : List Char
  rest : List Char

/-- Reads one lexeme; none if the text does not begin with one. -/
def lexeme? : List Char → Option Lexeme
  | [] => none
  | c :: rest =>
    if isBlank c then some ⟨none, [c], rest⟩
    else if c = '/' then
      match rest with
      | '*' :: rest =>
        (splitBlock rest).map fun (comment, rest) => ⟨none, '/' :: '*' :: comment, rest⟩
      | '/' :: rest =>
        let (line, rest) := splitLine rest
        some ⟨none, '/' :: '/' :: line, rest⟩
      | _ => none
    else if c = '"' || c = '\x27' then
      match splitQuoted c rest with
      | none => none
      | some (content, rest) =>
        (pieces content).map fun ps => ⟨some (.text ps), c :: content ++ [c], rest⟩
    else if Digits.isDecimal c || c = '.' || c = '+' || c = '-' then
      let (written, rest) := splitNumeral true (c :: rest)
      (Numeral.ofChars? written).map fun n => ⟨some (.numeral n), written, rest⟩
    else if Identifier.isStart c || c = '\\' then
      let (written, rest) := splitName (c :: rest)
      if written.isEmpty then none
      else (pieces written).map fun ps => ⟨some (.name ps), written, rest⟩
    else (punctuation? c).map fun t => ⟨some t, [c], rest⟩

/-- The tokens of a text, and what is left from some place on because it is malformed there. -/
structure Row where
  tokens : List Located
  place : Position
  rest : List Char

/-- Reads lexemes to the end or to one that is malformed, at most `fuel` of them. -/
def rowWithin : (fuel : Nat) → Position → List Char → Row
  | _, place, [] => ⟨[], place, []⟩
  | 0, place, s => ⟨[], place, s⟩
  | fuel + 1, place, s =>
    match lexeme? s with
    | none => ⟨[], place, s⟩
    | some ⟨token, written, rest⟩ =>
      let row := rowWithin fuel (place.after written) rest
      match token with
      | none => row
      | some token => { row with tokens := ⟨token, place, s⟩ :: row.tokens }

/-- The tokens of a document; a lexeme has at least one character. -/
def row (s : List Char) : Row := rowWithin s.length Position.start s

end OpticalAccess.Json5
