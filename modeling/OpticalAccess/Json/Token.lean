import OpticalAccess.Json.Number

/-!
# Tokens of JSON

A text is read from left to right into tokens, up to its end or to the first thing that is wrong.
Whoever takes the tokens sees what is wrong only when they get there.
-/

namespace OpticalAccess.Json

inductive Token where
  | null
  | flag (value : Bool)
  | number (n : Number)
  | text (s : String)
  | key (name : String)
  | beginArray
  | endArray
  | beginObject
  | endObject
  deriving DecidableEq, Repr

/-- Tokens, and why there are no more if the text is not well-formed. -/
structure Tokens where
  list : List Token
  error : Option Error

/-! ### Texts -/

/-- Reads four hexadecimal digits; fewer than four bytes are the end of the text. -/
def readUnit (s : List Char) : Except Error (Nat × List Char) :=
  match s with
  | d0 :: d1 :: d2 :: d3 :: rest =>
    match Digits.value? 16 [d0, d1, d2, d3] with
    | some n => .ok (n, rest)
    | none => .error .invalidEscape
  | s => if 4 ≤ (String.ofList s).utf8ByteSize then .error .invalidEscape else .error .endOfText

def readTrail (lead : Nat) : List Char → Except Error (Char × List Char)
  | [] => .error .endOfText
  | c :: s =>
    if c ≠ '\\' then .error .endOfSurrogate
    else
      match s with
      | [] => .error .endOfText
      | c :: s =>
        if c ≠ 'u' then .error .endOfSurrogate
        else do
          let (trail, rest) ← readUnit s
          if trail < 0xDC00 ∨ 0xDFFF < trail then throw .loneSurrogate
          return (Char.ofNat (((lead - 0xD800) <<< 10 ||| (trail - 0xDC00)) + 0x10000), rest)

def readEscape : List Char → Except Error (Char × List Char)
  | [] => .error .endOfText
  | c :: rest =>
    match c with
    | '"' => .ok ('"', rest)
    | '\\' => .ok ('\\', rest)
    | '/' => .ok ('/', rest)
    | 'b' => .ok ('\x08', rest)
    | 'f' => .ok ('\x0c', rest)
    | 'n' => .ok ('\n', rest)
    | 'r' => .ok ('\r', rest)
    | 't' => .ok ('\t', rest)
    | 'u' => do
      let (unit, rest) ← readUnit rest
      if 0xDC00 ≤ unit ∧ unit ≤ 0xDFFF then throw .loneSurrogate
      if 0xD800 ≤ unit ∧ unit ≤ 0xDBFF then readTrail unit rest
      else return (Char.ofNat unit, rest)
    | _ => .error .invalidEscape

/-- Reads a text behind its quote, at most `fuel` characters of it; `before` stands in reverse. -/
def readTextWithin :
    (fuel : Nat) → (before : List Char) → List Char → Except Error (String × List Char)
  | _, _, [] => .error .endOfText
  | 0, _, _ => .error .endOfText
  | fuel + 1, before, c :: rest =>
    if c = '"' then .ok (String.ofList before.reverse, rest)
    else if c = '\\' then
      match readEscape rest with
      | .error error => .error error
      | .ok (c, rest) => readTextWithin fuel (c :: before) rest
    else if c.toNat < 0x20 then .error .controlCharacter
    else readTextWithin fuel (c :: before) rest

def readText (s : List Char) : Except Error (String × List Char) := readTextWithin s.length [] s

/-! ### Documents -/

inductive Container where
  | array
  | object
  deriving DecidableEq

inductive Expecting where
  | value
  | firstItem
  | afterItem
  | firstKey
  | key
  | colon
  | afterMember
  | nothing
  /-- A value behind a comma. -/
  | item
  deriving DecidableEq

structure State where
  opened : List Container := []
  expecting : Expecting := .value

def maxDepth : Nat := 128

def afterValue : List Container → Expecting
  | [] => .nothing
  | .array :: _ => .afterItem
  | .object :: _ => .afterMember

/-- What a step brings: a token or none, the state behind it and the rest of the text. -/
abbrev Step : Type := Except Error (Option Token × State × List Char)

def readWord (word : List Char) (token : Token) (s : State) (rest : List Char) : Step :=
  match word, rest with
  | [], rest => .ok (some token, { s with expecting := afterValue s.opened }, rest)
  | _ :: _, [] => .error .endOfValue
  | w :: word, c :: rest =>
    if c = w then readWord word token s rest else .error .expectedIdent

def openContainer (container : Container) (token : Token) (expecting : Expecting) (s : State)
    (rest : List Char) : Step :=
  if maxDepth ≤ s.opened.length + 1 then .error .tooDeep
  else .ok (some token, ⟨container :: s.opened, expecting⟩, rest)

def closeContainer (token : Token) (s : State) (rest : List Char) : Step :=
  let outer := s.opened.drop 1
  .ok (some token, ⟨outer, afterValue outer⟩, rest)

def number (negative : Bool) (s : State) (rest : List Char) : Step := do
  let (n, rest) ← readNumber negative rest
  return (some (.number n), { s with expecting := afterValue s.opened }, rest)

def beginValue (s : State) (c : Char) (rest : List Char) : Step :=
  if c = 'n' then readWord "ull".toList .null s rest
  else if c = 't' then readWord "rue".toList (.flag true) s rest
  else if c = 'f' then readWord "alse".toList (.flag false) s rest
  else if c = '-' then number true s rest
  else if Digits.isDecimal c then number false s (c :: rest)
  else if c = '"' then do
    let (text, rest) ← readText rest
    return (some (.text text), { s with expecting := afterValue s.opened }, rest)
  else if c = '[' then openContainer .array .beginArray .firstItem s rest
  else if c = '\x7b' then openContainer .object .beginObject .firstKey s rest
  else .error .expectedValue

def beginKey (s : State) (rest : List Char) : Step := do
  let (name, rest) ← readText rest
  return (some (.key name), { s with expecting := .colon }, rest)

def step (s : State) (c : Char) (rest : List Char) : Step :=
  match s.expecting with
  | .value => beginValue s c rest
  | .firstItem => if c = ']' then closeContainer .endArray s rest else beginValue s c rest
  | .item => if c = ']' then .error .trailingComma else beginValue s c rest
  | .afterItem =>
    if c = ']' then closeContainer .endArray s rest
    else if c = ',' then .ok (none, { s with expecting := .item }, rest)
    else .error .expectedListEnd
  | .firstKey =>
    if c = '\x7d' then closeContainer .endObject s rest
    else if c = '"' then beginKey s rest
    else .error .keyNotText
  | .key =>
    if c = '\x7d' then .error .trailingComma
    else if c = '"' then beginKey s rest
    else .error .keyNotText
  | .colon =>
    if c = ':' then .ok (none, { s with expecting := .value }, rest) else .error .expectedColon
  | .afterMember =>
    if c = '\x7d' then closeContainer .endObject s rest
    else if c = ',' then .ok (none, { s with expecting := .key }, rest)
    else .error .expectedObjectEnd
  | .nothing => .error .trailingCharacters

def atEnd (s : State) : Option Error :=
  match s.expecting with
  | .value | .item | .key => some .endOfValue
  | .firstItem | .afterItem => some .endOfList
  | .firstKey | .colon | .afterMember => some .endOfObject
  | .nothing => none

def isBlank (c : Char) : Bool := c = ' ' || c = '\n' || c = '\t' || c = '\r'

/-- Reads at most `fuel` characters and what belongs to them. -/
def tokensWithin : (fuel : Nat) → State → List Char → Tokens
  | _, s, [] => ⟨[], atEnd s⟩
  | 0, s, _ => ⟨[], atEnd s⟩
  | fuel + 1, s, c :: rest =>
    if isBlank c then tokensWithin fuel s rest
    else
      match step s c rest with
      | .error error => ⟨[], some error⟩
      | .ok (token, s, rest) =>
        let tokens := tokensWithin fuel s rest
        { tokens with list := token.toList ++ tokens.list }

def tokens (s : String) : Tokens := tokensWithin s.length {} s.toList

end OpticalAccess.Json
