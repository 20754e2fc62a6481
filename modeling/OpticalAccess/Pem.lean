import OpticalAccess.Frame

/-!
# Certificates and keys in text form

Sections between lines that begin and end them, with base64 between. A line that begins a section
may also stand in another section, which it takes over with what has been gathered there.
-/

namespace OpticalAccess.Pem

inductive Error where
  | illegalStart
  | missingEnd
  | badBase64
  deriving DecidableEq, Repr

/-! ### Base64 -/

def isBase64Char (c : Char) : Bool := c.isAlphanum || c = '+' || c = '/'

def sextet (c : Char) : Nat :=
  if 'A' ≤ c ∧ c ≤ 'Z' then c.toNat - 65
  else if 'a' ≤ c ∧ c ≤ 'z' then c.toNat - 71
  else if '0' ≤ c ∧ c ≤ '9' then c.toNat + 4
  else if c = '+' then 62
  else 63

/-- The bytes that characters of base64 stand for, four by four; the rest is at most three. -/
def bytesOf : List Char → Bytes
  | a :: b :: c :: d :: rest =>
    let n := ((sextet a * 64 + sextet b) * 64 + sextet c) * 64 + sextet d
    UInt8.ofNat (n / 0x10000) :: UInt8.ofNat (n / 0x100) :: UInt8.ofNat n :: bytesOf rest
  | [a, b, c] =>
    let n := (sextet a * 64 + sextet b) * 64 + sextet c
    [UInt8.ofNat (n / 0x400), UInt8.ofNat (n / 4)]
  | [a, b] => [UInt8.ofNat ((sextet a * 64 + sextet b) / 16)]
  | _ => []

def isSpace (c : Char) : Bool := c = ' ' || ('\t' ≤ c && c ≤ '\r')

/-- Decodes base64 with blanks; its last group is padded in full or not at all. -/
def decode? (s : List Char) : Option Bytes :=
  let s := s.filter fun c => !isSpace c
  let digits := s.takeWhile isBase64Char
  let padding := s.dropWhile isBase64Char
  if digits.length % 4 = 1 || !padding.all (· = '=') then none
  else if padding.isEmpty || (padding.length ≤ 2 && s.length % 4 = 0) then some (bytesOf digits)
  else none

/-! ### Sections -/

/-- The kinds of private keys, which differ in what their sections hold. -/
inductive KeyKind where
  | general
  | rsa
  | elliptic
  deriving DecidableEq, Repr

inductive Kind where
  | certificate
  | key (kind : KeyKind)
  | publicKey
  | revocations
  | request
  | handshake
  deriving DecidableEq, Repr

def Kind.all : List Kind :=
  [certificate, key .general, key .rsa, key .elliptic, publicKey, revocations, request, handshake]

def Kind.name : Kind → String
  | certificate => "CERTIFICATE"
  | key .general => "PRIVATE KEY"
  | key .rsa => "RSA PRIVATE KEY"
  | key .elliptic => "EC PRIVATE KEY"
  | publicKey => "PUBLIC KEY"
  | revocations => "X509 CRL"
  | request => "CERTIFICATE REQUEST"
  | handshake => "ECHCONFIG"

def Kind.ofName? (name : List Char) : Option Kind := all.find? (·.name.toList = name)

/-- Puts a character in front of lines; a line feed or a carriage return ends a line of its own. -/
def consLine (c : Char) (ls : List (List Char)) : List (List Char) :=
  if c = '\n' || c = '\r' then [] :: ls
  else
    match ls with
    | [] => [[c]]
    | line :: rest => (c :: line) :: rest

def lines (s : List Char) : List (List Char) := s.foldr consLine [[]]

def after? (start : String) (s : List Char) : Option (List Char) :=
  if start.toList.isPrefixOf s then some (s.drop start.length) else none

/--
The name in a line that begins a section; the outer none stands for any other line. The line ends
in five dashes, with blanks anywhere between and behind them.
-/
def sectionStart? (line : List Char) : Option (Option (List Char)) :=
  (after? "-----BEGIN " line).map fun rest =>
    let isTail := fun c => c = '-' || c = ' '
    let tail := line.reverse.takeWhile isTail
    if tail.count '-' = 5 then
      -- Blanks before the first of the dashes belong to the name.
      let dashes := (tail.reverse.dropWhile (· = ' ')).length
      some (rest.take (rest.length - dashes))
    else none

def isSectionEnd (name : List Char) (line : List Char) : Bool :=
  ("-----END ".toList ++ name ++ "-----".toList).isPrefixOf line

/-- What is found in a text up to some place: a section, the end of the text, or an error. -/
inductive Found where
  | part (kind : Kind) (bytes : Bytes) (rest : List (List Char))
  | nothing
  | error (e : Error)

/--
Looks for a section; `inside` is the name of the one that has begun, `content` holds its lines so
far, latest first.
-/
def next (inside : Option (List Char)) (content : List (List Char)) :
    List (List Char) → Found
  | [] => if inside.isSome then .error .missingEnd else .nothing
  | line :: rest =>
    match sectionStart? line, inside with
    | some none, _ => .error .illegalStart
    | some (some name), _ => next (some name) content rest
    | none, none => next none content rest
    | none, some name =>
      if isSectionEnd name line then
        match Kind.ofName? name with
        | none => next none [] rest
        | some kind =>
          match decode? content.reverse.flatten with
          | some bytes => .part kind bytes rest
          | none => .error .badBase64
      else next inside (line :: content) rest

theorem length_next {inside : Option (List Char)} {content ls rest : List (List Char)} {kind : Kind}
    {bytes : Bytes} (h : next inside content ls = .part kind bytes rest) :
    rest.length < ls.length := by
  induction ls generalizing inside content with
  | nil => unfold next at h; grind
  | cons line ls ih => unfold next at h; grind

def certificatesIn (ls : List (List Char)) : Except Error (List Bytes) :=
  match _h : next none [] ls with
  | .error e => .error e
  | .nothing => .ok []
  | .part kind bytes rest =>
    (certificatesIn rest).map fun more => if kind = .certificate then bytes :: more else more
termination_by ls.length
decreasing_by exact length_next _h

/-- The first private key in some lines; what stands behind it is not looked at. -/
def privateKeyIn (ls : List (List Char)) : Except Error (Option (KeyKind × Bytes)) :=
  match _h : next none [] ls with
  | .error e => .error e
  | .nothing => .ok none
  | .part (.key kind) bytes _ => .ok (some (kind, bytes))
  | .part _ _ rest => privateKeyIn rest
termination_by ls.length
decreasing_by exact length_next _h

def certificates (s : String) : Except Error (List Bytes) := certificatesIn (lines s.toList)

def privateKey (s : String) : Except Error (Option (KeyKind × Bytes)) :=
  privateKeyIn (lines s.toList)

end OpticalAccess.Pem
