import OpticalAccess.Frame
import OpticalAccess.Location

/-!
# URIs

An endpoint can be dialled if it is a URI with an authority. The authority reaches from the scheme
to the first slash, question mark or number sign.
-/

namespace OpticalAccess.Uri

/-- Bytes that may stand in an authority; a percent sign is looked at apart. -/
def isAuthorityByte (b : UInt8) : Bool :=
  0x21 ≤ b && b ≤ 0x7e && !(b ∈ "\"%<>\\^\x60\x7b|\x7d".toUTF8.toList)

def isDelimiter (b : UInt8) : Bool := b ∈ "/?#".toUTF8.toList

def splitAuthority (bytes : Bytes) : Bytes × Bytes :=
  (bytes.takeWhile fun b => !isDelimiter b, bytes.dropWhile fun b => !isDelimiter b)

/-- What has been seen of an authority, since its last at sign or bracket where that matters. -/
structure Scan where
  colons : Nat := 0
  opened : Bool := false
  closed : Bool := false
  percent : Bool := false

/-- Takes one byte of an authority; none if it may not stand there. -/
def Scan.step (s : Scan) (b : UInt8) : Option Scan :=
  if b = ':'.toUInt8 then
    if 8 ≤ s.colons then none else some { s with colons := s.colons + 1 }
  else if b = '['.toUInt8 then
    if s.percent || s.opened then none else some { s with opened := true }
  else if b = ']'.toUInt8 then
    if !s.opened || s.closed then none
    else some { s with closed := true, colons := 0, percent := false }
  else if b = '@'.toUInt8 then some { s with colons := 0, percent := false }
  else if b = '%'.toUInt8 then some { s with percent := true }
  else if isAuthorityByte b then some s
  else none

/-- At most one colon for the port, closed brackets, a host behind the user and no percent in it. -/
def isAuthority (bytes : Bytes) : Bool :=
  match bytes.foldlM Scan.step {} with
  | none => false
  | some s =>
    s.opened == s.closed && s.colons ≤ 1 && !s.percent && !bytes.isEmpty &&
      bytes.getLast? != some '@'.toUInt8

/-- Bytes that may stand in a path, escaped or not. -/
def isPathByte (b : UInt8) : Bool :=
  b = 0x21 || (0x24 ≤ b && b ≤ 0x3b) || b = 0x3d || (0x40 ≤ b && b ≤ 0x5f) ||
    (0x61 ≤ b && b ≤ 0x7a) || b ∈ "\"\x7b|\x7d~".toUTF8.toList || 0x80 ≤ b

def isQueryByte (b : UInt8) : Bool :=
  b = 0x21 || (0x24 ≤ b && b ≤ 0x3b) || b = 0x3d || (0x3f ≤ b && b ≠ 0x7f)

/-- A path, a query behind a question mark, and a fragment, which may be anything. -/
def isPathAndQuery (bytes : Bytes) : Bool :=
  let bytes := bytes.takeWhile (· ≠ '#'.toUInt8)
  let path := bytes.takeWhile (· ≠ '?'.toUInt8)
  let query := (bytes.dropWhile (· ≠ '?'.toUInt8)).drop 1
  path.all isPathByte && query.all isQueryByte

def maxLength : Nat := 65534

def isValid (scheme rest : Bytes) : Bool :=
  let (authority, path) := splitAuthority rest
  scheme.length + rest.length ≤ maxLength && isAuthority authority && isPathAndQuery path

end OpticalAccess.Uri

namespace OpticalAccess

def Location.dialable (l : Location) (secure : Bool) : Bool :=
  Uri.isValid (if secure then "https://" else "http://").toUTF8.toList l.host.toUTF8.toList

end OpticalAccess
