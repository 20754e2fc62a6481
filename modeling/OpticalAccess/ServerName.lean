import OpticalAccess.Text.Digits

/-!
# Names of servers

A certificate is checked against a domain name or an address.
-/

namespace OpticalAccess.ServerName

def splitAt (separator : Char) : List Char → List (List Char)
  | [] => [[]]
  | c :: rest =>
    match splitAt separator rest with
    | [] => [[c]]
    | part :: parts => if c = separator then [] :: part :: parts else (c :: part) :: parts

def isLabelChar (c : Char) : Bool := c.isAlphanum || c = '_' || c = '-'

/-- A label has at most 63 characters and neither begins nor ends with a hyphen. -/
def isLabel (s : List Char) : Bool :=
  !s.isEmpty && s.length ≤ 63 && s.all isLabelChar && s.head? != some '-' && s.getLast? != some '-'

/-- Labels joined by dots, the last of them no number; a dot may stand at the end. -/
def isDomain (s : List Char) : Bool :=
  let labels := splitAt '.' s
  let labels := if labels.getLast? = some [] then labels.dropLast else labels
  s.length ≤ 253 && !labels.isEmpty && labels.all isLabel &&
    !(labels.getLast?.any fun label => label.all Digits.isDecimal)

/-- A number up to 255 without zeros in front. -/
def isOctet (s : List Char) : Bool :=
  !s.isEmpty && s.length ≤ 3 && s.all Digits.isDecimal && (s.length = 1 || s.head? != some '0') &&
    Digits.value 10 s ≤ 255

def isIPv4 (s : List Char) : Bool :=
  let parts := splitAt '.' s
  parts.length = 4 && parts.all isOctet

def isGroup (s : List Char) : Bool := !s.isEmpty && s.length ≤ 4 && s.all Digits.isHex

/-- The number of groups that a row stands for; the last may be an address of four octets. -/
def groupCount? (parts : List (List Char)) (last : Bool) : Option Nat :=
  match parts.reverse with
  | [] => some 0
  | final :: before =>
    if !before.all isGroup then none
    else if isGroup final then some parts.length
    else if last && isIPv4 final then some (parts.length + 1)
    else none

def splitGap : List Char → Option (List Char × List Char)
  | ':' :: ':' :: rest => some ([], rest)
  | c :: rest => (splitGap rest).map fun (before, after) => (c :: before, after)
  | [] => none

/-- Eight groups; a pair of colons stands for one or more groups of zeros. -/
def isIPv6 (s : List Char) : Bool :=
  let groups (s : List Char) : List (List Char) := if s.isEmpty then [] else splitAt ':' s
  match splitGap s with
  | none => groupCount? (groups s) true = some 8
  | some (before, after) =>
    match groupCount? (groups before) false, groupCount? (groups after) true with
    | some n, some m => n + m ≤ 7
    | _, _ => false

def isValid (s : String) : Bool :=
  let s := s.toList
  isDomain s || isIPv4 s || isIPv6 s

end OpticalAccess.ServerName
