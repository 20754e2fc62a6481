import OpticalAccess.Document.Problem
import OpticalAccess.Json5.Reach

/-!
# What the nodes of a document mean

Texts, numbers and sequences are asked for by type. A node of another type is a problem at the place
of the node.
-/

namespace OpticalAccess.Json5

def textOf (place : Position) (pieces : List Piece) : Except Fault String :=
  match Piece.decode pieces with
  | .ok s => .ok (String.ofList s)
  | .error fault => .error ⟨.text fault, place⟩

def Key.text (k : Key) : Except Fault String := textOf k.place k.pieces

def numberOf (place : Position) (n : Numeral) : Except Fault Numeral.Value :=
  match n.toValue with
  | .ok value => .ok value
  | .error fault => .error ⟨.number fault, place⟩

namespace Node

def found : Node → Except Fault Found
  | null _ => .ok .unit
  | flag _ value => .ok (.flag value)
  | numeral site n => do
    match ← numberOf site.place n with
    | .integer n => return .integer n
    | .double x => return .double x
  | text site pieces => (textOf site.place pieces).map .text
  | array .. => .ok .sequence
  | object .. => .ok .map

def mismatch (n : Node) (expected : String) : Except Fault α := do
  throw ⟨.wrongType (← n.found) expected, n.place⟩

mutual

def content : Node → Except Fault Content
  | null _ => .ok .unit
  | flag _ value => .ok (.flag value)
  | numeral site n => do
    match ← numberOf site.place n with
    | .integer n => return .integer n
    | .double x => return .double x
  | text site pieces => (textOf site.place pieces).map .text
  | array _ items => (contents items).map .sequence
  | object _ members => (memberContents members).map .map

def contents : List Node → Except Fault (List Content)
  | [] => .ok []
  | n :: rest => do
    let c ← content n
    return c :: (← contents rest)

def memberContents : List (Key × Node) → Except Fault (List (String × Content))
  | [] => .ok []
  | (key, n) :: rest => do
    let name ← key.text
    let c ← content n
    return (name, c) :: (← memberContents rest)

end

def asText : Node → Except Fault String
  | text site pieces => textOf site.place pieces
  | n => n.mismatch "a string"

def asSequence : Node → Except Fault (List Node)
  | array _ items => .ok items
  | n => n.mismatch "a sequence"

/--
The integer part of a number, cut off at the ends of a range. Whatever is no number is looked at as
if it were written in hexadecimal, by its first two bytes; they may end inside a character.
-/
def asInteger (low high : Int) : Node → Except Fault Int
  | numeral site n =>
    match n.toDouble with
    | .ok x => .ok (x.clamp low high)
    | .error fault => .error ⟨.number fault, site.place⟩
  | n => .error ⟨.number (if n.site.torn then .torn else .badNumber), n.place⟩

end Node
end OpticalAccess.Json5
