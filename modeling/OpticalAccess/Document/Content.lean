import OpticalAccess.Number.Shortest

/-!
# Values of documents

What a document holds, apart from how and where it was written.
-/

namespace OpticalAccess

inductive Content where
  | unit
  | flag (value : Bool)
  | integer (n : Int)
  | double (x : Binary64)
  | text (s : String)
  | sequence (items : List Content)
  | map (members : List (String × Content))
  deriving Repr

/-- What kind of value stands somewhere, with the value where it is a simple one. -/
inductive Found where
  | unit
  | flag (value : Bool)
  | integer (n : Int)
  | double (x : Binary64)
  | text (s : String)
  | sequence
  | map
  deriving DecidableEq, Repr

def Content.found : Content → Found
  | unit => .unit
  | flag value => .flag value
  | integer n => .integer n
  | double x => .double x
  | text s => .text s
  | sequence _ => .sequence
  | map _ => .map

end OpticalAccess
