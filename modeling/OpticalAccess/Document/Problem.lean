import OpticalAccess.Document.Content
import OpticalAccess.Json5.Numeral
import OpticalAccess.Json5.Piece
import OpticalAccess.Text.Position
import OpticalAccess.Text.Quoted

/-! # What is wrong with the values of a document -/

namespace OpticalAccess

inductive Problem where
  | number (fault : Json5.NumberFault)
  | text (fault : Json5.TextFault)
  | wrongType (found : Found) (expected : String)
  | wrongLength (length : Nat) (expected : String)
  | unknownField (name : String) (expected : List String)
  | unknownVariant (name : String) (expected : List String)
  | missingField (name : String)
  | duplicateField (name : String)
  /-- A variant is named by a text, or by the key of an object. -/
  | noVariant
  | emptyVariant
  deriving DecidableEq, Repr

structure Wording where
  unit : String
  double : Binary64 → String

/-- The wording of JSON5, whose numbers are written in full. -/
def Wording.json5 : Wording := ⟨"unit value", Binary64.Layout.plain.text⟩

/-- The wording of JSON, whose large and small numbers have an exponent. -/
def Wording.json : Wording := ⟨"null", Binary64.Layout.compact.text⟩

def ticked (name : String) : String := "\x60" ++ name ++ "\x60"

def Found.message (w : Wording) : Found → String
  | unit => w.unit
  | flag value => "boolean " ++ ticked (if value then "true" else "false")
  | integer n => "integer " ++ ticked (Digits.intText n)
  | double x => "floating point " ++ ticked (w.double x)
  | text s => "string " ++ Quoted.text s
  | sequence => "sequence"
  | map => "map"

/-- The names that would have been accepted; of more than two all are listed. -/
def alternatives : List String → String
  | [name] => ticked name
  | [name, other] => ticked name ++ " or " ++ ticked other
  | names => "one of " ++ ", ".intercalate (names.map ticked)

def Problem.message (w : Wording) : Problem → String
  | number fault => fault.message
  | text fault => fault.message
  | wrongType found expected => "invalid type: " ++ found.message w ++ ", expected " ++ expected
  | wrongLength length expected =>
    "invalid length " ++ Digits.natText length ++ ", expected " ++ expected
  | unknownField name expected =>
    "unknown field " ++ ticked name ++ ", expected " ++ alternatives expected
  | unknownVariant name expected =>
    "unknown variant " ++ ticked name ++ ", expected " ++ alternatives expected
  | missingField name => "missing field " ++ ticked name
  | duplicateField name => "duplicate field " ++ ticked name
  | noVariant => "expected a string or an object"
  | emptyVariant => "expected a nonempty object"

structure Fault where
  problem : Problem
  place : Position
  deriving DecidableEq, Repr

end OpticalAccess
