import OpticalAccess.Json5.Value

/-!
# Records

A record is written as an object, or as an array of its fields in order. It is built up field by
field in a draft; each field has a slot that says how.
-/

namespace OpticalAccess.Json5

structure Slot (σ : Type) where
  name : String
  required : Bool
  filled : σ → Bool
  fill : σ → Node → Except Fault σ

namespace Slot

/-- Fills the slots that the members of an object name, in the order of the members. -/
def fillMembers (slots : List (Slot σ)) (place : Position) (draft : σ) :
    List (Key × Node) → Except Fault σ
  | [] => .ok draft
  | (key, n) :: rest => do
    let name ← key.text
    match slots.find? (·.name = name) with
    | none => throw ⟨.unknownField name (slots.map Slot.name), key.place⟩
    | some slot =>
      if slot.filled draft then throw ⟨.duplicateField name, place⟩
      fillMembers slots place (← slot.fill draft n) rest

/-- Fills slots with the items of an array; items beyond the last slot are left alone. -/
def fillItems (expected : String) (place : Position) (draft : σ) :
    (index : Nat) → List (Slot σ) → List Node → Except Fault σ
  | _, [], _ => .ok draft
  | index, slot :: slots, n :: rest => do
    fillItems expected place (← slot.fill draft n) (index + 1) slots rest
  | index, slot :: slots, [] =>
    if slot.required then .error ⟨.wrongLength index expected, place⟩
    else fillItems expected place draft (index + 1) slots []

def complete (slots : List (Slot σ)) (place : Position) (draft : σ) : Except Fault σ :=
  match slots.find? fun slot => slot.required && !slot.filled draft with
  | some slot => .error ⟨.missingField slot.name, place⟩
  | none => .ok draft

def read (record : String) (slots : List (Slot σ)) (blank : σ) : Node → Except Fault σ
  | .object site members => do
    complete slots site.place (← fillMembers slots site.place blank members)
  | .array site items =>
    let expected := record ++ " with " ++ Digits.natText slots.length ++ " elements"
    fillItems expected site.place blank 0 slots items
  | n => n.mismatch record

end Slot
end OpticalAccess.Json5
