import OpticalAccess.Json5.Record
import Mathlib.Data.List.Forall2

/-!
# Nodes without their places

Two documents may say the same at different places. `Node.bare` leaves the places out. What a value,
a text or a record is read as does not depend on them; only faults do.
-/

namespace OpticalAccess

/-! ### What is read, faults aside -/

@[simp] theorem toOption_ok (a : α) : (Except.ok a : Except ε α).toOption = some a := rfl

@[simp] theorem toOption_pure (a : α) : (pure a : Except ε α).toOption = some a := rfl

@[simp] theorem toOption_error (e : ε) : (Except.error e : Except ε α).toOption = none := rfl

@[simp] theorem toOption_throw (e : ε) : (throw e : Except ε α).toOption = none := rfl

@[simp] theorem toOption_bind (x : Except ε α) (f : α → Except ε β) :
    (x >>= f).toOption = x.toOption.bind fun a => (f a).toOption := by
  cases x <;> rfl

@[simp] theorem toOption_map (x : Except ε α) (f : α → β) :
    (x.map f).toOption = x.toOption.map f := by
  cases x <;> rfl

theorem toOption_eq_some {x : Except ε α} {a : α} : x.toOption = some a ↔ x = .ok a := by
  cases x <;> simp

namespace Json5

/-- A place that stands for any. -/
def nowhere : Site := ⟨.start, false⟩

def Key.bare (k : Key) : Key := ⟨.start, k.pieces⟩

namespace Node

mutual

def bare : Node → Node
  | null _ => null nowhere
  | flag _ value => flag nowhere value
  | numeral _ n => numeral nowhere n
  | text _ pieces => text nowhere pieces
  | array _ items => array nowhere (bareItems items)
  | object _ members => object nowhere (bareMembers members)

def bareItems : List Node → List Node
  | [] => []
  | n :: rest => bare n :: bareItems rest

def bareMembers : List (Key × Node) → List (Key × Node)
  | [] => []
  | (key, n) :: rest => (key.bare, bare n) :: bareMembers rest

end

theorem bareItems_eq (items : List Node) : bareItems items = items.map bare := by
  induction items with
  | nil => rfl
  | cons n rest ih => rw [bareItems, ih, List.map_cons]

def bareMember (member : Key × Node) : Key × Node := (member.1.bare, member.2.bare)

theorem bareMembers_eq (members : List (Key × Node)) :
    bareMembers members = members.map bareMember := by
  induction members with
  | nil => rfl
  | cons entry rest ih =>
    rw [bareMembers, ih, List.map_cons]
    rfl

end Node

/-! ### Values -/

theorem toOption_textOf (place : Position) (pieces : List Piece) :
    (textOf place pieces).toOption = (Piece.decode pieces).toOption.map String.ofList := by
  unfold textOf
  cases Piece.decode pieces <;> rfl

theorem toOption_numberOf (place : Position) (n : Numeral) :
    (numberOf place n).toOption = n.toValue.toOption := by
  unfold numberOf
  cases n.toValue <;> rfl

theorem Key.text_bare (k : Key) : k.bare.text.toOption = k.text.toOption := by
  simp only [Key.text, Key.bare, toOption_textOf]

namespace Node

@[simp] theorem toOption_mismatch (n : Node) (expected : String) :
    (n.mismatch expected : Except Fault α).toOption = none := by
  simp [mismatch]

theorem asText_bare (n : Node) : n.bare.asText.toOption = n.asText.toOption := by
  cases n <;> simp [bare, asText, toOption_textOf]

theorem asSequence_bare (n : Node) :
    n.bare.asSequence.toOption = n.asSequence.toOption.map (List.map bare) := by
  cases n <;> simp [bare, asSequence, bareItems_eq]

theorem asInteger_bare (low high : Int) (n : Node) :
    (n.bare.asInteger low high).toOption = (n.asInteger low high).toOption := by
  cases n with
  | numeral site value => cases read : value.toDouble <;> simp [bare, asInteger, read]
  | _ => rfl

mutual

theorem content_bare : ∀ n : Node, n.bare.content.toOption = n.content.toOption
  | null _ => rfl
  | flag _ _ => rfl
  | numeral _ n => by
    simp only [bare, content, toOption_bind, toOption_numberOf]
  | text _ pieces => by simp only [bare, content, toOption_map, toOption_textOf]
  | array _ items => by simp only [bare, content, toOption_map, contents_bare items]
  | object _ members => by simp only [bare, content, toOption_map, memberContents_bare members]

theorem contents_bare : ∀ items : List Node,
    (contents (bareItems items)).toOption = (contents items).toOption
  | [] => rfl
  | n :: rest => by
    simp only [bareItems, contents, toOption_bind, content_bare n, contents_bare rest]

theorem memberContents_bare : ∀ members : List (Key × Node),
    (memberContents (bareMembers members)).toOption = (memberContents members).toOption
  | [] => rfl
  | (key, n) :: rest => by
    simp only [bareMembers, memberContents, toOption_bind, Key.text_bare, content_bare n,
      memberContents_bare rest]

end

end Node

/-! ### Records -/

namespace Slot

/-- A slot that takes from bare nodes what another one takes from nodes with their places. -/
structure Alike (a b : Slot σ) : Prop where
  name : b.name = a.name
  required : b.required = a.required
  filled : b.filled = a.filled
  fill : ∀ draft n, (b.fill draft n.bare).toOption = (a.fill draft n).toOption

variable {as bs : List (Slot σ)}

theorem find?_alike (alike : List.Forall₂ Alike as bs) (name : String) :
    (as.find? (·.name = name) = none ∧ bs.find? (·.name = name) = none) ∨
      ∃ a b, as.find? (·.name = name) = some a ∧ bs.find? (·.name = name) = some b ∧ Alike a b := by
  induction alike with
  | nil => exact .inl ⟨rfl, rfl⟩
  | @cons a b as bs same _ ih =>
    simp only [List.find?_cons, same.name]
    cases decide (a.name = name) with
    | true => exact .inr ⟨a, b, rfl, rfl, same⟩
    | false => exact ih

theorem fillMembers_alike (alike : List.Forall₂ Alike as bs) (place place' : Position) (draft : σ)
    (members : List (Key × Node)) :
    (fillMembers bs place' draft (Node.bareMembers members)).toOption =
      (fillMembers as place draft members).toOption := by
  induction members generalizing draft with
  | nil => rfl
  | cons entry rest ih =>
    obtain ⟨key, n⟩ := entry
    simp only [Node.bareMembers, fillMembers, toOption_bind, Key.text_bare]
    refine Option.bind_congr fun name _ => ?_
    obtain ⟨none, none'⟩ | ⟨a, b, found, found', same⟩ := find?_alike alike name
    · rw [none, none']
      rfl
    · rw [found, found']
      simp only [same.filled]
      split
      · rfl
      · simp only [toOption_bind, same.fill, ih]

theorem fillItems_alike (alike : List.Forall₂ Alike as bs) (expected expected' : String)
    (place place' : Position) (draft : σ) (index : Nat) (items : List Node) :
    (fillItems expected' place' draft index bs (items.map Node.bare)).toOption =
      (fillItems expected place draft index as items).toOption := by
  induction alike generalizing draft index items with
  | nil => rfl
  | @cons a b as bs same _ ih =>
    cases items with
    | nil =>
      simp only [List.map_nil, fillItems, same.required]
      split
      · rfl
      · exact ih draft (index + 1) []
    | cons n rest => simp only [List.map_cons, fillItems, toOption_bind, same.fill, ih]

theorem complete_alike (alike : List.Forall₂ Alike as bs) (place place' : Position) (draft : σ) :
    (complete bs place' draft).toOption = (complete as place draft).toOption := by
  induction alike with
  | nil => rfl
  | @cons a b as bs same _ ih =>
    simp only [complete, List.find?_cons, same.required, same.filled] at ih ⊢
    cases a.required && !a.filled draft with
    | true => rfl
    | false => exact ih

/-- A record is read from a bare node as it is read from the node. -/
theorem read_alike (alike : List.Forall₂ Alike as bs) (record : String) (blank : σ) (n : Node) :
    (read record bs blank n.bare).toOption = (read record as blank n).toOption := by
  cases n with
  | object site members =>
    simp only [Node.bare, read, toOption_bind, fillMembers_alike alike site.place]
    exact Option.bind_congr fun draft _ => complete_alike alike _ _ draft
  | array site items =>
    simp only [Node.bare, read, Node.bareItems_eq]
    exact fillItems_alike alike _ _ _ _ blank 0 items
  | _ => simp [Node.bare, read]

end Slot
end Json5
end OpticalAccess
