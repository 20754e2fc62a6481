import OpticalAccess.Proofs.Json5.Bare
import OpticalAccess.Proofs.Lookup

/-!
# Records and their components

A record that is read has keys that name its slots, and the slot of a component has taken it. So it
is enough to know what the slot makes of a component to know what becomes of the record when it is
exchanged for another one.
-/

namespace OpticalAccess.Json5

/--
The second node is the first one with `m'` for the component `m`: the member of some name in an
object, or the item at some index in an array.
-/
inductive Exchanged (name : String) (index : Nat) (m m' : Node) : Node → Node → Prop where
  | member (site : Site) (before after : List (Key × Node)) (key : Key)
      (named : key.text = .ok name) :
      Exchanged name index m m' (.object site (before ++ (key, m) :: after))
        (.object site (before ++ (key, m') :: after))
  | item (site : Site) (before after : List Node) (at_index : before.length = index) :
      Exchanged name index m m' (.array site (before ++ m :: after))
        (.array site (before ++ m' :: after))

theorem Exchanged.there {name : String} {index : Nat} {m m' n n' : Node}
    (exchanged : Exchanged name index m m' n n') : Exchanged name index m' m' n' n' := by
  cases exchanged with
  | member site before after key named => exact .member site before after key named
  | item site before after at_index => exact .item site before after at_index

namespace Slot

variable {slots : List (Slot σ)} {place : Position} {draft last : σ}

/-! ### Members -/

theorem fillMembers_cons_iff {key : Key} {n : Node} {rest : List (Key × Node)} :
    fillMembers slots place draft ((key, n) :: rest) = .ok last ↔
      ∃ name slot next, key.text = .ok name ∧ slots.find? (·.name = name) = some slot ∧
        slot.filled draft = false ∧ slot.fill draft n = .ok next ∧
        fillMembers slots place next rest = .ok last := by
  rw [fillMembers]
  constructor
  · intro done
    cases named : key.text with
    | error fault => simp [named, bind, Except.bind] at done
    | ok name =>
      simp only [named, bind, Except.bind] at done
      split at done
      · cases done
      · rename_i slot found
        cases filled : slot.filled draft with
        | true => simp [filled, throw, throwThe, MonadExceptOf.throw] at done
        | false =>
          cases taken : slot.fill draft n with
          | error fault => simp [filled, taken] at done
          | ok next =>
            simp only [filled, taken, Bool.false_eq_true, if_false] at done
            exact ⟨name, slot, next, rfl, found, filled, taken, done⟩
  · rintro ⟨name, slot, next, named, found, filled, taken, done⟩
    simp [named, found, filled, taken, done, bind, Except.bind]

theorem fillMembers_keeps {P : σ → Prop} {members : List (Key × Node)}
    (keeps : ∀ slot ∈ slots, ∀ draft n next, slot.filled draft = false →
      slot.fill draft n = .ok next → P draft → P next)
    (filled : fillMembers slots place draft members = .ok last) (start : P draft) : P last := by
  induction members generalizing draft with
  | nil => exact Except.ok.inj filled ▸ start
  | cons entry rest ih =>
    obtain ⟨name, slot, next, -, found, free, taken, filled⟩ := fillMembers_cons_iff.mp filled
    exact ih filled (keeps slot (List.mem_of_find?_eq_some found) _ _ _ free taken start)

theorem fillMembers_component {name : String} {slot : Slot σ} {key : Key} {m : Node}
    {before after : List (Key × Node)} (named : key.text = .ok name)
    (found : slots.find? (·.name = name) = some slot)
    (filled : fillMembers slots place draft (before ++ (key, m) :: after) = .ok last) :
    ∃ draft next, slot.fill draft m = .ok next ∧
      fillMembers slots place next after = .ok last := by
  induction before generalizing draft with
  | nil =>
    obtain ⟨name', slot', next, named', found', -, taken, filled⟩ := fillMembers_cons_iff.mp filled
    obtain rfl := Except.ok.inj (named.symm.trans named')
    obtain rfl := Option.some.inj (found.symm.trans found')
    exact ⟨draft, next, taken, filled⟩
  | cons entry before ih =>
    obtain ⟨-, -, next, -, -, -, -, filled⟩ := fillMembers_cons_iff.mp filled
    exact ih filled

theorem fillMembers_exchanged {name : String} {slot : Slot σ} {key : Key} {m m' : Node}
    {before after : List (Key × Node)} (named : key.text = .ok name)
    (found : slots.find? (·.name = name) = some slot)
    (same : ∀ draft next, slot.fill draft m = .ok next → slot.fill draft m' = .ok next)
    (filled : fillMembers slots place draft (before ++ (key, m) :: after) = .ok last) :
    fillMembers slots place draft (before ++ (key, m') :: after) = .ok last := by
  induction before generalizing draft with
  | nil =>
    obtain ⟨name', slot', next, named', found', free, taken, filled⟩ :=
      fillMembers_cons_iff.mp filled
    obtain rfl := Except.ok.inj (named.symm.trans named')
    obtain rfl := Option.some.inj (found.symm.trans found')
    exact fillMembers_cons_iff.mpr
      ⟨name, slot, next, named, found, free, same _ _ taken, filled⟩
  | cons entry before ih =>
    obtain ⟨name', slot', next, named', found', free, taken, filled⟩ :=
      fillMembers_cons_iff.mp filled
    exact fillMembers_cons_iff.mpr ⟨name', slot', next, named', found', free, taken, ih filled⟩

theorem fillMembers_keys {members : List (Key × Node)}
    (filled : fillMembers slots place draft members = .ok last) :
    ∀ entry ∈ members, ∃ name ∈ slots.map Slot.name, entry.1.text = .ok name := by
  induction members generalizing draft with
  | nil => simp
  | cons entry rest ih =>
    obtain ⟨name, slot, next, named, found, -, -, filled⟩ := fillMembers_cons_iff.mp filled
    have known : slot.name = name := by simpa using List.find?_some found
    have member := List.mem_map_of_mem (f := Slot.name) (List.mem_of_find?_eq_some found)
    exact List.forall_mem_cons.mpr ⟨⟨name, known ▸ member, named⟩, ih filled⟩

/-! ### Items -/

variable {expected : String} {index : Nat}

theorem fillItems_cons_iff {slot : Slot σ} {n : Node} {rest : List Node} :
    fillItems expected place draft index (slot :: slots) (n :: rest) = .ok last ↔
      ∃ next, slot.fill draft n = .ok next ∧
        fillItems expected place next (index + 1) slots rest = .ok last := by
  rw [fillItems]
  cases slot.fill draft n <;> simp [bind, Except.bind]

theorem fillItems_keeps {P : σ → Prop} {items : List Node}
    (keeps : ∀ slot ∈ slots, ∀ draft n next, slot.fill draft n = .ok next → P draft → P next)
    (filled : fillItems expected place draft index slots items = .ok last) (start : P draft) :
    P last := by
  induction slots generalizing draft index items with
  | nil =>
    rw [fillItems] at filled
    exact Except.ok.inj filled ▸ start
  | cons slot slots ih =>
    obtain ⟨here, others⟩ := List.forall_mem_cons.mp keeps
    cases items with
    | nil =>
      rw [fillItems] at filled
      split at filled
      · cases filled
      · exact ih others filled start
    | cons n rest =>
      obtain ⟨next, taken, filled⟩ := fillItems_cons_iff.mp filled
      exact ih others filled (here _ _ _ taken start)

theorem fillItems_component {slot : Slot σ} {m : Node} {before after : List Node}
    (here : slots[before.length]? = some slot)
    (filled : fillItems expected place draft index slots (before ++ m :: after) = .ok last) :
    ∃ draft next, slot.fill draft m = .ok next ∧
      ∃ index, fillItems expected place next index (slots.drop (before.length + 1)) after =
        .ok last := by
  induction before generalizing draft index slots with
  | nil =>
    cases slots with
    | nil => simp at here
    | cons first slots =>
      obtain rfl : first = slot := by simpa using here
      obtain ⟨next, taken, filled⟩ := fillItems_cons_iff.mp filled
      exact ⟨draft, next, taken, index + 1, filled⟩
  | cons n before ih =>
    cases slots with
    | nil => simp at here
    | cons first slots =>
      obtain ⟨next, -, filled⟩ := fillItems_cons_iff.mp filled
      exact ih (by simpa using here) filled

theorem fillItems_exchanged {slot : Slot σ} {m m' : Node} {before after : List Node}
    (here : slots[before.length]? = some slot)
    (same : ∀ draft next, slot.fill draft m = .ok next → slot.fill draft m' = .ok next)
    (filled : fillItems expected place draft index slots (before ++ m :: after) = .ok last) :
    fillItems expected place draft index slots (before ++ m' :: after) = .ok last := by
  induction before generalizing draft index slots with
  | nil =>
    cases slots with
    | nil => simp at here
    | cons first slots =>
      obtain rfl : first = slot := by simpa using here
      obtain ⟨next, taken, filled⟩ := fillItems_cons_iff.mp filled
      exact fillItems_cons_iff.mpr ⟨next, same _ _ taken, filled⟩
  | cons n before ih =>
    cases slots with
    | nil => simp at here
    | cons first slots =>
      obtain ⟨next, taken, filled⟩ := fillItems_cons_iff.mp filled
      exact fillItems_cons_iff.mpr ⟨next, taken, ih (by simpa using here) filled⟩

/-! ### Records -/

theorem complete_eq (completed : complete slots place draft = .ok last) : last = draft := by
  unfold complete at completed
  split at completed
  · cases completed
  · exact (Except.ok.inj completed).symm

theorem read_object_iff {record : String} {blank : σ} {site : Site}
    {members : List (Key × Node)} :
    Slot.read record slots blank (.object site members) = .ok last ↔
      fillMembers slots site.place blank members = .ok last ∧
        complete slots site.place last = .ok last := by
  rw [Slot.read]
  cases filled : fillMembers slots site.place blank members with
  | error fault => simp [bind, Except.bind]
  | ok draft =>
    simp only [bind, Except.bind, Except.ok.injEq]
    constructor
    · intro completed
      obtain rfl := complete_eq completed
      exact ⟨rfl, completed⟩
    · rintro ⟨rfl, completed⟩
      exact completed

/-- An object that is read has keys that name slots, and no others. -/
theorem read_keys {record : String} {blank : σ} {site : Site} {members : List (Key × Node)}
    (done : Slot.read record slots blank (.object site members) = .ok last) :
    ∀ entry ∈ members, ∃ name ∈ slots.map Slot.name, entry.1.text = .ok name :=
  fillMembers_keys (read_object_iff.mp done).1

/-- Names are distinct, so the slots behind a slot have other names. -/
theorem name_ne_of_later {slot other : Slot σ} (distinct : (slots.map Slot.name).Nodup)
    (here : slots[index]? = some slot) (later : other ∈ slots.drop (index + 1)) :
    other.name ≠ slot.name := by
  intro same
  obtain ⟨i, at_i⟩ := List.mem_iff_getElem?.mp later
  rw [List.getElem?_drop] at at_i
  have bound : index < (slots.map Slot.name).length := by
    rw [List.length_map]
    exact (List.getElem?_eq_some_iff.mp here).1
  have twice : index = index + 1 + i :=
    (List.getElem?_inj bound distinct).mp (by simp [at_i, here, same])
  omega

variable {record : String} {blank : σ} {slot : Slot σ} {m m' n n' : Node}

/-- The slot of a component has taken it, and what it made of it was left alone from then on. -/
theorem read_component (distinct : (slots.map Slot.name).Nodup) (here : slots[index]? = some slot)
    (exchanged : Exchanged slot.name index m m' n n')
    (done : Slot.read record slots blank n = .ok last) :
    ∃ draft next, slot.fill draft m = .ok next ∧
      ∀ P : σ → Prop, (∀ draft, P draft → slot.filled draft = true) →
        (∀ other ∈ slots, other.name ≠ slot.name → ∀ draft n next,
          other.fill draft n = .ok next → P draft → P next) →
        P next → P last := by
  cases exchanged with
  | member site before after key named =>
    have found := find?_of_nodup_map distinct (List.mem_of_getElem? here)
    obtain ⟨draft, next, taken, filled⟩ :=
      fillMembers_component named found (read_object_iff.mp done).1
    refine ⟨draft, next, taken, fun P full keeps start => fillMembers_keeps ?_ filled start⟩
    intro other member draft n next free taken holds
    -- The slot is filled from here on, so that a member that it takes later is a duplicate.
    refine keeps other member (fun name => ?_) draft n next taken holds
    have same := List.inj_on_of_nodup_map distinct member (List.mem_of_getElem? here) name
    rw [same, full draft holds] at free
    cases free
  | item site before after at_index =>
    subst at_index
    obtain ⟨draft, next, taken, index, filled⟩ := fillItems_component here done
    refine ⟨draft, next, taken, fun P _ keeps start => fillItems_keeps ?_ filled start⟩
    intro other later draft n next taken holds
    exact keeps other (List.mem_of_mem_drop later) (name_ne_of_later distinct here later) draft n
      next taken holds

theorem read_exchanged (distinct : (slots.map Slot.name).Nodup) (here : slots[index]? = some slot)
    (exchanged : Exchanged slot.name index m m' n n')
    (same : ∀ draft next, slot.fill draft m = .ok next → slot.fill draft m' = .ok next)
    (done : Slot.read record slots blank n = .ok last) :
    Slot.read record slots blank n' = .ok last := by
  cases exchanged with
  | member site before after key named =>
    obtain ⟨filled, completed⟩ := read_object_iff.mp done
    have found := find?_of_nodup_map distinct (List.mem_of_getElem? here)
    exact read_object_iff.mpr ⟨fillMembers_exchanged named found same filled, completed⟩
  | item site before after at_index =>
    subst at_index
    exact fillItems_exchanged here same done

end Slot
end OpticalAccess.Json5
