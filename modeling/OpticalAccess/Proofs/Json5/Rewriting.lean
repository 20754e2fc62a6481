import OpticalAccess.Proofs.Json5.Records

/-!
# Records with a component written anew

Slots of different names do not get in each other's way: in whichever order they are filled, the
draft is the same. So a record in which one component is written anew is read as before, with what
the slot of that component makes of it.
-/

namespace OpticalAccess.Json5

theorem Exchanged.here {name : String} {index : Nat} {m m' n n' : Node}
    (exchanged : Exchanged name index m m' n n') : Exchanged name index m m n n := by
  cases exchanged with
  | member site before after key named => exact .member site before after key named
  | item site before after at_index => exact .item site before after at_index

namespace Slot

/-! ### Laws of slots -/

/-- A slot that can be filled again, and what is in it then does not depend on what was. -/
structure Steady (slot : Slot σ) : Prop where
  fills : ∀ {d e m}, slot.fill d m = .ok e → slot.filled e = true
  again : ∀ {d e m}, slot.fill d m = .ok e → ∀ n, slot.fill e n = slot.fill d n
  anywhere : ∀ {d e m}, slot.fill d m = .ok e → ∀ d', ∃ e', slot.fill d' m = .ok e'

/-- Filling the one slot leaves the other alone, and may as well be done after it. -/
structure Apart (a b : Slot σ) : Prop where
  keeps : ∀ {d e m}, a.fill d m = .ok e → b.filled e = b.filled d
  swap : ∀ {d e f m n}, a.fill d m = .ok e → b.fill e n = .ok f →
    ∃ e', b.fill d n = .ok e' ∧ a.fill e' m = .ok f

structure Lawful (slots : List (Slot σ)) : Prop where
  distinct : (slots.map Slot.name).Nodup
  steady : ∀ slot ∈ slots, slot.Steady
  apart : ∀ a ∈ slots, ∀ b ∈ slots, a.name ≠ b.name → a.Apart b

variable {slots : List (Slot σ)} {place : Position} {draft next last last' : σ} {slot : Slot σ}
  {m m' n n' : Node}

/-! ### Members -/

theorem fillMembers_append_iff {before after : List (Key × Node)} :
    fillMembers slots place draft (before ++ after) = .ok last ↔
      ∃ mid, fillMembers slots place draft before = .ok mid ∧
        fillMembers slots place mid after = .ok last := by
  induction before generalizing draft with
  | nil => simp [fillMembers]
  | cons entry before ih =>
    obtain ⟨key, n⟩ := entry
    simp only [List.cons_append, fillMembers_cons_iff, ih]
    constructor
    · rintro ⟨name, slot, next, named, found, free, taken, mid, first, second⟩
      exact ⟨mid, ⟨name, slot, next, named, found, free, taken, first⟩, second⟩
    · rintro ⟨mid, ⟨name, slot, next, named, found, free, taken, first⟩, second⟩
      exact ⟨name, slot, next, named, found, free, taken, mid, first, second⟩

/-- A slot that is full may be filled again before the other members or after them. -/
theorem fillMembers_refilled (lawful : Lawful slots) (member : slot ∈ slots)
    {rest : List (Key × Node)} (filled : fillMembers slots place draft rest = .ok last)
    (full : slot.filled draft = true) (taken : slot.fill draft m = .ok next) :
    ∃ last', slot.fill last m = .ok last' ∧ fillMembers slots place next rest = .ok last' := by
  induction rest generalizing draft next with
  | nil =>
    obtain rfl := Except.ok.inj filled
    exact ⟨next, taken, rfl⟩
  | cons entry rest ih =>
    obtain ⟨name, other, after, named, found, free, other_taken, filled⟩ :=
      fillMembers_cons_iff.mp filled
    have other_member := List.mem_of_find?_eq_some found
    have names : other.name ≠ slot.name := by
      intro same
      obtain rfl := List.inj_on_of_nodup_map lawful.distinct other_member member same
      rw [full] at free
      cases free
    have apart := lawful.apart other other_member slot member names
    obtain ⟨both, later⟩ := (lawful.steady slot member).anywhere taken after
    obtain ⟨e, first, second⟩ := apart.swap other_taken later
    obtain rfl := Except.ok.inj (taken.symm.trans first)
    obtain ⟨last', refilled, rest_filled⟩ := ih filled (apart.keeps other_taken ▸ full) later
    have free_still : other.filled next = false :=
      (lawful.apart slot member other other_member names.symm).keeps taken ▸ free
    exact ⟨last', refilled, fillMembers_cons_iff.mpr
      ⟨name, other, both, named, found, free_still, second, rest_filled⟩⟩

/-! ### Items -/

variable {expected : String} {index : Nat}

theorem fillItems_refilled (steady : slot.Steady) (apart : ∀ other ∈ slots, other.Apart slot)
    {items : List Node} (filled : fillItems expected place draft index slots items = .ok last)
    (taken : slot.fill draft m = .ok next) :
    ∃ last', slot.fill last m = .ok last' ∧
      fillItems expected place next index slots items = .ok last' := by
  induction slots generalizing draft next index items with
  | nil =>
    rw [fillItems] at filled
    obtain rfl := Except.ok.inj filled
    exact ⟨next, taken, by rw [fillItems]⟩
  | cons other slots ih =>
    obtain ⟨other_apart, apart⟩ := List.forall_mem_cons.mp apart
    cases items with
    | nil =>
      rw [fillItems] at filled ⊢
      split at filled
      · cases filled
      · rename_i optional
        rw [if_neg optional]
        exact ih apart filled taken
    | cons n rest =>
      obtain ⟨after, other_taken, filled⟩ := fillItems_cons_iff.mp filled
      obtain ⟨both, later⟩ := steady.anywhere taken after
      obtain ⟨e, first, second⟩ := other_apart.swap other_taken later
      obtain rfl := Except.ok.inj (taken.symm.trans first)
      obtain ⟨last', refilled, rest_filled⟩ := ih apart filled later
      exact ⟨last', refilled, fillItems_cons_iff.mpr ⟨both, second, rest_filled⟩⟩

theorem fillItems_rewritten (steady : slot.Steady) {before after : List Node}
    (here : slots[before.length]? = some slot)
    (apart : ∀ other ∈ slots.drop (before.length + 1), other.Apart slot)
    (filled : fillItems expected place draft index slots (before ++ m :: after) = .ok last)
    (taken : slot.fill last m' = .ok last') :
    fillItems expected place draft index slots (before ++ m' :: after) = .ok last' := by
  induction before generalizing draft index slots with
  | nil =>
    cases slots with
    | nil => simp at here
    | cons first slots =>
      obtain rfl : first = slot := by simpa using here
      obtain ⟨next, first_taken, filled⟩ := fillItems_cons_iff.mp filled
      obtain ⟨e, again⟩ := steady.anywhere taken next
      obtain ⟨l, refilled, rest_filled⟩ := fillItems_refilled steady apart filled again
      obtain rfl := Except.ok.inj (taken.symm.trans refilled)
      exact fillItems_cons_iff.mpr ⟨e, steady.again first_taken m' ▸ again, rest_filled⟩
  | cons n before ih =>
    cases slots with
    | nil => simp at here
    | cons first slots =>
      obtain ⟨next, first_taken, filled⟩ := fillItems_cons_iff.mp filled
      exact fillItems_cons_iff.mpr
        ⟨next, first_taken, ih (by simpa using here) (by simpa using apart) filled⟩

/-! ### Records -/

theorem complete_iff :
    complete slots place draft = .ok draft ↔
      ∀ slot ∈ slots, slot.required = true → slot.filled draft = true := by
  unfold complete
  cases found : slots.find? fun slot => slot.required && !slot.filled draft with
  | none => simpa using found
  | some slot =>
    have missing := List.find?_some found
    simp only [Bool.and_eq_true, Bool.not_eq_true'] at missing
    refine iff_of_false (fun done => by cases done) fun all => ?_
    rw [all slot (List.mem_of_find?_eq_some found) missing.1] at missing
    cases missing.2

variable {record : String} {blank : σ}

/-- What the slot makes of a component that is written anew is what becomes of the record. -/
theorem read_rewritten (lawful : Lawful slots) (here : slots[index]? = some slot)
    (exchanged : Exchanged slot.name index m m' n n')
    (done : Slot.read record slots blank n = .ok last) (taken : slot.fill last m' = .ok last') :
    Slot.read record slots blank n' = .ok last' := by
  have member := List.mem_of_getElem? here
  have steady := lawful.steady slot member
  cases exchanged with
  | member site before after key named =>
    obtain ⟨filled, completed⟩ := read_object_iff.mp done
    obtain ⟨mid, first, second⟩ := fillMembers_append_iff.mp filled
    obtain ⟨name, slot', next, named', found, free, first_taken, rest⟩ :=
      fillMembers_cons_iff.mp second
    obtain rfl := Except.ok.inj (named.symm.trans named')
    obtain rfl := Option.some.inj ((find?_of_nodup_map lawful.distinct member).symm.trans found)
    obtain ⟨e, again⟩ := steady.anywhere taken next
    obtain ⟨l, refilled, rest_filled⟩ :=
      fillMembers_refilled lawful member rest (steady.fills first_taken) again
    obtain rfl := Except.ok.inj (taken.symm.trans refilled)
    refine read_object_iff.mpr ⟨fillMembers_append_iff.mpr ⟨mid, first, ?_⟩, ?_⟩
    · exact fillMembers_cons_iff.mpr ⟨_, slot, e, named, found, free,
        steady.again first_taken m' ▸ again, rest_filled⟩
    · refine complete_iff.mpr fun other other_member required => ?_
      by_cases same : other.name = slot.name
      · obtain rfl := List.inj_on_of_nodup_map lawful.distinct other_member member same
        exact steady.fills taken
      · rw [(lawful.apart slot member other other_member (Ne.symm same)).keeps taken]
        exact complete_iff.mp completed other other_member required
  | item site before after at_index =>
    subst at_index
    refine fillItems_rewritten steady here (fun other later => ?_) done taken
    exact lawful.apart other (List.mem_of_mem_drop later) slot member
      (name_ne_of_later lawful.distinct here later)

theorem read_rewritten_iff (lawful : Lawful slots) (here : slots[index]? = some slot)
    (exchanged : Exchanged slot.name index m m' n n')
    (done : Slot.read record slots blank n = .ok last) :
    Slot.read record slots blank n' = .ok last' ↔ slot.fill last m' = .ok last' := by
  constructor
  · intro done'
    obtain ⟨d, e, taken, -⟩ := read_component lawful.distinct here exchanged.there done'
    obtain ⟨l, again⟩ := (lawful.steady slot (List.mem_of_getElem? here)).anywhere taken last
    have same := read_rewritten lawful here exchanged done again
    obtain rfl := Except.ok.inj (done'.symm.trans same)
    exact again
  · exact read_rewritten lawful here exchanged done

end Slot
end OpticalAccess.Json5
