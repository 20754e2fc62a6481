import Mathlib.Data.List.Perm.Basic
import OpticalAccess.Proofs.Json5.Rewriting

/-!
# Records without an order

Members fill slots of their own, so the order of the members of an object does not matter to the
record that is read. Neither does a member that says what the record would say without it.
-/

namespace OpticalAccess

/-- A fold may take its items in any order if it may take any two of them in either order. -/
theorem foldlM_perm {f : σ → α → Except ε σ}
    (swap : ∀ {d e r a b}, f d a = .ok e → f e b = .ok r → ∃ e', f d b = .ok e' ∧ f e' a = .ok r)
    {items items' : List α} (perm : items.Perm items') {d r : σ}
    (done : items.foldlM f d = .ok r) : items'.foldlM f d = .ok r := by
  have cons_iff {d : σ} {a : α} {rest : List α} : (a :: rest).foldlM f d = .ok r ↔
      ∃ e, f d a = .ok e ∧ rest.foldlM f e = .ok r := by
    rw [List.foldlM_cons]
    cases f d a <;> simp [bind, Except.bind]
  induction perm generalizing d with
  | nil => exact done
  | cons a _ ih =>
    obtain ⟨e, taken, rest⟩ := cons_iff.mp done
    exact cons_iff.mpr ⟨e, taken, ih rest⟩
  | swap a b rest =>
    obtain ⟨e, first, done⟩ := cons_iff.mp done
    obtain ⟨e₂, second, rest⟩ := cons_iff.mp done
    obtain ⟨e', second, first⟩ := swap first second
    exact cons_iff.mpr ⟨e', second, cons_iff.mpr ⟨e₂, first, rest⟩⟩
  | trans _ _ ih ih' => exact ih' (ih done)

namespace Json5

namespace Slot

variable {slots : List (Slot σ)} {place : Position} {draft last last' : σ} {slot : Slot σ}
  {members members' before after : List (Key × Node)} {key : Key} {value : Node}

/-! ### Orders -/

theorem fillMembers_eq_ok_iff : fillMembers slots place draft members = .ok last ↔
    members.foldlM (fun draft entry => fillMembers slots place draft [entry]) draft = .ok last := by
  induction members generalizing draft with
  | nil => rfl
  | cons entry rest ih =>
    rw [← List.singleton_append, fillMembers_append_iff, List.singleton_append, List.foldlM_cons]
    cases fillMembers slots place draft [entry] <;> simp [bind, Except.bind, ih]

theorem fillMembers_swap (lawful : Lawful slots) {mid : σ} {a b : Key × Node}
    (first : fillMembers slots place draft [a] = .ok mid)
    (second : fillMembers slots place mid [b] = .ok last) :
    ∃ mid', fillMembers slots place draft [b] = .ok mid' ∧
      fillMembers slots place mid' [a] = .ok last := by
  obtain ⟨name, slot, next, named, found, free, taken, done⟩ := fillMembers_cons_iff.mp first
  obtain rfl := Except.ok.inj done
  obtain ⟨name', slot', next', named', found', free', taken', done⟩ :=
    fillMembers_cons_iff.mp second
  obtain rfl := Except.ok.inj done
  have member := List.mem_of_find?_eq_some found
  have member' := List.mem_of_find?_eq_some found'
  -- A second member of the same name would have been refused, since the slot was filled then.
  have apart : slot.name ≠ slot'.name := by
    intro same
    obtain rfl := List.inj_on_of_nodup_map lawful.distinct member member' same
    rw [(lawful.steady slot member).fills taken] at free'
    cases free'
  obtain ⟨mid', early, late⟩ := (lawful.apart slot member slot' member' apart).swap taken taken'
  have still_free' : slot'.filled draft = false :=
    (lawful.apart slot member slot' member' apart).keeps taken ▸ free'
  have still_free : slot.filled mid' = false :=
    (lawful.apart slot' member' slot member apart.symm).keeps early ▸ free
  refine ⟨mid', ?_, ?_⟩
  · exact fillMembers_cons_iff.mpr ⟨name', slot', mid', named', found', still_free', early, rfl⟩
  · exact fillMembers_cons_iff.mpr ⟨name, slot, next', named, found, still_free, late, rfl⟩

theorem fillMembers_perm (lawful : Lawful slots) (perm : members.Perm members')
    (filled : fillMembers slots place draft members = .ok last) :
    fillMembers slots place draft members' = .ok last := by
  rw [fillMembers_eq_ok_iff] at filled ⊢
  refine foldlM_perm (fun first second => ?_) perm filled
  exact fillMembers_swap lawful first second

/-- A member may as well be the last one. -/
theorem fillMembers_inserted_iff (lawful : Lawful slots) (member : slot ∈ slots)
    (named : key.text = .ok slot.name) :
    fillMembers slots place draft (before ++ (key, value) :: after) = .ok last' ↔
      ∃ last, fillMembers slots place draft (before ++ after) = .ok last ∧
        slot.filled last = false ∧ slot.fill last value = .ok last' := by
  have moved : (before ++ (key, value) :: after).Perm (before ++ after ++ [(key, value)]) :=
    List.perm_middle.trans (List.perm_append_singleton _ _).symm
  have found := find?_of_nodup_map lawful.distinct member
  constructor
  · intro filled
    obtain ⟨last, others, filled⟩ :=
      fillMembers_append_iff.mp (fillMembers_perm lawful moved filled)
    obtain ⟨name, slot', next, named', found', free, taken, done⟩ := fillMembers_cons_iff.mp filled
    obtain rfl := Except.ok.inj done
    obtain rfl := Except.ok.inj (named.symm.trans named')
    obtain rfl := Option.some.inj (found.symm.trans found')
    exact ⟨last, others, free, taken⟩
  · rintro ⟨last, others, free, taken⟩
    refine fillMembers_perm lawful moved.symm (fillMembers_append_iff.mpr ⟨last, others, ?_⟩)
    exact fillMembers_cons_iff.mpr ⟨slot.name, slot, last', named, found, free, taken, rfl⟩

theorem filled_of_unnamed (lawful : Lawful slots) (member : slot ∈ slots)
    (unnamed : ∀ entry ∈ members, entry.1.text ≠ .ok slot.name)
    (filled : fillMembers slots place draft members = .ok last) :
    slot.filled last = slot.filled draft := by
  induction members generalizing draft with
  | nil => rw [Except.ok.inj filled]
  | cons entry rest ih =>
    obtain ⟨other_named, unnamed⟩ := List.forall_mem_cons.mp unnamed
    obtain ⟨name, other, next, named, found, -, taken, filled⟩ := fillMembers_cons_iff.mp filled
    have known : other.name = name := by simpa using List.find?_some found
    have apart : other.name ≠ slot.name := fun same => other_named (same ▸ known ▸ named)
    rw [ih unnamed filled]
    exact (lawful.apart other (List.mem_of_find?_eq_some found) slot member apart).keeps taken

/-! ### Members that say nothing -/

/-- A value that may as well be left out of a record: the slot need not be filled with it. -/
structure Neutral (slot : Slot σ) (build : σ → β) (value : Node) : Prop where
  optional : slot.required = false
  taken : ∀ draft, ∃ next, slot.fill draft value = .ok next
  built : ∀ {draft next}, slot.filled draft = false → slot.fill draft value = .ok next →
    build next = build draft

variable {record : String} {blank : σ} {build : σ → β} {site : Site}

theorem complete_filled_iff (lawful : Lawful slots) (member : slot ∈ slots)
    (optional : slot.required = false) (taken : slot.fill last value = .ok last') :
    complete slots place last' = .ok last' ↔ complete slots place last = .ok last := by
  rw [complete_iff, complete_iff]
  refine forall₂_congr fun other other_member => imp_congr_right fun required => ?_
  have apart : slot.name ≠ other.name := by
    intro same
    obtain rfl := List.inj_on_of_nodup_map lawful.distinct member other_member same
    rw [optional] at required
    cases required
  rw [(lawful.apart slot member other other_member apart).keeps taken]

/-- An optional member is taken when the rest of the object has been read. -/
theorem read_inserted_iff (lawful : Lawful slots) (member : slot ∈ slots)
    (named : key.text = .ok slot.name) (optional : slot.required = false) :
    read record slots blank (.object site (before ++ (key, value) :: after)) = .ok last' ↔
      ∃ last, read record slots blank (.object site (before ++ after)) = .ok last ∧
        slot.filled last = false ∧ slot.fill last value = .ok last' := by
  simp only [read_object_iff, fillMembers_inserted_iff lawful member named]
  constructor
  · rintro ⟨⟨last, filled, free, taken⟩, completed⟩
    exact ⟨last, ⟨filled, (complete_filled_iff lawful member optional taken).mp completed⟩, free,
      taken⟩
  · rintro ⟨last, ⟨filled, completed⟩, free, taken⟩
    exact ⟨⟨last, filled, free, taken⟩,
      (complete_filled_iff lawful member optional taken).mpr completed⟩

end Slot

/--
The second object is the first one with its members in another order, or with a member more or less
that says what is standard.
-/
inductive Restated (standard : String → Node → Prop) : Node → Node → Prop where
  | reordered (site : Site) (members members' : List (Key × Node)) (perm : members.Perm members') :
      Restated standard (.object site members) (.object site members')
  | added (site : Site) (before after : List (Key × Node)) (key : Key) (value : Node)
      (name : String) (named : key.text = .ok name)
      (absent : ∀ entry ∈ before ++ after, entry.1.text ≠ .ok name)
      (plain : standard name value) :
      Restated standard (.object site (before ++ after))
        (.object site (before ++ (key, value) :: after))
  | removed (site : Site) (before after : List (Key × Node)) (key : Key) (value : Node)
      (name : String) (named : key.text = .ok name) (plain : standard name value) :
      Restated standard (.object site (before ++ (key, value) :: after))
        (.object site (before ++ after))

theorem Slot.read_restated {slots : List (Slot σ)} (lawful : Lawful slots) {record : String}
    {blank last : σ} {build : σ → β} {standard : String → Node → Prop}
    (free : ∀ slot ∈ slots, slot.filled blank = false)
    (neutral : ∀ name value, standard name value →
      ∃ slot ∈ slots, slot.name = name ∧ slot.Neutral build value)
    {n n' : Node} (restated : Restated standard n n')
    (done : read record slots blank n = .ok last) :
    ∃ last', read record slots blank n' = .ok last' ∧ build last' = build last := by
  cases restated with
  | reordered site members members' perm =>
    obtain ⟨filled, completed⟩ := read_object_iff.mp done
    exact ⟨last, read_object_iff.mpr ⟨fillMembers_perm lawful perm filled, completed⟩, rfl⟩
  | added site before after key value name named absent plain =>
    -- Nothing else names the slot, so it is still free when all others have been read.
    obtain ⟨slot, member, rfl, neutral⟩ := neutral name value plain
    obtain ⟨next, taken⟩ := neutral.taken last
    have open_still : slot.filled last = false := by
      rw [filled_of_unnamed lawful member absent (read_object_iff.mp done).1, free slot member]
    exact ⟨next, (read_inserted_iff lawful member named neutral.optional).mpr
      ⟨last, done, open_still, taken⟩, neutral.built open_still taken⟩
  | removed site before after key value name named plain =>
    obtain ⟨slot, member, rfl, neutral⟩ := neutral name value plain
    obtain ⟨first, done, open_still, taken⟩ :=
      (read_inserted_iff lawful member named neutral.optional).mp done
    exact ⟨first, done, (neutral.built open_still taken).symm⟩

end Json5
end OpticalAccess
