import Mathlib.Data.List.Nodup

/-!
# Looking up by a key

Children are looked up by their ports, nodes by their names and slots by their keys, in lists where
no two entries have the same one.
-/

namespace OpticalAccess

/-- The first entry that has the key of a member is that member. -/
theorem find?_of_nodup_map [DecidableEq β] {f : α → β} {l : List α} (distinct : (l.map f).Nodup)
    {a : α} (member : a ∈ l) : l.find? (fun b => f b = f a) = some a := by
  cases found : l.find? fun b => f b = f a with
  | none => simpa using List.find?_eq_none.mp found a member
  | some b =>
    have same : f b = f a := by simpa using List.find?_some found
    rw [List.inj_on_of_nodup_map distinct (List.mem_of_find?_eq_some found) member same]

end OpticalAccess
