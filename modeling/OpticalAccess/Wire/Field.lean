import OpticalAccess.Wire.Varint

/-!
# Fields on the wire

A message is written as a list of fields. A field has a number and a value of one of five shapes;
a group's content is checked and dropped.
-/

namespace OpticalAccess.Wire

inductive Value where
  | varint (n : Nat)
  | fixed64 (content : Bytes)
  | delimited (content : Bytes)
  | group
  | fixed32 (content : Bytes)
  deriving DecidableEq, Repr

structure Field where
  number : Nat
  value : Value
  deriving DecidableEq, Repr

namespace Value

def shape : Value → Nat
  | varint _ => 0
  | fixed64 _ => 1
  | delimited _ => 2
  | group => 3
  | fixed32 _ => 5

end Value

def groupEnd : Nat := 4

def key (number shape : Nat) : Bytes := varint (8 * number + shape)

def Field.bytes (f : Field) : Bytes :=
  key f.number f.value.shape ++
    match f.value with
    | .varint n => varint n
    | .fixed64 content => content
    | .delimited content => varint content.length ++ content
    | .group => key f.number groupEnd
    | .fixed32 content => content

def readKey : Reader (Nat × Nat) := fun bytes =>
  match readVarint bytes with
  | none => none
  | some (k, rest) =>
    if k < 0x100000000 ∧ 8 ≤ k ∧ k % 8 ≤ 5 then some ((k / 8, k % 8), rest) else none

theorem length_readKey {bytes rest : Bytes} {p : Nat × Nat} (h : readKey bytes = some (p, rest)) :
    rest.length < bytes.length := by
  unfold readKey at h
  split at h
  · simp at h
  · next k tail heq =>
    split at h
    · simp only [Option.some.injEq, Prod.mk.injEq] at h
      exact h.2 ▸ length_readVarint heq
    · simp at h

def readBytes (n : Nat) : Reader Bytes := fun bytes =>
  if n ≤ bytes.length then some (bytes.take n, bytes.drop n) else none

def readPlain (shape : Nat) : Reader Value := fun bytes =>
  match shape with
  | 0 => (readVarint bytes).map fun (n, rest) => (.varint n, rest)
  | 1 => (readBytes 8 bytes).map fun (content, rest) => (.fixed64 content, rest)
  | 2 =>
    match readVarint bytes with
    | none => none
    | some (n, rest) => (readBytes n rest).map fun (content, rest) => (.delimited content, rest)
  | 5 => (readBytes 4 bytes).map fun (content, rest) => (.fixed32 content, rest)
  | _ => none

theorem length_readBytes {n : Nat} {bytes rest content : Bytes}
    (h : readBytes n bytes = some (content, rest)) : rest.length ≤ bytes.length := by
  unfold readBytes at h
  split at h
  · simp only [Option.some.injEq, Prod.mk.injEq] at h
    simp [← h.2]
  · simp at h

theorem length_readPlain {shape : Nat} {bytes rest : Bytes} {v : Value}
    (h : readPlain shape bytes = some (v, rest)) : rest.length ≤ bytes.length := by
  unfold readPlain at h
  split at h
  · obtain ⟨⟨n, tail⟩, hr, he⟩ := Option.map_eq_some_iff.1 h
    simp only [Prod.mk.injEq] at he
    exact he.2 ▸ Nat.le_of_lt (length_readVarint hr)
  · obtain ⟨⟨n, tail⟩, hr, he⟩ := Option.map_eq_some_iff.1 h
    simp only [Prod.mk.injEq] at he
    exact he.2 ▸ length_readBytes hr
  · split at h
    · simp at h
    · next n tail heq =>
      obtain ⟨⟨m, last⟩, hr, he⟩ := Option.map_eq_some_iff.1 h
      simp only [Prod.mk.injEq] at he
      exact he.2 ▸ Nat.le_trans (length_readBytes hr) (Nat.le_of_lt (length_readVarint heq))
  · obtain ⟨⟨n, tail⟩, hr, he⟩ := Option.map_eq_some_iff.1 h
    simp only [Prod.mk.injEq] at he
    exact he.2 ▸ length_readBytes hr
  · simp at h

/--
The bytes after the groups whose numbers are given, innermost first. At most `limit` groups may be
open at once, and in the innermost of them no value may stand.
-/
def skipGroups (limit : Nat) (opened : List Nat) (bytes : Bytes) : Option Bytes :=
  match opened with
  | [] => some bytes
  | number :: outer =>
    match _hk : readKey bytes with
    | none => none
    | some ((n, shape), rest) =>
      if shape = groupEnd then
        if n = number then skipGroups limit outer rest else none
      else if limit ≤ opened.length then none
      else if shape = 3 then skipGroups limit (n :: opened) rest
      else
        match _hp : readPlain shape rest with
        | none => none
        | some (_, rest) => skipGroups limit opened rest
termination_by bytes.length
decreasing_by
  · exact length_readKey _hk
  · exact length_readKey _hk
  · exact Nat.lt_of_le_of_lt (length_readPlain _hp) (length_readKey _hk)

theorem length_skipGroups {limit : Nat} {opened : List Nat} {bytes rest : Bytes}
    (h : skipGroups limit opened bytes = some rest) : rest.length ≤ bytes.length := by
  induction hn : bytes.length using Nat.strongRecOn generalizing opened bytes with
  | ind n ih =>
    subst hn
    cases opened with
    | nil => simp only [skipGroups, Option.some.injEq] at h; simp [h]
    | cons number outer =>
      rw [skipGroups] at h
      split at h
      · simp at h
      · next hk =>
        have shorter := length_readKey hk
        split at h
        · split at h
          · exact Nat.le_trans (ih _ shorter h rfl) (Nat.le_of_lt shorter)
          · simp at h
        · split at h
          · simp at h
          · split at h
            · exact Nat.le_trans (ih _ shorter h rfl) (Nat.le_of_lt shorter)
            · split at h
              · simp at h
              · next hp =>
                have := length_readPlain hp
                exact Nat.le_trans (ih _ (by omega) h rfl) (by omega)

def readField (limit : Nat) : Reader Field := fun bytes =>
  match readKey bytes with
  | none => none
  | some ((number, shape), rest) =>
    if shape = 3 then (skipGroups limit [number] rest).map fun rest => (⟨number, .group⟩, rest)
    else (readPlain shape rest).map fun (value, rest) => (⟨number, value⟩, rest)

theorem length_readField {limit : Nat} {bytes rest : Bytes} {f : Field}
    (h : readField limit bytes = some (f, rest)) : rest.length < bytes.length := by
  unfold readField at h
  split at h
  · simp at h
  · next hk =>
    split at h
    · obtain ⟨tail, hr, he⟩ := Option.map_eq_some_iff.1 h
      simp only [Prod.mk.injEq] at he
      exact he.2 ▸ Nat.lt_of_le_of_lt (length_skipGroups hr) (length_readKey hk)
    · obtain ⟨⟨v, tail⟩, hr, he⟩ := Option.map_eq_some_iff.1 h
      simp only [Prod.mk.injEq] at he
      exact he.2 ▸ Nat.lt_of_le_of_lt (length_readPlain hr) (length_readKey hk)

def readFields (limit : Nat) (bytes : Bytes) : Option (List Field) :=
  if bytes.isEmpty then some []
  else
    match _h : readField limit bytes with
    | none => none
    | some (f, rest) => (readFields limit rest).map (f :: ·)
termination_by bytes.length
decreasing_by exact length_readField _h

end OpticalAccess.Wire
