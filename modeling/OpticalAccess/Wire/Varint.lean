import OpticalAccess.Frame

/-!
# Variable-length integers

A number is written in groups of seven bits, lowest first; every byte but the last has its high
bit set. Readers take at most ten bytes, which hold 64 bits.
-/

namespace OpticalAccess.Wire

abbrev Reader (α : Type) : Type := Bytes → Option (α × Bytes)

def varint (n : Nat) : Bytes :=
  if n < 128 then [UInt8.ofNat n] else UInt8.ofNat (n % 128 + 128) :: varint (n / 128)

/-- Reads at most `left + 1` groups; the last of them may hold one bit only. -/
def readVarintWithin : (left : Nat) → Reader Nat
  | _, [] => none
  | left, b :: rest =>
    if b < 128 then
      if left = 0 ∧ 2 ≤ b then none else some (b.toNat, rest)
    else
      match left with
      | 0 => none
      | left + 1 =>
        match readVarintWithin left rest with
        | none => none
        | some (n, rest) => some (b.toNat - 128 + 128 * n, rest)

def readVarint : Reader Nat := readVarintWithin 9

theorem length_readVarintWithin {left : Nat} {bytes rest : Bytes} {n : Nat}
    (h : readVarintWithin left bytes = some (n, rest)) : rest.length < bytes.length := by
  induction left generalizing bytes n rest with
  | zero =>
    cases bytes with
    | nil => simp [readVarintWithin] at h
    | cons b bytes =>
      simp only [readVarintWithin] at h
      split at h
      · split at h
        · simp at h
        · simp only [Option.some.injEq, Prod.mk.injEq] at h
          simp [h.2]
      · simp at h
  | succ left ih =>
    cases bytes with
    | nil => simp [readVarintWithin] at h
    | cons b bytes =>
      simp only [readVarintWithin] at h
      split at h
      · split at h
        · simp at h
        · simp only [Option.some.injEq, Prod.mk.injEq] at h
          simp [h.2]
      · split at h
        · simp at h
        · next m tail heq =>
          simp only [Option.some.injEq, Prod.mk.injEq] at h
          have := ih heq
          rw [← h.2, List.length_cons]
          omega

theorem length_readVarint {bytes rest : Bytes} {n : Nat} (h : readVarint bytes = some (n, rest)) :
    rest.length < bytes.length :=
  length_readVarintWithin h

end OpticalAccess.Wire
