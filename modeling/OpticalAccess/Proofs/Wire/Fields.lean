import OpticalAccess.Wire.Codec
import Mathlib.Algebra.Group.Nat.Defs

/-!
# Reading what was written

Numbers of 64 bits, keys and fields are read back as they were written, and what stands behind them
is left as it is. A row of fields is read back field by field.
-/

namespace OpticalAccess.Wire

/-- Numbers from here on take more than 64 bits. -/
def wordBound : Nat := 0x10000000000000000

/-! ### Numbers -/

theorem varint_ne_nil (n : Nat) : varint n ≠ [] := by
  rw [varint]
  split <;> exact List.cons_ne_nil _ _

theorem readVarintWithin_varint {left n : Nat} (fits : n < 2 * 128 ^ left) (rest : Bytes) :
    readVarintWithin left (varint n ++ rest) = some (n, rest) := by
  induction left generalizing n with
  | zero =>
    have one : n = 0 ∨ n = 1 := by omega
    rcases one with rfl | rfl <;> simp [varint, readVarintWithin]
  | succ left ih =>
    rw [varint]
    split
    · rename_i small
      have byte : (UInt8.ofNat n).toNat = n := by simp; omega
      have last : UInt8.ofNat n < 128 := by rw [UInt8.lt_iff_toNat_lt, byte]; exact small
      simp [readVarintWithin, last, byte]
    · rename_i big
      have byte : (UInt8.ofNat (n % 128 + 128)).toNat = n % 128 + 128 := by simp; omega
      have more : ¬ UInt8.ofNat (n % 128 + 128) < 128 := by
        rw [UInt8.lt_iff_toNat_lt, byte]
        exact Nat.not_lt.mpr (Nat.le_add_left _ _)
      have rests := ih (n := n / 128) (by rw [Nat.pow_succ] at fits; omega)
      simp only [List.cons_append, readVarintWithin, if_neg more, rests, byte]
      congr 2
      omega

theorem readVarint_varint {n : Nat} (fits : n < wordBound) (rest : Bytes) :
    readVarint (varint n ++ rest) = some (n, rest) :=
  readVarintWithin_varint (by simpa [wordBound] using fits) rest

theorem readVarints_varints {ns : List Nat} (fit : ∀ n ∈ ns, n < wordBound) :
    readVarints (ns.flatMap varint) = some ns := by
  induction ns with
  | nil => simp [readVarints]
  | cons n rest ih =>
    obtain ⟨first, others⟩ := List.forall_mem_cons.mp fit
    rw [List.flatMap_cons, readVarints, if_neg (by simp [varint_ne_nil])]
    split
    · rename_i failed
      rw [readVarint_varint first] at failed
      cases failed
    · rename_i read
      rw [readVarint_varint first] at read
      obtain ⟨rfl, rfl⟩ := Prod.mk.inj (Option.some.inj read)
      rw [ih others, Option.map_some]

/-! ### Fields -/

theorem readKey_key {number shape : Nat} (first : 1 ≤ number) (last : number < 0x20000000)
    (known : shape ≤ 5) (rest : Bytes) :
    readKey (key number shape ++ rest) = some ((number, shape), rest) := by
  have fits : 8 * number + shape < wordBound := by unfold wordBound; omega
  have whole : (8 * number + shape) / 8 = number := by omega
  have part : (8 * number + shape) % 8 = shape := by omega
  have bounds : 8 * number + shape < 0x100000000 ∧ 8 ≤ 8 * number + shape ∧ shape ≤ 5 := by omega
  simp only [readKey, key, readVarint_varint fits, whole, part, if_pos bounds]

/-- A value as messages write it: a number of 64 bits, or bytes whose count is one. -/
def Value.Sendable : Value → Prop
  | .varint n => n < wordBound
  | .delimited content => content.length < wordBound
  | _ => False

structure Field.Sendable (f : Field) : Prop where
  first : 1 ≤ f.number
  last : f.number < 0x20000000
  value : f.value.Sendable

theorem readBytes_append (content rest : Bytes) :
    readBytes content.length (content ++ rest) = some (content, rest) := by
  simp [readBytes]

theorem readField_bytes {f : Field} (sendable : f.Sendable) (limit : Nat) (rest : Bytes) :
    readField limit (f.bytes ++ rest) = some (f, rest) := by
  obtain ⟨number, value⟩ := f
  obtain ⟨first, last, fits⟩ := sendable
  cases value with
  | varint n =>
    have read := readVarint_varint (n := n) fits rest
    simp [readField, Field.bytes, Value.shape, readKey_key first last, readPlain, read]
  | delimited content =>
    have read := readVarint_varint (n := content.length) fits (content ++ rest)
    simp [readField, Field.bytes, Value.shape, readKey_key first last, readPlain, read,
      readBytes_append]
  | fixed64 | group | fixed32 => exact fits.elim

theorem bytes_ne_nil (f : Field) : f.bytes ≠ [] := by
  simp [Field.bytes, key, varint_ne_nil]

theorem readFields_bytes (limit : Nat) {fs : List Field} (sendable : ∀ f ∈ fs, f.Sendable)
    (rest : Bytes) :
    readFields limit (fs.flatMap Field.bytes ++ rest) = (readFields limit rest).map (fs ++ ·) := by
  induction fs with
  | nil => simp
  | cons f fs ih =>
    obtain ⟨first, others⟩ := List.forall_mem_cons.mp sendable
    rw [List.flatMap_cons, List.append_assoc, readFields, if_neg (by simp [bytes_ne_nil])]
    split
    · rename_i failed
      rw [readField_bytes first] at failed
      cases failed
    · rename_i read
      rw [readField_bytes first] at read
      obtain ⟨rfl, rfl⟩ := Prod.mk.inj (Option.some.inj read)
      rw [ih others, Option.map_map]
      rfl

end OpticalAccess.Wire
