import Mathlib.Algebra.Field.Rat
import Mathlib.Algebra.Order.Field.Power
import Mathlib.Data.Rat.Cast.Order
import Mathlib.Tactic.FieldSimp
import Mathlib.Tactic.Positivity
import Mathlib.Tactic.Ring
import OpticalAccess.Proofs.Number.Rounding

/-!
# Numerals and the integers that are taken from them

A numeral writes a number. Where an integer is asked for, the nearest double is taken, its fraction
is cut off, and what is out of range becomes the end of the range. So the integer is the number that
is written only if that is an integer of the range and a double as well, or the one integer at an
end of a range that is no double and that cutting off makes good.
-/

namespace OpticalAccess

/-! ### Digits -/

namespace Digits

theorem lt_pow_length_decimal (n : Nat) : n < 10 ^ (decimal n).length := by
  fun_induction decimal n with
  | case1 n lt => simpa using lt
  | case2 n le ih =>
    rw [List.length_append, List.length_singleton, Nat.pow_succ]
    omega

theorem value_append (base : Nat) (s t : List Char) :
    value base (s ++ t) = value base s * base ^ t.length + value base t := by
  induction t using List.reverseRecOn with
  | nil => simp [value]
  | append_singleton t c ih =>
    rw [← List.append_assoc, value_append_digit, ih, value_append_digit, List.length_append,
      List.length_singleton, Nat.pow_succ]
    ring

end Digits

/-! ### Decimals -/

namespace Binary64

/-- Digits with zeros put behind them are rounded as a whole number. -/
theorem ofDecimal_shifted {digits k : Nat} (positive : digits ≠ 0)
    (small : digits * 10 ^ k < 10 ^ 20) (negative : Bool) :
    ofDecimal negative digits k = ofRatio negative (digits * 10 ^ k) 1 := by
  have few : 10 ^ k < 10 ^ 20 :=
    Nat.lt_of_le_of_lt (Nat.le_mul_of_pos_left _ (Nat.pos_of_ne_zero positive)) small
  have power : k < 20 := (Nat.pow_lt_pow_iff_right (by decide)).mp few
  have digits_small : digits < 10 ^ (19 + 1) :=
    Nat.lt_of_le_of_lt (Nat.le_mul_of_pos_right _ (Nat.pow_pos (by decide))) small
  have short := Digits.length_decimal_le digits_small
  rw [ofDecimal, if_neg positive]
  simp only
  rw [if_neg (by omega), if_neg (by omega), if_pos (by omega)]
  rfl

/-- Digits of which those behind the point are zeros are rounded as the quotient that they are. -/
theorem ofDecimal_pointed {w : Nat} (positive : w ≠ 0) (small : w < 10 ^ 20) (k : Nat)
    (negative : Bool) :
    ofDecimal negative (w * 10 ^ k) (-(k : Int)) = ofRatio negative (w * 10 ^ k) (10 ^ k) := by
  have power_positive : 0 < 10 ^ k := Nat.pow_pos (by decide)
  have long : k < (Digits.decimal (w * 10 ^ k)).length := by
    have least : 10 ^ k ≤ w * 10 ^ k := Nat.le_mul_of_pos_left _ (Nat.pos_of_ne_zero positive)
    exact (Nat.pow_lt_pow_iff_right (by decide)).mp
      (Nat.lt_of_le_of_lt least (Digits.lt_pow_length_decimal _))
  have short : (Digits.decimal (w * 10 ^ k)).length ≤ 19 + k + 1 := by
    refine Digits.length_decimal_le ?_
    calc w * 10 ^ k < 10 ^ 20 * 10 ^ k := Nat.mul_lt_mul_of_pos_right small power_positive
      _ = 10 ^ (19 + k + 1) := by
        rw [← Nat.pow_add]
        congr 1
        omega
  rw [ofDecimal, if_neg (Nat.mul_ne_zero positive power_positive.ne')]
  simp only
  rw [if_neg (by omega), if_neg (by omega)]
  cases k with
  | zero => simp
  | succ k =>
    rw [if_neg (by omega), Int.neg_neg, Int.toNat_natCast]
    rfl

variable {digits w : Nat} {power : Int}

/-- A decimal that is a whole number is rounded as a quotient is that is this number. -/
theorem ofDecimal_whole (small : w < 10 ^ 20) (value : (digits : ℚ) * 10 ^ power = w)
    (negative : Bool) :
    ∃ den, 0 < den ∧ ofDecimal negative digits power = ofRatio negative (w * den) den := by
  by_cases positive : w = 0
  · have nothing : digits = 0 := by
      have ten : (10 : ℚ) ^ power ≠ 0 := zpow_ne_zero _ (by norm_num)
      rw [positive, Nat.cast_zero] at value
      exact_mod_cast (mul_eq_zero.mp value).resolve_right ten
    rw [positive, nothing]
    exact ⟨1, Nat.one_pos, rfl⟩
  obtain ⟨k, rfl | rfl⟩ := power.eq_nat_or_neg
  · have whole : digits * 10 ^ k = w := by
      rw [zpow_natCast] at value
      exact_mod_cast value
    have digits_positive : digits ≠ 0 := by
      rintro rfl
      omega
    refine ⟨1, Nat.one_pos, ?_⟩
    rw [ofDecimal_shifted digits_positive (whole ▸ small), whole, Nat.mul_one]
  · have whole : digits = w * 10 ^ k := by
      rw [zpow_neg, zpow_natCast, mul_inv_eq_iff_eq_mul₀ (by positivity)] at value
      exact_mod_cast value
    rw [whole]
    exact ⟨10 ^ k, Nat.pow_pos (by decide), ofDecimal_pointed positive small k negative⟩

theorem ofDecimal_lt {negative s : Bool} {m : Nat} {e : Int}
    (done : ofDecimal negative digits power = finite s m e) : m < 2 ^ 53 := by
  have zero : ∀ {t : Bool}, finite t 0 minExponent = finite s m e → m < 2 ^ 53 := by
    intro t same
    obtain ⟨-, rfl, -⟩ := finite.inj same
    decide
  unfold ofDecimal at done
  split at done
  · exact zero done
  · simp only at done
    split at done
    · cases done
    · split at done
      · exact zero done
      · split at done
        · exact ofRatio_lt Nat.one_pos done
        · exact ofRatio_lt (Nat.pow_pos (by decide)) done

end Binary64

/-! ### Integers of a range -/

/-- The ranges of the integers that are asked for. -/
inductive IntegerRange where
  | unsigned16
  | signed32
  | unsigned64
  deriving DecidableEq

namespace IntegerRange

def low : IntegerRange → Int
  | unsigned16 => 0
  | signed32 => -0x80000000
  | unsigned64 => 0

def high : IntegerRange → Int
  | unsigned16 => 0xFFFF
  | signed32 => 0x7FFFFFFF
  | unsigned64 => 0xFFFFFFFFFFFFFFFF

/-- What a double is taken for. -/
def take (r : IntegerRange) (x : Binary64) : Int := x.clamp r.low r.high

variable (r : IntegerRange)

theorem take_mem (x : Binary64) : r.low ≤ r.take x ∧ r.take x ≤ r.high := by
  have zero : r.low ≤ 0 ∧ 0 ≤ r.high := by cases r <;> decide
  exact Binary64.clamp_mem zero.1 zero.2 x

/-- An integer that can be taken for itself. -/
def Safe (z : Int) : Prop :=
  r.low ≤ z ∧ z ≤ r.high ∧ (Binary64.Short z.natAbs ∨ z = 0xFFFFFFFFFFFFFFFF)

theorem Safe.small {r : IntegerRange} {z : Int} (safe : r.Safe z) :
    z.natAbs ≤ 0xFFFFFFFFFFFFFFFF := by
  have ends : -0x80000000 ≤ r.low ∧ r.high ≤ 0xFFFFFFFFFFFFFFFF := by cases r <;> decide
  obtain ⟨lower, upper, -⟩ := safe
  omega

theorem low_short : Binary64.Short r.low.natAbs := by
  cases r with
  | signed32 => exact ⟨1, 31, by decide, by decide⟩
  | _ => exact ⟨0, 0, by decide, by decide⟩

theorem high_short : Binary64.Short r.high.natAbs ∨ r.high = 0xFFFFFFFFFFFFFFFF := by
  cases r with
  | unsigned16 => exact .inl ⟨0xFFFF, 0, by decide, by decide⟩
  | signed32 => exact .inl ⟨0x7FFFFFFF, 0, by decide, by decide⟩
  | unsigned64 => exact .inr rfl

theorem take_safe {x : Binary64} (bits : ∀ s m e, x = .finite s m e → m < 2 ^ 53) :
    r.Safe (r.take x) := by
  obtain ⟨lower, upper⟩ := r.take_mem x
  refine ⟨lower, upper, ?_⟩
  cases x with
  | nan => exact .inl ⟨0, 0, by decide, rfl⟩
  | infinite negative =>
    cases negative
    · exact r.high_short
    · exact .inl r.low_short
  | finite negative m e =>
    have short := Binary64.whole_short (bits negative m e rfl) e
    have cut : r.take (.finite negative m e) =
        max r.low (min r.high (if negative then -(Binary64.whole m e : Int)
          else Binary64.whole m e)) := rfl
    generalize r.take (.finite negative m e) = z at cut
    have cases : z = r.low ∨ z = r.high ∨ z.natAbs = Binary64.whole m e := by
      cases negative <;> simp at cut <;> omega
    obtain rfl | rfl | same := cases
    · exact .inl r.low_short
    · exact r.high_short
    · exact .inl (same ▸ short)

/-- The double nearest to a safe integer is taken for the integer. -/
theorem take_ofRatio {w den : Nat} {z : Int} {negative : Bool} (safe : r.Safe z)
    (signed : z = if negative then -(w : Int) else w) (positive : 0 < den) :
    r.take (.ofRatio negative (w * den) den) = z := by
  have small := safe.small
  obtain ⟨lower, upper, exact⟩ := safe
  have same : z.natAbs = w := by cases negative <;> simp at signed <;> omega
  by_cases zero : w = 0
  · subst zero
    have nothing : Binary64.ofRatio negative (0 * den) den =
        .finite negative 0 Binary64.minExponent := by
      rw [Nat.zero_mul]
      rfl
    rw [nothing]
    exact Binary64.clamp_finite (by rw [signed, Binary64.whole_zero]) lower upper
  · obtain short | largest := exact
    · obtain ⟨m, e, rounded, whole⟩ :=
        Binary64.ofRatio_short zero (same ▸ short) (by omega) positive negative
      rw [rounded]
      exact Binary64.clamp_finite (by rw [signed, whole]) lower upper
    · -- The one that is rounded up, beyond the range, and cut down again.
      have widest : r = .unsigned64 := by
        cases r with
        | unsigned64 => rfl
        | _ => simp only [high] at upper; omega
      obtain rfl : negative = false := by
        cases negative
        · rfl
        · simp at signed
          omega
      obtain rfl : w = 0xFFFFFFFFFFFFFFFF := by omega
      rw [Binary64.ofRatio_mul zero positive, widest, largest]
      decide

end IntegerRange

/-! ### Numerals -/

namespace Json5.Numeral

/-- The number that a numeral writes; none if it is infinite or not a number. -/
def value? (n : Numeral) : Option ℚ :=
  let signed (q : ℚ) := if n.sign = .minus then -q else q
  match n.magnitude with
  | .infinity => none
  | .nan => none
  | .hex digits => some (signed (Digits.value 16 digits))
  | .decimal whole fraction exponent =>
    let fraction := fraction.getD []
    some (signed ((Digits.value 10 whole + Digits.value 10 fraction / 10 ^ fraction.length) *
      10 ^ exponent.getD 0))

theorem value?_ofInt (z : Int) : (ofInt z).value? = some (z : ℚ) := by
  have nothing : Digits.value 10 [] = 0 := rfl
  cases z with
  | ofNat w => simp [ofInt, value?, Digits.value_decimal, nothing]
  | negSucc w => simp [ofInt, value?, Digits.value_decimal, nothing, Int.cast_negSucc]

/-- The digits before and behind the point make one number, with the point moved behind it. -/
theorem decimal_value (whole fraction : List Char) (exponent : Int) :
    ((Digits.value 10 whole : ℚ) + Digits.value 10 fraction / 10 ^ fraction.length) *
        10 ^ exponent =
      (Digits.value 10 (whole ++ fraction) : ℚ) * 10 ^ (exponent - fraction.length) := by
  have ten : (10 : ℚ) ≠ 0 := by norm_num
  rw [Digits.value_append, zpow_sub₀ ten, zpow_natCast]
  push_cast
  field_simp

/-- An integer that is a number with a sign, in its own sign and magnitude. -/
theorem natAbs_of_signed {q : ℚ} {z : Int} {minus : Prop} [Decidable minus] (nonneg : 0 ≤ q)
    (signed : (if minus then -q else q) = z) :
    q = z.natAbs ∧ z = if minus then -(z.natAbs : Int) else z.natAbs := by
  by_cases negative : minus
  · rw [if_pos negative] at signed ⊢
    have below : z ≤ 0 := by
      have := neg_nonpos.mpr nonneg
      rw [signed] at this
      exact_mod_cast this
    have abs : (z.natAbs : ℤ) = -z := by omega
    exact ⟨by rw [← Int.cast_natCast, abs, Int.cast_neg, ← signed, neg_neg], by omega⟩
  · rw [if_neg negative] at signed ⊢
    have above : 0 ≤ z := by
      rw [signed] at nonneg
      exact_mod_cast nonneg
    have abs : (z.natAbs : ℤ) = z := by omega
    exact ⟨by rw [← Int.cast_natCast, abs, signed], by omega⟩

variable {n : Numeral} {x : Binary64}

theorem toDouble_lt {s : Bool} {m : Nat} {e : Int} (read : n.toDouble = .ok (.finite s m e)) :
    m < 2 ^ 53 := by
  obtain ⟨sign, magnitude⟩ := n
  cases magnitude with
  | infinity | nan =>
    simp only [toDouble] at read
    split at read <;> cases read
  | hex digits =>
    simp only [toDouble] at read
    split at read
    · cases value : hexValue digits with
      | error fault => simp [value, Except.map] at read
      | ok w =>
        simp only [value, Except.map] at read
        exact Binary64.ofRatio_lt Nat.one_pos (Except.ok.inj read)
    · cases read
  | decimal whole fraction exponent =>
    simp only [toDouble] at read
    split at read
    · exact Binary64.ofDecimal_lt (Except.ok.inj read)
    · cases read

/-- A numeral that writes a safe integer is taken for it. -/
theorem take_of_value {r : IntegerRange} {z : Int} (read : n.toDouble = .ok x)
    (value : n.value? = some (z : ℚ)) (safe : r.Safe z) : r.take x = z := by
  obtain ⟨sign, magnitude⟩ := n
  cases magnitude with
  | infinity | nan => cases value
  | hex digits =>
    simp only [toDouble] at read
    split at read
    · rename_i unsigned
      simp only [value?, unsigned, reduceCtorEq, if_false, Option.some.injEq] at value
      have same : z = (Digits.value 16 digits : Nat) := by exact_mod_cast value.symm
      have nearest : x = .ofRatio false (Digits.value 16 digits * 1) 1 := by
        unfold hexValue at read
        simp only at read
        split at read
        · rw [Nat.mul_one]
          exact (Except.ok.inj read).symm
        · cases read
      rw [nearest]
      exact r.take_ofRatio safe same Nat.one_pos
    · cases read
  | decimal whole fraction exponent =>
    simp only [toDouble] at read
    split at read
    · rw [← Except.ok.inj read]
      simp only [value?, decimal_value, Option.some.injEq] at value
      generalize Digits.value 10 (whole ++ fraction.getD []) = digits at *
      generalize exponent.getD 0 - ((fraction.getD []).length : Int) = power at *
      obtain ⟨magnitude, signed⟩ := natAbs_of_signed (by positivity) value
      have small := safe.small
      obtain ⟨den, positive, nearest⟩ :=
        Binary64.ofDecimal_whole (by omega) magnitude (decide (sign = .minus))
      rw [nearest]
      exact r.take_ofRatio safe (by simpa only [decide_eq_true_eq] using signed) positive
    · cases read

/-- What is taken from a numeral is what it writes exactly if it writes a safe integer. -/
theorem value?_eq_take_iff (r : IntegerRange) (read : n.toDouble = .ok x) :
    n.value? = some (r.take x : ℚ) ↔ ∃ z : Int, n.value? = some (z : ℚ) ∧ r.Safe z := by
  constructor
  · intro value
    refine ⟨r.take x, value, r.take_safe fun s m e finite => ?_⟩
    subst finite
    exact toDouble_lt read
  · rintro ⟨z, value, safe⟩
    rw [take_of_value read value safe, value]

end Json5.Numeral
end OpticalAccess
