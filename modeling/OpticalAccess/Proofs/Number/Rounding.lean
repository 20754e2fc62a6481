import OpticalAccess.Proofs.Json5.Numerals

/-!
# Whole numbers and their nearest doubles

A whole number is a double if it has no more than 53 bits, zeros at the end aside. Then rounding
leaves it alone, as whatever quotient it is given. A double that is not a whole number has a whole
part that is one.
-/

namespace OpticalAccess.Binary64

/-- A whole number of no more than 53 bits, but for zeros at the end. -/
def Short (z : Nat) : Prop := ∃ m k, m < 2 ^ 53 ∧ z = m * 2 ^ k

/-! ### Places -/

theorem log2_mul_bounds {a b : Nat} (ha : a ≠ 0) (hb : b ≠ 0) :
    a.log2 + b.log2 ≤ (a * b).log2 ∧ (a * b).log2 ≤ a.log2 + b.log2 + 1 := by
  have product : a * b ≠ 0 := Nat.mul_ne_zero ha hb
  constructor
  · rw [Nat.le_log2 product, Nat.pow_add]
    exact Nat.mul_le_mul (Nat.log2_self_le ha) (Nat.log2_self_le hb)
  · have upper : a * b < 2 ^ (a.log2 + b.log2 + 2) :=
      calc a * b < 2 ^ (a.log2 + 1) * 2 ^ (b.log2 + 1) :=
            Nat.mul_lt_mul'' Nat.lt_log2_self Nat.lt_log2_self
        _ = 2 ^ (a.log2 + b.log2 + 2) := by
            rw [← Nat.pow_add]
            congr 1
            omega
    have := (Nat.log2_lt product).mpr upper
    omega

theorem whole_of_nonneg (m k : Nat) : whole m (k : Int) = m * 2 ^ k := by
  simp [whole, ratio]

theorem whole_of_neg (m k : Nat) : whole m (-(k : Int)) = m / 2 ^ k := by
  cases k with
  | zero => simp [whole, ratio]
  | succ k =>
    rw [whole, ratio, if_neg (by omega), Int.neg_neg, Int.toNat_natCast]
    rfl

/-- A number has at most 53 places before the point once it is shifted that far. -/
theorem whole_lt_iff {z : Nat} (positive : z ≠ 0) (e : Int) :
    whole z (-e) < 2 ^ 53 ↔ (z.log2 : Int) < e + 53 := by
  obtain ⟨k, rfl | rfl⟩ := e.eq_nat_or_neg
  · rw [whole_of_neg, Nat.div_lt_iff_lt_mul (Nat.two_pow_pos k), ← Nat.pow_add,
      ← Nat.log2_lt positive]
    omega
  · rw [Int.neg_neg, whole_of_nonneg]
    have power : (2 ^ k).log2 = k := Nat.log2_two_pow
    have shifted : (z * 2 ^ k).log2 = z.log2 + k := by
      have bounds := log2_mul_bounds positive (Nat.two_pow_pos k).ne'
      have upper : z * 2 ^ k < 2 ^ (z.log2 + k + 1) := by
        rw [Nat.add_right_comm, Nat.pow_add]
        exact Nat.mul_lt_mul_of_pos_right Nat.lt_log2_self (Nat.two_pow_pos k)
      have := (Nat.log2_lt (Nat.mul_ne_zero positive (Nat.two_pow_pos k).ne')).mpr upper
      omega
    rw [← Nat.log2_lt (Nat.mul_ne_zero positive (Nat.two_pow_pos k).ne'), shifted]
    omega

/-! ### Quotients that are whole numbers -/

theorem divEven_mul {a b c : Nat} (positive : 0 < c) : divEven (a * c) (b * c) = divEven a b := by
  have above : b * c < 2 * (a % b * c) ↔ b < 2 * (a % b) := by
    rw [← Nat.mul_assoc]
    exact Nat.mul_lt_mul_right positive
  have half : 2 * (a % b * c) = b * c ↔ 2 * (a % b) = b := by
    rw [← Nat.mul_assoc]
    exact Nat.mul_left_inj positive.ne'
  simp only [divEven, Nat.mul_div_mul_right _ _ positive, Nat.mul_mod_mul_right, above, half]

/-- Scaling leaves out what numerator and denominator have in common. -/
theorem scaled_mul {z den : Nat} (positive : 0 < den) (e : Int) :
    ∃ a b c, 0 < c ∧ scaled (z * den) den e = (a * c, b * c) ∧ scaled z 1 e = (a, b) ∧
      a / b = whole z (-e) := by
  obtain ⟨k, rfl | rfl⟩ := e.eq_nat_or_neg
  · refine ⟨z, 2 ^ k, den, positive, ?_, ?_, (whole_of_neg z k).symm⟩
    · simp [scaled, Nat.mul_comm]
    · simp [scaled]
  · refine ⟨z * 2 ^ k, 1, den, positive, ?_, scaled_neg z k, ?_⟩
    · cases k with
      | zero => simp [scaled]
      | succ k =>
        rw [scaled, if_neg (by omega), Int.neg_neg, Int.toNat_natCast, Nat.one_mul]
        exact Prod.ext (Nat.mul_right_comm z den _) rfl
    · rw [Int.neg_neg, whole_of_nonneg, Nat.div_one]

/-! ### Rounding, step by step -/

/-- The exponent at which a quotient is rounded. -/
def exponentOf (num den : Nat) : Int :=
  let low := max minExponent ((num.log2 : Int) - (den.log2 : Int) - 53)
  if (scaled num den low).1 / (scaled num den low).2 < 2 * hiddenBit then low else low + 1

/-- The mantissa to which a quotient is rounded at an exponent. -/
def mantissaAt (num den : Nat) (e : Int) : Nat :=
  divEven (scaled num den e).1 (scaled num den e).2

/-- A mantissa of one bit too many is halved. -/
def carried (negative : Bool) (m : Nat) (e : Int) : Binary64 :=
  let (m, e) := if m = 2 * hiddenBit then (hiddenBit, e + 1) else (m, e)
  if maxExponent < e then infinite negative else finite negative m e

theorem ofRatio_eq {num : Nat} (positive : num ≠ 0) (negative : Bool) (den : Nat) :
    ofRatio negative num den =
      carried negative (mantissaAt num den (exponentOf num den)) (exponentOf num den) := by
  rw [ofRatio, if_neg positive]
  rfl

theorem exponentOf_mul {z den : Nat} (positive : z ≠ 0) (den_positive : 0 < den) :
    exponentOf (z * den) den = (z.log2 : Int) - 52 := by
  have bounds := log2_mul_bounds positive den_positive.ne'
  have low : max minExponent (((z * den).log2 : Int) - (den.log2 : Int) - 53) =
      ((z * den).log2 : Int) - (den.log2 : Int) - 53 := by
    rw [minExponent]
    omega
  have near : ((z * den).log2 : Int) - (den.log2 : Int) - 53 = (z.log2 : Int) - 53 ∨
      ((z * den).log2 : Int) - (den.log2 : Int) - 53 = (z.log2 : Int) - 52 := by omega
  rw [exponentOf, low]
  generalize ((z * den).log2 : Int) - (den.log2 : Int) - 53 = e at near
  obtain ⟨a, b, c, common, split, -, quotient⟩ := scaled_mul (z := z) den_positive e
  have places : a / b < 2 * hiddenBit ↔ (z.log2 : Int) < e + 53 := by
    rw [quotient]
    exact whole_lt_iff positive e
  simp only [split, Nat.mul_div_mul_right _ _ common]
  split <;> omega

theorem mantissaAt_mul {z den : Nat} (positive : 0 < den) (e : Int) :
    mantissaAt (z * den) den e = mantissaAt z 1 e := by
  obtain ⟨a, b, c, common, split, bare, -⟩ := scaled_mul (z := z) positive e
  rw [mantissaAt, mantissaAt, split, bare, divEven_mul common]

/-- The double nearest to a quotient that is a whole number is the one nearest to the number. -/
theorem ofRatio_mul {z den : Nat} (positive : z ≠ 0) (den_positive : 0 < den) (negative : Bool) :
    ofRatio negative (z * den) den = ofRatio negative z 1 := by
  have one := exponentOf_mul positive Nat.one_pos
  rw [Nat.mul_one] at one
  rw [ofRatio_eq (Nat.mul_ne_zero positive den_positive.ne'), ofRatio_eq positive, one,
    exponentOf_mul positive den_positive, mantissaAt_mul den_positive]

/-! ### Short numbers -/

/-- A short number of at least 53 places ends with the zeros that are cut off. -/
theorem Short.dvd {z k : Nat} (short : Short z) (places : 2 ^ (k + 52) ≤ z) : 2 ^ k ∣ z := by
  obtain ⟨m, j, bits, rfl⟩ := short
  have enough : k ≤ j := by
    by_contra few
    have below : m * 2 ^ j < 2 ^ (53 + j) := by
      rw [Nat.pow_add]
      exact Nat.mul_lt_mul_of_pos_right bits (Nat.two_pow_pos j)
    have above : 2 ^ (53 + j) ≤ 2 ^ (k + 52) := Nat.pow_le_pow_right (by decide) (by omega)
    omega
  exact Nat.dvd_mul_left_of_dvd (Nat.pow_dvd_pow 2 enough) m

theorem Short.mantissa {z : Nat} (positive : z ≠ 0) (short : Short z) :
    let e := (z.log2 : Int) - 52
    mantissaAt z 1 e < 2 ^ 53 ∧ whole (mantissaAt z 1 e) e = z := by
  intro e
  have few : whole z (-e) < 2 ^ 53 := (whole_lt_iff positive e).mpr (by omega)
  obtain ⟨k, here | here⟩ := e.eq_nat_or_neg
  · have cut : 2 ^ k ∣ z := by
      refine short.dvd ?_
      rw [show k + 52 = z.log2 by omega]
      exact Nat.log2_self_le positive
    have exact : mantissaAt z 1 e = z / 2 ^ k := by
      simp [mantissaAt, here, scaled, divEven, Nat.dvd_iff_mod_eq_zero.mp cut,
        (Nat.two_pow_pos k).ne]
    rw [here, whole_of_neg] at few
    rw [exact, here, whole_of_nonneg]
    exact ⟨few, Nat.div_mul_cancel cut⟩
  · have exact : mantissaAt z 1 e = z * 2 ^ k := by
      rw [mantissaAt, here, scaled_neg, divEven_one]
    rw [here, Int.neg_neg, whole_of_nonneg] at few
    rw [exact, here, whole_neg]
    exact ⟨few, rfl⟩

/-- A short number that is a quotient is not rounded. -/
theorem ofRatio_short {z den : Nat} (positive : z ≠ 0) (short : Short z) (small : z < 2 ^ 65)
    (den_positive : 0 < den) (negative : Bool) :
    ∃ m e, ofRatio negative (z * den) den = finite negative m e ∧ whole m e = z := by
  obtain ⟨bits, value⟩ := short.mantissa positive
  have places : z.log2 < 65 := (Nat.log2_lt positive).mpr small
  have kept : ∀ m e, m < 2 ^ 53 → e ≤ maxExponent → carried negative m e = finite negative m e := by
    intro m e bits range
    rw [carried, if_neg (by rw [hiddenBit]; omega)]
    exact if_neg (Int.not_lt.mpr range)
  refine ⟨_, _, ?_, value⟩
  rw [ofRatio_eq (Nat.mul_ne_zero positive den_positive.ne'), exponentOf_mul positive den_positive,
    mantissaAt_mul den_positive]
  exact kept _ _ bits (by rw [maxExponent]; omega)

/-! ### Mantissas -/

theorem divEven_le (num den : Nat) : divEven num den ≤ num / den + 1 := by
  rw [divEven]
  split <;> omega

theorem scaled_lt {num den : Nat} (positive : 0 < den) {e : Int}
    (places : (num.log2 : Int) - den.log2 ≤ e + 52) :
    (scaled num den e).1 / (scaled num den e).2 < 2 ^ 53 := by
  have upper : num < 2 ^ (num.log2 + 1) := Nat.lt_log2_self
  have lower : 2 ^ den.log2 ≤ den := Nat.log2_self_le positive.ne'
  obtain ⟨k, rfl | rfl⟩ := e.eq_nat_or_neg
  · have power : 2 ^ (num.log2 + 1) ≤ 2 ^ 53 * (den * 2 ^ k) :=
      calc 2 ^ (num.log2 + 1) ≤ 2 ^ (53 + (den.log2 + k)) :=
            Nat.pow_le_pow_right (by decide) (by omega)
        _ = 2 ^ 53 * (2 ^ den.log2 * 2 ^ k) := by rw [Nat.pow_add, Nat.pow_add]
        _ ≤ 2 ^ 53 * (den * 2 ^ k) :=
            Nat.mul_le_mul_left _ (Nat.mul_le_mul_right _ lower)
    have quotient : num / (den * 2 ^ k) < 2 ^ 53 :=
      (Nat.div_lt_iff_lt_mul (Nat.mul_pos positive (Nat.two_pow_pos k))).mpr (by omega)
    simpa [scaled] using quotient
  · have power : num * 2 ^ k < 2 ^ 53 * den :=
      calc num * 2 ^ k < 2 ^ (num.log2 + 1) * 2 ^ k :=
            Nat.mul_lt_mul_of_pos_right upper (Nat.two_pow_pos k)
        _ = 2 ^ (num.log2 + 1 + k) := (Nat.pow_add _ _ _).symm
        _ ≤ 2 ^ (53 + den.log2) := Nat.pow_le_pow_right (by decide) (by omega)
        _ = 2 ^ 53 * 2 ^ den.log2 := Nat.pow_add _ _ _
        _ ≤ 2 ^ 53 * den := Nat.mul_le_mul_left _ lower
    have quotient : num * 2 ^ k / den < 2 ^ 53 := (Nat.div_lt_iff_lt_mul positive).mpr power
    cases k with
    | zero => simpa [scaled] using quotient
    | succ k =>
      rw [scaled, if_neg (by omega), Int.neg_neg, Int.toNat_natCast]
      exact quotient

theorem mantissaAt_le (num : Nat) {den : Nat} (positive : 0 < den) :
    mantissaAt num den (exponentOf num den) ≤ 2 * hiddenBit := by
  have rounded : mantissaAt num den (exponentOf num den) ≤
      (scaled num den (exponentOf num den)).1 / (scaled num den (exponentOf num den)).2 + 1 :=
    divEven_le _ _
  have few : (scaled num den (exponentOf num den)).1 /
      (scaled num den (exponentOf num den)).2 < 2 * hiddenBit := by
    rw [exponentOf]
    split
    · assumption
    · exact scaled_lt positive (by omega)
  omega

theorem carried_lt {negative s : Bool} {m m' : Nat} {e e' : Int} (bound : m ≤ 2 * hiddenBit)
    (done : carried negative m e = finite s m' e') : m' < 2 ^ 53 := by
  have cut : ∀ n f, n < 2 ^ 53 →
      (if maxExponent < f then infinite negative else finite negative n f) = finite s m' e' →
      m' < 2 ^ 53 := by
    intro n f bits done
    split at done
    · cases done
    · obtain ⟨-, rfl, -⟩ := finite.inj done
      exact bits
  by_cases full : m = 2 * hiddenBit
  · rw [carried, if_pos full] at done
    exact cut _ _ (by decide) done
  · rw [carried, if_neg full] at done
    exact cut _ _ (by rw [hiddenBit] at bound full; omega) done

/-- A mantissa has at most 53 bits. -/
theorem ofRatio_lt {negative s : Bool} {num den m : Nat} {e : Int} (positive : 0 < den)
    (done : ofRatio negative num den = finite s m e) : m < 2 ^ 53 := by
  by_cases zero : num = 0
  · rw [ofRatio, if_pos zero] at done
    obtain ⟨-, rfl, -⟩ := finite.inj done
    decide
  · rw [ofRatio_eq zero] at done
    exact carried_lt (mantissaAt_le num positive) done

theorem whole_short {m : Nat} (bits : m < 2 ^ 53) (e : Int) : Short (whole m e) := by
  obtain ⟨k, rfl | rfl⟩ := e.eq_nat_or_neg
  · exact ⟨m, k, bits, whole_of_nonneg m k⟩
  · rw [whole_of_neg]
    exact ⟨m / 2 ^ k, 0, Nat.lt_of_le_of_lt (Nat.div_le_self _ _) bits, by simp⟩

/-! ### Ranges -/

/-- A double is cut down into a range that does not begin above zero and does not end below. -/
theorem clamp_mem {low high : Int} (below : low ≤ 0) (above : 0 ≤ high) (x : Binary64) :
    low ≤ x.clamp low high ∧ x.clamp low high ≤ high := by
  cases x with
  | nan => exact ⟨below, above⟩
  | infinite negative =>
    have range : low ≤ high := Int.le_trans below above
    cases negative
    · exact ⟨range, Int.le_refl _⟩
    · exact ⟨Int.le_refl _, range⟩
  | finite negative m e =>
    simp only [clamp]
    generalize (if negative = true then _ else _ : Int) = n
    omega

end OpticalAccess.Binary64
