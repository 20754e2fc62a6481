import OpticalAccess.Json5.Token
import Mathlib.Algebra.Group.Nat.Defs
import Mathlib.Data.List.TakeWhile

/-!
# Integers as numerals

An integer is written with its decimal digits and a minus sign if it is negative. Read back as a
double it is exact up to `2 ^ 53`, the first integer beyond which not every one is a double.
-/

namespace OpticalAccess

/-! ### Digits -/

namespace Digits

theorem valueOf?_digit {n : Nat} (lt : n < 10) : valueOf? 10 (digit n) = some n := by
  revert n
  decide

theorem digit_ne_zero {n : Nat} (lt : n < 10) (pos : 0 < n) : digit n ≠ '0' := by
  revert n
  decide

theorem decimal_ne_nil (n : Nat) : decimal n ≠ [] := by
  rw [decimal]
  split <;> simp

theorem forall_mem_decimal {P : Char → Prop} (digits : ∀ d < 10, P (digit d)) (n : Nat) :
    ∀ c ∈ decimal n, P c := by
  fun_induction decimal n with
  | case1 n lt => simpa using digits n lt
  | case2 n _ ih =>
    intro c member
    obtain member | rfl := (List.mem_append.mp member).imp_right List.mem_singleton.mp
    · exact ih c member
    · exact digits _ (Nat.mod_lt n (by decide))

theorem isDecimal_of_mem {n : Nat} : ∀ c ∈ decimal n, isDecimal c = true :=
  forall_mem_decimal (by decide) n

theorem value_append_digit (base : Nat) (digits : List Char) (c : Char) :
    value base (digits ++ [c]) = base * value base digits + (valueOf? base c).getD 0 := by
  rw [value, List.foldl_append]
  rfl

theorem value_decimal (n : Nat) : value 10 (decimal n) = n := by
  fun_induction decimal n with
  | case1 n lt => simp [value, valueOf?_digit lt]
  | case2 n _ ih =>
    rw [value_append_digit, ih, valueOf?_digit (Nat.mod_lt n (by decide)), Option.getD_some]
    omega

theorem head?_decimal {n : Nat} (pos : 0 < n) : (decimal n).head? ≠ some '0' := by
  fun_induction decimal n with
  | case1 n lt => simpa using digit_ne_zero lt pos
  | case2 n le ih =>
    obtain ⟨c, rest, split⟩ := List.exists_cons_of_ne_nil (decimal_ne_nil (n / 10))
    have first := ih (by omega)
    rw [split] at first ⊢
    exact first

/-- No digit stands before others if it is zero. -/
theorem decimal_canonical (n : Nat) :
    ¬ (1 < (decimal n).length ∧ (decimal n).head? = some '0') := by
  rintro ⟨long, zero⟩
  cases n with
  | zero => simp [decimal] at long
  | succ n => exact head?_decimal n.succ_pos zero

theorem length_decimal_le {n k : Nat} (lt : n < 10 ^ (k + 1)) : (decimal n).length ≤ k + 1 := by
  induction k generalizing n with
  | zero => simp [decimal_of_lt (n := n) (by omega)]
  | succ k ih =>
    by_cases small : n < 10
    · rw [decimal_of_lt small]
      simp
    · rw [decimal_of_le (by omega), List.length_append]
      have shorter := ih (n := n / 10) (by omega)
      simp only [List.length_cons, List.length_nil]
      omega

end Digits

/-! ### Integers as doubles -/

namespace Binary64

/-- The whole part of a finite number without its sign. -/
def whole (mantissa : Nat) (exponent : Int) : Nat :=
  (ratio mantissa exponent).1 / (ratio mantissa exponent).2

theorem scaled_neg (n k : Nat) : scaled n 1 (-(k : Int)) = (n * 2 ^ k, 1) := by
  cases k with
  | zero => simp [scaled]
  | succ k =>
    rw [scaled, if_neg (by omega)]
    simp

theorem whole_neg (n k : Nat) : whole (n * 2 ^ k) (-(k : Int)) = n := by
  cases k with
  | zero => simp [whole, ratio]
  | succ k =>
    rw [whole, ratio, if_neg (by omega)]
    exact Nat.mul_div_cancel n (Nat.pow_pos (by decide))

theorem whole_zero (e : Int) : whole 0 e = 0 := by
  rw [whole, ratio]
  split <;> simp

theorem divEven_one (n : Nat) : divEven n 1 = n := by
  simp [divEven, Nat.mod_one]

/-- An integer up to `2 ^ 53` is not rounded. -/
theorem ofRatio_one {n : Nat} (pos : 0 < n) (small : n ≤ 2 ^ 53) (negative : Bool) :
    ∃ m e, ofRatio negative n 1 = finite negative m e ∧ whole m e = n := by
  by_cases largest : n = 2 ^ 53
  · subst largest
    exact ⟨2 ^ 52, 1, by revert negative; decide, by decide⟩
  -- The mantissa is the integer with as many zeros behind it as make 53 bits of it.
  have positive : n ≠ 0 := by omega
  have short : n.log2 < 53 := (Nat.log2_lt positive).mpr (by omega)
  obtain ⟨k, bits⟩ : ∃ k, n.log2 + k = 52 := ⟨52 - n.log2, by omega⟩
  have lower : 2 ^ 53 ≤ n * 2 ^ (k + 1) :=
    calc 2 ^ 53 = 2 ^ n.log2 * 2 ^ (k + 1) := by rw [← Nat.pow_add, ← Nat.add_assoc, bits]
      _ ≤ n * 2 ^ (k + 1) := Nat.mul_le_mul_right _ (Nat.log2_self_le positive)
  have upper : n * 2 ^ k < 2 ^ 53 :=
    calc n * 2 ^ k < 2 ^ (n.log2 + 1) * 2 ^ k :=
          Nat.mul_lt_mul_of_pos_right Nat.lt_log2_self (Nat.pow_pos (by decide))
      _ = 2 ^ 53 := by rw [← Nat.pow_add, Nat.add_right_comm, bits]
  have least : max minExponent ((n.log2 : Int) - ((1 : Nat).log2 : Int) - 53) =
      -((k + 1 : Nat) : Int) := by
    have one : Nat.log2 1 = 0 := by decide
    rw [one, minExponent]
    omega
  have next : -((k + 1 : Nat) : Int) + 1 = -(k : Int) := by omega
  refine ⟨n * 2 ^ k, -(k : Int), ?_, whole_neg n k⟩
  have full : ¬ n * 2 ^ (k + 1) < 2 * hiddenBit := by
    rw [hiddenBit]
    omega
  have fits : ¬ n * 2 ^ k = 2 * hiddenBit := by
    rw [hiddenBit]
    omega
  rw [ofRatio, if_neg positive]
  simp only [least, scaled_neg, Nat.div_one, if_neg full, next, divEven_one, if_neg fits]
  exact if_neg (by rw [maxExponent]; omega)

/-- An integer up to `2 ^ 53` in decimal digits is not rounded. -/
theorem ofDecimal_integer {n : Nat} (small : n ≤ 2 ^ 53) (negative : Bool) :
    ∃ m e, ofDecimal negative n 0 = finite negative m e ∧ whole m e = n := by
  cases n with
  | zero => exact ⟨0, minExponent, if_pos rfl, whole_zero _⟩
  | succ n =>
    have digits : (Digits.decimal (n + 1)).length ≤ 16 :=
      Digits.length_decimal_le (k := 15) (by omega)
    obtain ⟨m, e, exact, value⟩ := ofRatio_one n.succ_pos small negative
    refine ⟨m, e, ?_, value⟩
    rw [ofDecimal, if_neg n.succ_ne_zero]
    simp only [Int.add_zero, Int.toNat_zero]
    rw [if_neg (by omega), if_neg (by omega), if_pos (Int.le_refl 0)]
    simpa using exact

/-- A number within a range is cut down to its whole part. -/
theorem clamp_finite {low high n : Int} {negative : Bool} {m : Nat} {e : Int}
    (signed : n = if negative then -(whole m e : Int) else whole m e) (lower : low ≤ n)
    (upper : n ≤ high) : (finite negative m e).clamp low high = n := by
  have cut : (finite negative m e).clamp low high = max low (min high n) := by
    rw [signed]
    rfl
  omega

end Binary64

/-! ### Integers as numerals -/

namespace Json5

/-- The numeral that an integer is written as. -/
def Numeral.ofInt : Int → Numeral
  | .ofNat n => ⟨.none, .decimal (Digits.decimal n) none none⟩
  | .negSucc n => ⟨.minus, .decimal (Digits.decimal (n + 1)) none none⟩

theorem Numeral.toDouble_ofInt {n : Int} (small : n.natAbs ≤ 2 ^ 53) {low high : Int}
    (lower : low ≤ n) (upper : n ≤ high) :
    ∃ x, (ofInt n).toDouble = .ok x ∧ x.clamp low high = n := by
  have reads : ∀ (sign : Sign) (k : Nat), k ≤ 2 ^ 53 →
      (n = if sign = .minus then -(k : Int) else k) → ∃ x,
        toDouble ⟨sign, .decimal (Digits.decimal k) none none⟩ = .ok x ∧ x.clamp low high = n := by
    intro sign k small signed
    obtain ⟨m, e, exact, value⟩ := Binary64.ofDecimal_integer small (decide (sign = .minus))
    refine ⟨.finite (decide (sign = .minus)) m e, ?_, ?_⟩
    · simp [toDouble, Digits.value_decimal, exact, Binary64.isFinite]
    · exact Binary64.clamp_finite (by simpa [value] using signed) lower upper
  cases n with
  | ofNat k => exact reads .none k small rfl
  | negSucc k => exact reads .minus (k + 1) small rfl

/-! ### Reading numerals -/

/-- What stands behind a value: the end of the document, a comma or the end of a container. -/
def Delimited (rest : List Char) : Prop := ∀ c ∈ rest.head?, c ∈ [',', ']', '\x7d']

theorem delimited_head {c : Char} {rest : List Char} (delimited : Delimited (c :: rest)) :
    c = ',' ∨ c = ']' ∨ c = '\x7d' := by
  simpa using delimited c rfl

theorem splitNumeral_delimited {rest : List Char} (delimited : Delimited rest) (sign : Bool) :
    splitNumeral sign rest = ([], rest) := by
  cases rest with
  | nil => rfl
  | cons c rest =>
    have ends : (c.isAlphanum || c = '.' || (sign && (c = '+' || c = '-'))) = false := by
      obtain rfl | rfl | rfl := delimited_head delimited <;> cases sign <;> decide
    rw [splitNumeral, if_neg (by simp only [ends, Bool.false_eq_true, not_false_eq_true])]

theorem splitNumeral_append {s rest : List Char} (letters : ∀ c ∈ s, c.isAlphanum = true)
    (delimited : Delimited rest) (sign : Bool) : splitNumeral sign (s ++ rest) = (s, rest) := by
  induction s generalizing sign with
  | nil => exact splitNumeral_delimited delimited sign
  | cons c s ih =>
    obtain ⟨letter, letters⟩ := List.forall_mem_cons.mp letters
    rw [List.cons_append, splitNumeral, if_pos (by simp [letter])]
    simp only [ih letters]

theorem splitNumeral_decimal (n : Nat) {rest : List Char} (delimited : Delimited rest)
    (sign : Bool) : splitNumeral sign (Digits.decimal n ++ rest) = (Digits.decimal n, rest) := by
  have letters := Digits.forall_mem_decimal (P := fun c => c.isAlphanum = true) (by decide) n
  exact splitNumeral_append letters delimited sign

theorem splitNumeral_signed (n : Int) {rest : List Char} (delimited : Delimited rest) :
    splitNumeral true (Digits.signed n ++ rest) = (Digits.signed n, rest) := by
  cases n with
  | ofNat n => exact splitNumeral_decimal n delimited true
  | negSucc n =>
    rw [Digits.signed, List.cons_append, splitNumeral, if_pos (by decide)]
    simp only [splitNumeral_decimal n.succ delimited]

namespace Numeral

theorem decimal?_decimal (n : Nat) :
    decimal? (Digits.decimal n) = some (.decimal (Digits.decimal n) none none) := by
  have digits := Digits.isDecimal_of_mem (n := n)
  have whole : (Digits.decimal n).takeWhile Digits.isDecimal = Digits.decimal n :=
    List.takeWhile_eq_self_iff.mpr digits
  have rest : (Digits.decimal n).dropWhile Digits.isDecimal = [] :=
    List.dropWhile_eq_nil_iff.mpr digits
  rw [decimal?]
  simp only [whole, rest]
  rw [if_neg (Digits.decimal_canonical n)]
  simp [Digits.decimal_ne_nil, exponent?]

theorem magnitude?_decimal (n : Nat) :
    magnitude? (Digits.decimal n) = some (.decimal (Digits.decimal n) none none) := by
  have digits := Digits.isDecimal_of_mem (n := n)
  have other : ∀ {word : List Char} (c : Char), c ∈ word → Digits.isDecimal c = false →
      Digits.decimal n ≠ word := by
    rintro word c member letter rfl
    rw [digits c member] at letter
    cases letter
  unfold magnitude?
  rw [if_neg (other 'I' (by decide) (by decide)), if_neg (other 'N' (by decide) (by decide))]
  split
  · rename_i x rest split
    have apart : ∀ c, Digits.isDecimal c = false → x ≠ c := by
      rintro c letter rfl
      exact other x (by simp) letter split
    rw [if_neg (by simp [apart 'x' (by decide), apart 'X' (by decide)])]
    exact decimal?_decimal n
  · exact decimal?_decimal n

theorem splitSign_decimal (n : Nat) : splitSign (Digits.decimal n) = (.none, Digits.decimal n) := by
  have digits := Digits.isDecimal_of_mem (n := n)
  unfold splitSign
  split
  · rename_i split
    exact absurd (digits '+' (by simp [split])) (by decide)
  · rename_i split
    exact absurd (digits '-' (by simp [split])) (by decide)
  · rfl

theorem ofChars?_signed (n : Int) : ofChars? (Digits.signed n) = some (ofInt n) := by
  cases n with
  | ofNat n => simp [Digits.signed, ofChars?, splitSign_decimal, magnitude?_decimal, ofInt]
  | negSucc n => simp [Digits.signed, ofChars?, splitSign, magnitude?_decimal, ofInt]

end Numeral

/-- A character with which a numeral begins, and nothing else. -/
def BeginsNumeral (c : Char) : Prop :=
  isBlank c = false ∧ c ≠ '/' ∧ (c = '"' || c = '\x27') = false ∧
    (Digits.isDecimal c || c = '.' || c = '+' || c = '-') = true

instance (c : Char) : Decidable (BeginsNumeral c) :=
  inferInstanceAs (Decidable (_ ∧ _))

theorem lexeme?_numeral {c : Char} {rest written after : List Char} {n : Numeral}
    (begins : BeginsNumeral c) (split : splitNumeral true (c :: rest) = (written, after))
    (read : Numeral.ofChars? written = some n) :
    lexeme? (c :: rest) = some ⟨some (.numeral n), written, after⟩ := by
  obtain ⟨blank, slash, quoted, number⟩ := begins
  unfold lexeme?
  simp only [blank, slash, quoted, number, split, read, if_true, if_false,
    Bool.false_eq_true, Option.map_some]

/-- An integer in front of a delimiter is one lexeme. -/
theorem lexeme?_signed (n : Int) {rest : List Char} (delimited : Delimited rest) :
    lexeme? (Digits.signed n ++ rest) =
      some ⟨some (.numeral (.ofInt n)), Digits.signed n, rest⟩ := by
  have split := splitNumeral_signed n delimited
  have read := Numeral.ofChars?_signed n
  obtain ⟨c, digits, first, begins⟩ :
      ∃ c digits, Digits.signed n = c :: digits ∧ BeginsNumeral c := by
    cases n with
    | ofNat n =>
      obtain ⟨c, digits, first⟩ := List.exists_cons_of_ne_nil (Digits.decimal_ne_nil n)
      have begin := Digits.forall_mem_decimal (P := BeginsNumeral) (by decide) n
      exact ⟨c, digits, first, begin c (by simp [first])⟩
    | negSucc n => exact ⟨'-', _, rfl, by decide⟩
  rw [first] at split read ⊢
  exact lexeme?_numeral begins split read

end Json5
end OpticalAccess
