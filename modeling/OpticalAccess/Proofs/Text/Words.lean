import OpticalAccess.Proofs.Json5.Numerals

/-!
# Words in a text

A word is a run of characters of one alphabet. It ends where the text goes on with a character of
another, so that a text has only one way to be cut into its words. Numbers are such words, and a
number is known by its digits.
-/

namespace OpticalAccess

namespace Text

variable {p : Char → Bool} {mark : Char} {gap word word' before before' rest rest' : List Char}

/-- No word in front of it could go on here. -/
def Ends (p : Char → Bool) (rest : List Char) : Prop := ∀ c ∈ rest.head?, p c = false

theorem ends_nil : Ends p [] := nofun

theorem ends_cons (outside : p mark = false) : Ends p (mark :: rest) := by
  intro c first
  obtain rfl := Option.some_inj.mp first
  exact outside

theorem takeWhile_word (inside : ∀ c ∈ word, p c = true) (ends : Ends p rest) :
    (word ++ rest).takeWhile p = word := by
  have stops : rest.takeWhile p = [] := by
    cases rest with
    | nil => rfl
    | cons c rest => exact List.takeWhile_cons_of_neg (by simp [ends c rfl])
  rw [List.takeWhile_append_of_pos inside, stops, List.append_nil]

theorem word_append_inj (inside : ∀ c ∈ word, p c = true) (inside' : ∀ c ∈ word', p c = true)
    (ends : Ends p rest) (ends' : Ends p rest') :
    word ++ rest = word' ++ rest' ↔ word = word' ∧ rest = rest' := by
  constructor
  · intro same
    have first : word = word' :=
      calc word = (word ++ rest).takeWhile p := (takeWhile_word inside ends).symm
        _ = (word' ++ rest').takeWhile p := by rw [same]
        _ = word' := takeWhile_word inside' ends'
    subst first
    exact ⟨rfl, List.append_cancel_left same⟩
  · rintro ⟨rfl, rfl⟩
    rfl

/-- The last word of a text is known by the mark in front of it, whatever is in front of that. -/
theorem append_mark_inj (outside : p mark = false) (inside : ∀ c ∈ word, p c = true)
    (inside' : ∀ c ∈ word', p c = true) :
    before ++ mark :: word = before' ++ mark :: word' ↔ before = before' ∧ word = word' := by
  -- From behind, the text begins with the word, and the mark ends it.
  have reversed : ∀ {w : List Char}, (∀ c ∈ w, p c = true) → ∀ c ∈ w.reverse, p c = true :=
    fun all c member => all c (List.mem_reverse.mp member)
  have split : word.reverse ++ mark :: before.reverse = word'.reverse ++ mark :: before'.reverse ↔
      word.reverse = word'.reverse ∧ mark :: before.reverse = mark :: before'.reverse :=
    word_append_inj (reversed inside) (reversed inside') (ends_cons outside) (ends_cons outside)
  rw [← List.reverse_inj]
  simpa [and_comm] using split

/-! ### Joined words -/

def Word (p : Char → Bool) (word : List Char) : Prop := word ≠ [] ∧ ∀ c ∈ word, p c = true

theorem Word.not_ends (isWord : Word p word) (rest : List Char) : ¬Ends p (word ++ rest) := by
  intro ends
  obtain ⟨c, tail, rfl⟩ := List.exists_cons_of_ne_nil isWord.1
  have outside := ends c rfl
  rw [isWord.2 c List.mem_cons_self] at outside
  cases outside

theorem intercalate_cons (sep word : List Char) (words : List (List Char)) :
    sep.intercalate (word :: words) = word ++ words.flatMap (sep ++ ·) := by
  induction words generalizing word with
  | nil => simp
  | cons next words ih =>
    rw [List.intercalate_cons_cons, ih, List.flatMap_cons, List.append_assoc, List.append_assoc]

theorem ends_flatMap (outside : p mark = false) (ends : Ends p rest) (words : List (List Char)) :
    Ends p (words.flatMap (mark :: gap ++ ·) ++ rest) := by
  cases words with
  | nil => exact ends
  | cons word words => exact ends_cons outside

variable {words words' : List (List Char)}

theorem flatMap_append_inj (outside : p mark = false) (isWord : ∀ w ∈ words, Word p w)
    (isWord' : ∀ w ∈ words', Word p w) (ends : Ends p rest) (ends' : Ends p rest')
    (apart : rest.head? ≠ some mark) (apart' : rest'.head? ≠ some mark) :
    words.flatMap (mark :: gap ++ ·) ++ rest = words'.flatMap (mark :: gap ++ ·) ++ rest' ↔
      words = words' ∧ rest = rest' := by
  refine ⟨fun same => ?_, fun ⟨words, rest⟩ => by rw [words, rest]⟩
  induction words generalizing words' with
  | nil =>
    cases words' with
    | nil => exact ⟨rfl, same⟩
    | cons word' words' => exact absurd (congrArg List.head? same) apart
  | cons word words ih =>
    cases words' with
    | nil => exact absurd (congrArg List.head? same.symm) apart'
    | cons word' words' =>
      obtain ⟨⟨-, inside⟩, others⟩ := List.forall_mem_cons.mp isWord
      obtain ⟨⟨-, inside'⟩, others'⟩ := List.forall_mem_cons.mp isWord'
      simp only [List.flatMap_cons, List.append_assoc] at same
      obtain ⟨rfl, behind⟩ := (word_append_inj inside inside' (ends_flatMap outside ends words)
        (ends_flatMap outside ends' words')).mp (List.append_cancel_left same)
      obtain ⟨rfl, rfl⟩ := ih others others' behind
      exact ⟨rfl, rfl⟩

/-- Words between which a mark stands are known, and so is what follows the last. -/
theorem intercalate_append_inj (outside : p mark = false) (isWord : ∀ w ∈ words, Word p w)
    (isWord' : ∀ w ∈ words', Word p w) (ends : Ends p rest) (ends' : Ends p rest')
    (apart : rest.head? ≠ some mark) (apart' : rest'.head? ≠ some mark) :
    (mark :: gap).intercalate words ++ rest = (mark :: gap).intercalate words' ++ rest' ↔
      words = words' ∧ rest = rest' := by
  refine ⟨fun same => ?_, fun ⟨words, rest⟩ => by rw [words, rest]⟩
  cases words with
  -- Where one text has no words, the other cannot go on with one.
  | nil =>
    cases words' with
    | nil => exact ⟨rfl, same⟩
    | cons word' words' =>
      rw [intercalate_cons, List.append_assoc, List.intercalate_nil, List.nil_append] at same
      exact absurd (same ▸ ends) ((isWord' word' List.mem_cons_self).not_ends _)
  | cons word words =>
    cases words' with
    | nil =>
      rw [intercalate_cons, List.append_assoc, List.intercalate_nil, List.nil_append] at same
      exact absurd (same ▸ ends') ((isWord word List.mem_cons_self).not_ends _)
    | cons word' words' =>
      obtain ⟨⟨-, inside⟩, others⟩ := List.forall_mem_cons.mp isWord
      obtain ⟨⟨-, inside'⟩, others'⟩ := List.forall_mem_cons.mp isWord'
      simp only [intercalate_cons, List.append_assoc] at same
      obtain ⟨rfl, behind⟩ := (word_append_inj inside inside' (ends_flatMap outside ends words)
        (ends_flatMap outside ends' words')).mp same
      obtain ⟨rfl, rfl⟩ :=
        (flatMap_append_inj outside others others' ends ends' apart apart').mp behind
      exact ⟨rfl, rfl⟩

end Text

/-! ### Numbers as words -/

namespace Digits

theorem decimal_inj {m n : Nat} : decimal m = decimal n ↔ m = n := by
  refine ⟨fun same => ?_, congrArg decimal⟩
  calc m = value 10 (decimal m) := (value_decimal m).symm
    _ = value 10 (decimal n) := by rw [same]
    _ = n := value_decimal n

theorem decimal_append_inj {m n : Nat} {rest rest' : List Char} (ends : Text.Ends isDecimal rest)
    (ends' : Text.Ends isDecimal rest') :
    decimal m ++ rest = decimal n ++ rest' ↔ m = n ∧ rest = rest' := by
  rw [Text.word_append_inj isDecimal_of_mem isDecimal_of_mem ends ends', decimal_inj]

theorem word_decimal (n : Nat) : Text.Word isDecimal (decimal n) :=
  ⟨decimal_ne_nil n, isDecimal_of_mem⟩

/-- Numbers in a list that a bracket closes. -/
theorem decimals_inj {gap : List Char} {ms ns : List Nat} :
    (',' :: gap).intercalate (ms.map decimal) ++ [']'] =
      (',' :: gap).intercalate (ns.map decimal) ++ [']'] ↔ ms = ns := by
  have isWord : ∀ ns : List Nat, ∀ w ∈ ns.map decimal, Text.Word isDecimal w := by
    intro ns w member
    obtain ⟨n, -, rfl⟩ := List.mem_map.mp member
    exact word_decimal n
  have closed : Text.Ends isDecimal [']'] := Text.ends_cons (by decide)
  rw [Text.intercalate_append_inj (by decide) (isWord ms) (isWord ns) closed closed (by decide)
    (by decide), List.map_inj_right fun _ _ => decimal_inj.mp]
  exact and_iff_left rfl

theorem length_hex (width n : Nat) : (hex width n).length = width := by
  induction width generalizing n with
  | zero => rfl
  | succ width ih => rw [hex, List.length_append, ih, List.length_singleton]

theorem forall_mem_hex {P : Char → Prop} (digits : ∀ d < 16, P (digit d)) (width n : Nat) :
    ∀ c ∈ hex width n, P c := by
  induction width generalizing n with
  | zero => nofun
  | succ width ih =>
    intro c member
    obtain member | rfl := (List.mem_append.mp member).imp_right List.mem_singleton.mp
    · exact ih (n / 16) c member
    · exact digits _ (Nat.mod_lt n (by decide))

theorem valueOf?_hexDigit {n : Nat} (lt : n < 16) : valueOf? 16 (digit n) = some n := by
  revert n
  decide

theorem value_hex (width n : Nat) : value 16 (hex width n) = n % 16 ^ width := by
  induction width generalizing n with
  | zero => rw [Nat.pow_zero, Nat.mod_one]; rfl
  | succ width ih =>
    rw [hex, value_append_digit, ih, valueOf?_hexDigit (Nat.mod_lt n (by decide)),
      Option.getD_some, Nat.pow_succ', Nat.mod_mul]
    omega

theorem hex_inj {width m n : Nat} (small : m < 16 ^ width) (small' : n < 16 ^ width) :
    hex width m = hex width n ↔ m = n := by
  refine ⟨fun same => ?_, congrArg (hex width)⟩
  have values := congrArg (value 16) same
  rwa [value_hex, value_hex, Nat.mod_eq_of_lt small, Nat.mod_eq_of_lt small'] at values

theorem word_hex (width n : Nat) : Text.Word isHex (hex (width + 1) n) :=
  ⟨by simp [hex], forall_mem_hex (by decide) (width + 1) n⟩

end Digits
end OpticalAccess
