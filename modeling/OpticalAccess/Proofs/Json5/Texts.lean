import OpticalAccess.Json.Quoted
import OpticalAccess.Json5.Token
import OpticalAccess.Json5.Value
import Mathlib.Tactic.SplitIfs

/-!
# Texts of JSON in JSON5

A text that is quoted as JSON has it means the same in JSON5, unless a line separator or a paragraph
separator stands in it. JSON leaves these as they are; in JSON5 they end the line, and no text goes
beyond the end of its line.
-/

namespace OpticalAccess.Json5

/-- Neither a line separator nor a paragraph separator stands in the text. -/
def Unbroken (s : List Char) : Prop := ∀ c ∈ s, c ≠ '\u2028' ∧ c ≠ '\u2029'

instance (s : List Char) : Decidable (Unbroken s) :=
  decidable_of_iff (s.all fun c => decide (c ≠ '\u2028' ∧ c ≠ '\u2029')) (by simp [Unbroken])

/-- The piece that a character is read as once it has been escaped. -/
def pieceOf (c : Char) : Piece :=
  if c = '"' then .escaped '"'
  else if c = '\\' then .escaped '\\'
  else if c = '\x08' then .escaped 'b'
  else if c = '\x0c' then .escaped 'f'
  else if c = '\n' then .escaped 'n'
  else if c = '\r' then .escaped 'r'
  else if c = '\t' then .escaped 't'
  else if c.toNat < 0x20 then
    .unit '0' '0' (Digits.digit (c.toNat / 16)) (Digits.digit (c.toNat % 16))
  else .char c

/-- The three ways to write a character in a quoted text. -/
inductive Written (c : Char) : List Char → Piece → Prop where
  | escaped (letter : Char) (plain : isLineEnd letter = false)
      (single : (letter = 'x' || letter = 'u' || ('1' ≤ letter && letter ≤ '9')) = false)
      (means : unescape letter = c) :
      Written c ['\\', letter] (.escaped letter)
  | unit (d0 d1 d2 d3 : Char) (hex : [d0, d1, d2, d3].all Digits.isHex = true)
      (value : Digits.value 16 [d0, d1, d2, d3] = c.toNat) (control : c.toNat < 0x20) :
      Written c ['\\', 'u', d0, d1, d2, d3] (.unit d0 d1 d2 d3)
  | char (quote : c ≠ '"') (backslash : c ≠ '\\') (plain : isLineEnd c = false) :
      Written c [c] (.char c)

theorem control_written (n : Nat) (control : n < 0x20) :
    Digits.hex 4 n = ['0', '0', Digits.digit (n / 16), Digits.digit (n % 16)] ∧
      ['0', '0', Digits.digit (n / 16), Digits.digit (n % 16)].all Digits.isHex = true ∧
      Digits.value 16 ['0', '0', Digits.digit (n / 16), Digits.digit (n % 16)] = n := by
  revert n
  decide

theorem escape_written {c : Char} (unbroken : c ≠ '\u2028' ∧ c ≠ '\u2029') :
    Written c (Json.escape c) (pieceOf c) := by
  unfold Json.escape pieceOf
  split_ifs with quote backslash b f n r t control
  -- Seven characters have an escape of a single letter.
  iterate 7
    · subst c
      exact .escaped _ (by decide) (by decide) (by decide)
  · obtain ⟨digits, hex, value⟩ := control_written c.toNat control
    rw [digits]
    exact .unit _ _ _ _ hex value control
  · exact .char quote backslash (by simp [isLineEnd, *])

theorem plain_of_isHex {d : Char} (hex : Digits.isHex d = true) :
    d ≠ '"' ∧ d ≠ '\\' ∧ isLineEnd d = false := by
  have apart : ∀ c, Digits.isHex c = false → d ≠ c := by
    rintro c other rfl
    rw [hex] at other
    cases other
  refine ⟨apart _ (by decide), apart _ (by decide), ?_⟩
  simp [isLineEnd, apart '\n' (by decide), apart '\r' (by decide), apart '\u2028' (by decide),
    apart '\u2029' (by decide)]

/-! ### One character -/

section Written

variable {c : Char} {written : List Char} {p : Piece}

theorem splitQuoted_plain (quote : c ≠ '"') (backslash : c ≠ '\\') (plain : isLineEnd c = false)
    (rest : List Char) :
    splitQuoted '"' (c :: rest) =
      (splitQuoted '"' rest).map fun (content, rest) => (c :: content, rest) := by
  simp [splitQuoted, quote, backslash, plain]

theorem splitQuoted_escaped (c : Char) (plain : isLineEnd c = false) (rest : List Char) :
    splitQuoted '"' ('\\' :: c :: rest) =
      (splitQuoted '"' rest).map fun (content, rest) => ('\\' :: c :: content, rest) := by
  have apart : c ≠ '\r' := by
    rintro rfl
    cases plain
  simp [splitQuoted, apart]

theorem splitQuoted_written (w : Written c written p) (rest : List Char) :
    splitQuoted '"' (written ++ rest) =
      (splitQuoted '"' rest).map fun (content, rest) => (written ++ content, rest) := by
  cases w with
  | escaped letter plain => exact splitQuoted_escaped letter plain rest
  | unit d0 d1 d2 d3 hex =>
    have digits : ∀ d ∈ [d0, d1, d2, d3], ∀ rest, splitQuoted '"' (d :: rest) =
        (splitQuoted '"' rest).map fun (content, rest) => (d :: content, rest) := by
      intro d member
      obtain ⟨quote, backslash, plain⟩ := plain_of_isHex (List.all_eq_true.mp hex d member)
      exact splitQuoted_plain quote backslash plain
    simp only [List.forall_mem_cons] at digits
    obtain ⟨first, second, third, fourth, -⟩ := digits
    simp only [List.cons_append, List.nil_append, splitQuoted_escaped 'u' rfl, first, second,
      third, fourth, Option.map_map]
    rfl
  | char quote backslash plain => exact splitQuoted_plain quote backslash plain rest

theorem pieces_written (w : Written c written p) (rest : List Char) :
    pieces (written ++ rest) = (pieces rest).map (p :: ·) := by
  cases w with
  | escaped letter plain single =>
    have apart : letter ≠ 'x' ∧ letter ≠ 'u' ∧ letter ≠ '\r' := by
      refine ⟨?_, ?_, ?_⟩ <;> rintro rfl
      · cases single
      · cases single
      · cases plain
    simp only [Bool.or_eq_false_iff] at single
    simp [pieces, apart, plain, single]
  | unit d0 d1 d2 d3 hex =>
    simp only [List.cons_append, List.nil_append]
    rw [pieces, if_pos hex]
  | char quote backslash plain => simp [pieces, backslash, plain]

theorem decode_written (w : Written c written p) (rest : List Piece) :
    Piece.decode (p :: rest) = (Piece.decode rest).map (c :: ·) := by
  cases w with
  | escaped letter plain single means => rw [Piece.decode, means]
  | unit d0 d1 d2 d3 hex value control =>
    rw [Piece.decode.eq_def]
    simp only [value]
    rw [if_neg (by omega), if_neg (by omega), Char.ofNat_toNat]
  | char => rw [Piece.decode]

end Written

/-! ### Whole texts -/

variable {s : List Char}

theorem splitQuoted_escape (unbroken : Unbroken s) (rest : List Char) :
    splitQuoted '"' (s.flatMap Json.escape ++ '"' :: rest) =
      some (s.flatMap Json.escape, rest) := by
  induction s with
  | nil => simp [splitQuoted]
  | cons c s ih =>
    obtain ⟨first, others⟩ := List.forall_mem_cons.mp unbroken
    rw [List.flatMap_cons, List.append_assoc, splitQuoted_written (escape_written first),
      ih others, Option.map_some]

theorem pieces_escape (unbroken : Unbroken s) :
    pieces (s.flatMap Json.escape) = some (s.map pieceOf) := by
  induction s with
  | nil => rfl
  | cons c s ih =>
    obtain ⟨first, others⟩ := List.forall_mem_cons.mp unbroken
    rw [List.flatMap_cons, pieces_written (escape_written first), ih others, Option.map_some,
      List.map_cons]

theorem decode_pieceOf (s : List Char) : Piece.decode (s.map pieceOf) = .ok s := by
  induction s with
  | nil => rfl
  | cons c s ih =>
    have first : Piece.decode (pieceOf c :: s.map pieceOf) =
        (Piece.decode (s.map pieceOf)).map (c :: ·) := by
      -- The separators are not written as texts are, but as pieces they stand for themselves.
      by_cases line : c = '\u2028'
      · rw [line]
        rfl
      by_cases paragraph : c = '\u2029'
      · rw [paragraph]
        rfl
      exact decode_written (escape_written ⟨line, paragraph⟩) _
    rw [List.map_cons, first, ih]
    rfl

/-- A text that is quoted is one lexeme, whatever follows. -/
theorem lexeme?_quote {t : String} (unbroken : Unbroken t.toList) (rest : List Char) :
    lexeme? (Json.quote t ++ rest) =
      some ⟨some (.text (t.toList.map pieceOf)), Json.quote t, rest⟩ := by
  have split := splitQuoted_escape unbroken rest
  have read := pieces_escape unbroken
  unfold lexeme?
  simp [Json.quote, split, read, isBlank, isLineEnd]

end OpticalAccess.Json5
