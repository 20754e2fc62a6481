import Mathlib.Logic.Function.Iterate
import OpticalAccess.Proofs.Frame.Header

/-!
# The length that is asked for

A frame that ends before its header does is refused with a length. With fewer bytes than that, it is
refused in the same way; with as many, it is read or more is asked for. Each refusal asks for one
tag more, so that there are three of them at most.
-/

namespace OpticalAccess.Frame

/-! ### Frames that are cut off -/

theorem CutOff.short {p : Bytes} {needed : Nat} (cut : CutOff p needed) : p.length < needed := by
  cases cut with
  | start short => exact short
  | tag destination source tags kind rest few short =>
    simp only [List.length_append, length_octets, length_bigEndian, Tag.length_flatMap_bytes]
    omega

/-- What is needed ends behind one of the types that a header can have. -/
theorem CutOff.needed_eq {p : Bytes} {needed : Nat} (cut : CutOff p needed) :
    ∃ i ≤ 2, needed = 14 + 4 * i := by
  cases cut with
  | start short => exact ⟨0, Nat.zero_le _, rfl⟩
  | tag destination source tags kind rest few short => exact ⟨tags.length + 1, few, by omega⟩

theorem CutOff.append {p q : Bytes} {needed : Nat} (cut : CutOff p needed)
    (fewer : (p ++ q).length < needed) : CutOff (p ++ q) needed := by
  cases cut with
  | start short => exact .start fewer
  | tag destination source tags kind rest few short =>
    have longer : (rest ++ q).length < 4 := by
      simp only [List.length_append, length_octets, length_bigEndian, Tag.length_flatMap_bytes]
        at fewer ⊢
      omega
    have cut := CutOff.tag destination source tags kind (rest ++ q) few longer
    simpa only [List.append_assoc] using cut

/-- What a refusal for a length means for the frame and for all that go on from it. -/
structure Demanded (p : Bytes) (needed actual : Nat) : Prop where
  actual_eq : actual = p.length
  short : p.length < needed
  bounded : needed ≤ 22
  unmet : ∀ q : Bytes, (p ++ q).length < needed →
    summary ⟨p ++ q⟩ = .error (.truncated needed (p ++ q).length)
  met : ∀ q : Bytes, needed ≤ (p ++ q).length → (∃ s, summary ⟨p ++ q⟩ = .ok s) ∨
    ∃ more, summary ⟨p ++ q⟩ = .error (.truncated more (p ++ q).length) ∧ needed < more

theorem demanded_of_refused {p : Bytes} {needed actual : Nat}
    (refused : summary ⟨p⟩ = .error (.truncated needed actual)) : Demanded p needed actual := by
  obtain ⟨cut, length⟩ := summary_eq_error_iff.mp refused
  obtain ⟨i, few, needed_eq⟩ := cut.needed_eq
  refine ⟨length, cut.short, by omega, ?_, ?_⟩
  · intro q fewer
    exact summary_cutOff (cut.append fewer)
  · intro q enough
    rcases header_or_cutOff (p ++ q) with ⟨h, rest, split⟩ | ⟨more, cut'⟩
    · rw [split]
      exact .inl ⟨h.summary, summary_header h rest⟩
    · exact .inr ⟨more, summary_cutOff cut', Nat.lt_of_le_of_lt enough cut'.short⟩

/-- What follows a header does not change its summary. -/
theorem summary_append {p : Bytes} {s : Summary} (read : summary ⟨p⟩ = .ok s) (q : Bytes) :
    summary ⟨p ++ q⟩ = .ok s := by
  obtain ⟨h, rest, rfl, rfl⟩ := summary_eq_ok_iff.mp read
  rw [List.append_assoc]
  exact summary_header h (rest ++ q)

/-! ### Readers that supply what is asked for -/

/-- What a reader has next: the same, or more if it was refused. -/
def supplied (more : Bytes → Nat → Bytes) (p : Bytes) : Bytes :=
  match summary ⟨p⟩ with
  | .ok _ => p
  | .error (.truncated needed _) => p ++ more p needed

/-- A reader that goes on from some bytes has a summary after `k` refusals. -/
structure ReadAfter (more : Bytes → Nat → Bytes) (p : Bytes) (k : Nat) : Prop where
  read : ∃ s, summary ⟨(supplied more)^[k] p⟩ = .ok s
  refused : ∀ j < k, ∃ needed actual,
    summary ⟨(supplied more)^[j] p⟩ = .error (.truncated needed actual)

theorem readAfter_header (more : Bytes → Nat → Bytes) (h : Header) (rest : Bytes) :
    ReadAfter more (h.bytes ++ rest) 0 :=
  ⟨⟨_, summary_header h rest⟩, fun j none => absurd none (Nat.not_lt_zero j)⟩

theorem ReadAfter.cut {more : Bytes → Nat → Bytes} {p : Bytes} {k needed : Nat}
    (later : ReadAfter more (supplied more p) k) (cut : CutOff p needed) :
    ReadAfter more p (k + 1) where
  read := later.read
  refused j before := by
    cases j with
    | zero => exact ⟨needed, p.length, summary_cutOff cut⟩
    | succ j => exact later.refused j (Nat.lt_of_succ_lt_succ before)

section Supply
variable {more : Bytes → Nat → Bytes} (obliging : ∀ p needed, needed ≤ (p ++ more p needed).length)
include obliging

/-- A refusal of what was supplied asks for one tag more at least. -/
theorem supplied_later {p : Bytes} {needed later : Nat} (cut : CutOff p needed)
    (cut' : CutOff (supplied more p) later) : needed + 4 ≤ later := by
  have next : supplied more p = p ++ more p needed := by
    rw [supplied, summary_cutOff cut]
  rw [next] at cut'
  have above : needed < later := Nat.lt_of_le_of_lt (obliging p needed) cut'.short
  obtain ⟨i, -, rfl⟩ := cut.needed_eq
  obtain ⟨j, -, rfl⟩ := cut'.needed_eq
  omega

/-- Where only `n` more refusals are possible, there are no more than `n`, and then a summary. -/
theorem readAfter_within (n : Nat) (p : Bytes)
    (late : ∀ needed, CutOff p needed → 26 ≤ needed + 4 * n) : ∃ k ≤ n, ReadAfter more p k := by
  induction n generalizing p with
  | zero =>
    rcases header_or_cutOff p with ⟨h, rest, rfl⟩ | ⟨needed, cut⟩
    · exact ⟨0, Nat.le_refl _, readAfter_header more h rest⟩
    · obtain ⟨i, few, rfl⟩ := cut.needed_eq
      have beyond := late _ cut
      omega
  | succ n ih =>
    rcases header_or_cutOff p with ⟨h, rest, rfl⟩ | ⟨needed, cut⟩
    · exact ⟨0, Nat.zero_le _, readAfter_header more h rest⟩
    · have later : ∀ later, CutOff (supplied more p) later → 26 ≤ later + 4 * n := by
        intro later cut'
        have step := supplied_later obliging cut cut'
        have start := late needed cut
        omega
      obtain ⟨k, few, read⟩ := ih (supplied more p) later
      exact ⟨k + 1, Nat.succ_le_succ few, read.cut cut⟩

/-- A reader that supplies what it is asked for is refused three times at most. -/
theorem readAfter_three (p : Bytes) : ∃ k ≤ 3, ReadAfter more p k := by
  refine readAfter_within obliging 3 p fun needed cut => ?_
  obtain ⟨i, -, rfl⟩ := cut.needed_eq
  omega

end Supply

/--
The length in a refusal is the one that decides: below it the refusal stays what it is, and from it
on the frame is read or a greater length is asked for, which is never above 22. A summary stays the
same whatever follows. So a reader that supplies what it is asked for has one after three refusals
at most.
-/
theorem needed_length_decides :
    (∀ p needed actual, summary ⟨p⟩ = .error (.truncated needed actual) →
      Demanded p needed actual) ∧
    (∀ p s, summary ⟨p⟩ = .ok s → ∀ q : Bytes, summary ⟨p ++ q⟩ = .ok s) ∧
    ∀ more : Bytes → Nat → Bytes, (∀ p needed, needed ≤ (p ++ more p needed).length) →
      ∀ p, ∃ k ≤ 3, ReadAfter more p k := by
  refine ⟨?_, ?_, ?_⟩
  · intro p needed actual refused
    exact demanded_of_refused refused
  · intro p s read q
    exact summary_append read q
  · intro more obliging p
    exact readAfter_three obliging p

/-- A frame that ends one byte before the ethertype behind its second tag does. -/
def clipped : Bytes :=
  [1, 2, 3, 4, 5, 6, 10, 11, 12, 13, 14, 15, 0x88, 0xa8, 0x0f, 0xa0, 0x81, 0x00, 0x00, 0x80, 0x08]

theorem needed_length_decides_clipped :
    summary ⟨clipped⟩ = .error (.truncated 22 21) ∧ Demanded clipped 22 21 ∧
      (∃ s, summary ⟨clipped ++ [0]⟩ = .ok s ∧ ∀ q : Bytes, summary ⟨clipped ++ [0] ++ q⟩ = .ok s) ∧
      (∀ (p : Bytes) needed, needed ≤ (p ++ List.replicate needed 0x81).length) ∧
      ∃ k ≤ 3, ReadAfter (fun _ needed => List.replicate needed 0x81) [] k := by
  have refused : summary ⟨clipped⟩ = .error (.truncated 22 21) := rfl
  have read : summary ⟨clipped ++ [0]⟩ =
      .ok ⟨⟨1, 2, 3, 4, 5, 6⟩, ⟨10, 11, 12, 13, 14, 15⟩, 0x0800, [4000, 128]⟩ := rfl
  have obliging : ∀ (p : Bytes) needed, needed ≤ (p ++ List.replicate needed 0x81).length := by simp
  exact ⟨refused, needed_length_decides.1 _ _ _ refused,
    ⟨_, read, needed_length_decides.2.1 _ _ read⟩, obliging,
    needed_length_decides.2.2 _ obliging []⟩

end OpticalAccess.Frame
