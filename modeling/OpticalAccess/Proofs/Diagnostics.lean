import OpticalAccess.Message
import OpticalAccess.Proofs.Frame.Header
import OpticalAccess.Proofs.Text.Words

/-!
# What the log says of contents

A frame is logged as the text of its summary or of the reason why it has none, and a flow table as
a list of identifiers. Each text is cut into its words from the front; the words are addresses and
types of a fixed width, and decimals that end where something else than a digit follows.
-/

namespace OpticalAccess

open Text

/-! ### Summaries -/

namespace Mac

def words (m : Mac) : List (List Char) := m.octets.map fun b => Digits.hex 2 b.toNat

theorem word_of_mem_words {m : Mac} : ∀ w ∈ m.words, Word Digits.isHex w := by
  intro w member
  obtain ⟨b, -, rfl⟩ := List.mem_map.mp member
  exact Digits.word_hex 1 b.toNat

theorem words_inj {m n : Mac} : m.words = n.words ↔ m = n := by
  have octet : ∀ b c : UInt8, Digits.hex 2 b.toNat = Digits.hex 2 c.toNat → b = c := by
    intro b c same
    exact UInt8.toNat_inj.mp ((Digits.hex_inj b.toNat_lt c.toNat_lt).mp same)
  have octets : m.octets ++ [] = n.octets ++ [] ↔ m = n ∧ [] = [] := Frame.octets_append_inj
  rw [words, words, List.map_inj_right octet]
  simpa using octets

theorem chars_inj {m n : Mac} : m.chars = n.chars ↔ m = n := by
  have split : [':'].intercalate m.words ++ [] = [':'].intercalate n.words ++ [] ↔
      m.words = n.words ∧ [] = [] :=
    intercalate_append_inj (by decide) word_of_mem_words word_of_mem_words ends_nil ends_nil nofun
      nofun
  rw [List.append_nil, List.append_nil, words_inj] at split
  exact split.trans (and_iff_left rfl)

theorem length_chars (m : Mac) : m.chars.length = 17 := by
  simp [chars, octets, Digits.length_hex]

theorem chars_append_inj {m n : Mac} {rest rest' : List Char} :
    m.chars ++ rest = n.chars ++ rest' ↔ m = n ∧ rest = rest' := by
  rw [List.append_eq_append_iff_of_size_eq_left (by rw [length_chars, length_chars]), chars_inj]

end Mac

namespace Frame

theorem ethertype_append_inj {v w : UInt16} {rest rest' : List Char} :
    Digits.hex 4 v.toNat ++ rest = Digits.hex 4 w.toNat ++ rest' ↔ v = w ∧ rest = rest' := by
  rw [List.append_eq_append_iff_of_size_eq_left (by rw [Digits.length_hex, Digits.length_hex]),
    Digits.hex_inj v.toNat_lt w.toNat_lt, UInt16.toNat_inj]

namespace Summary

theorem vlanChars_cons (v : UInt16) (vlans : List UInt16) :
    vlanChars (v :: vlans) = " vlans=[".toList ++
      (", ".toList.intercalate (((v :: vlans).map UInt16.toNat).map Digits.decimal) ++ [']']) := by
  rw [vlanChars, List.append_assoc, List.map_map]
  · rfl
  · nofun

theorem vlanChars_inj {vs ws : List UInt16} : vlanChars vs = vlanChars ws ↔ vs = ws := by
  cases vs with
  | nil =>
    cases ws with
    | nil => exact iff_of_true rfl rfl
    | cons w ws => exact iff_of_false nofun nofun
  | cons v vs =>
    cases ws with
    | nil => exact iff_of_false nofun nofun
    | cons w ws =>
      rw [vlanChars_cons, vlanChars_cons, List.append_cancel_left_eq]
      apply Digits.decimals_inj.trans
      exact List.map_inj_right fun _ _ => UInt16.toNat_inj.mp

theorem chars_eq (s : Summary) :
    s.chars = "src=".toList ++ (s.source.chars ++ (" dst=".toList ++ (s.destination.chars ++
      (" ethertype=0x".toList ++ (Digits.hex 4 s.ethertype.toNat ++ vlanChars s.vlans))))) := by
  unfold chars
  simp only [List.append_assoc]

theorem chars_inj {s t : Summary} : s.chars = t.chars ↔ s = t := by
  refine ⟨fun same => ?_, congrArg chars⟩
  simp only [chars_eq, List.append_cancel_left_eq, Mac.chars_append_inj, ethertype_append_inj,
    vlanChars_inj] at same
  obtain ⟨source, destination, type, vlans⟩ := same
  cases s
  cases t
  exact (mk.injEq ..).mpr ⟨destination, source, type, vlans⟩

end Summary

namespace DecodeError

theorem chars_append (needed actual : Nat) (rest : List Char) :
    (truncated needed actual).chars ++ rest = "truncated frame: need ".toList ++
      (Digits.decimal needed ++ (" bytes, got ".toList ++ (Digits.decimal actual ++ rest))) := by
  unfold chars
  simp only [List.append_assoc]

theorem chars_append_inj {e e' : DecodeError} {rest rest' : List Char}
    (ends : Ends Digits.isDecimal rest) (ends' : Ends Digits.isDecimal rest') :
    e.chars ++ rest = e'.chars ++ rest' ↔ e = e' ∧ rest = rest' := by
  obtain ⟨needed, actual⟩ := e
  obtain ⟨needed', actual'⟩ := e'
  have blank : Digits.isDecimal ' ' = false := by decide
  have units : ∀ text, Ends Digits.isDecimal (" bytes, got ".toList ++ text) := fun _ =>
    ends_cons blank
  rw [chars_append, chars_append, List.append_cancel_left_eq,
    Digits.decimal_append_inj (units _) (units _), List.append_cancel_left_eq,
    Digits.decimal_append_inj ends ends', truncated.injEq, and_assoc]

end DecodeError

/-! ### Frames -/

/-- A refusal names the length of the frame. -/
theorem actual_of_refused {f : Frame} {needed actual : Nat}
    (refused : f.summary = .error (.truncated needed actual)) : actual = f.length :=
  (summary_eq_error_iff.mp refused).2

theorem length_of_refused {f g : Frame} {e : DecodeError} (refused : f.summary = .error e)
    (refused' : g.summary = .error e) : f.length = g.length := by
  cases e with
  | truncated needed actual => rw [← actual_of_refused refused, actual_of_refused refused']

theorem describe_apart {f g : Frame} {s : Summary} {e : DecodeError} (read : f.summary = .ok s)
    (refused : g.summary = .error e) : f.describe ≠ g.describe := by
  rw [describe, describe, ne_eq, String.ofList_inj, describeChars, describeChars, read, refused]
  nofun

theorem describe_inj {f g : Frame} : f.describe = g.describe ↔ f.summary = g.summary := by
  cases read : f.summary with
  | ok s =>
    cases read' : g.summary with
    | ok t =>
      rw [describe, describe, String.ofList_inj, describeChars, describeChars, read, read']
      exact Summary.chars_inj.trans (Except.ok.injEq s t ▸ Iff.rfl)
    | error e => exact iff_of_false (describe_apart read read') nofun
  | error e =>
    cases read' : g.summary with
    | ok t => exact iff_of_false (describe_apart read' read).symm nofun
    | error e' =>
      have comma : Digits.isDecimal ',' = false := by decide
      have behind : ∀ text, Ends Digits.isDecimal (", ".toList ++ text) := fun _ => ends_cons comma
      rw [describe, describe, String.ofList_inj, describeChars, describeChars, read, read']
      simp only [List.append_assoc, List.append_cancel_left_eq,
        DecodeError.chars_append_inj (behind _) (behind _), Except.error.injEq]
      -- The length that stands behind the reason is a part of the reason.
      refine and_iff_left_of_imp fun same => ?_
      subst same
      rw [length_of_refused read read']

end Frame

/-! ### Flow tables -/

namespace FlowRule

theorem idChars_cons (r : FlowRule) (flows : List FlowRule) :
    idChars (r :: flows) = '[' :: ([','].intercalate
      ((((r :: flows).map FlowRule.id).map UInt64.toNat).map Digits.decimal) ++ [']']) := by
  rw [List.map_map, List.map_map]
  rfl

theorem idText_inj {a b : List FlowRule} :
    idText a = idText b ↔ a.map FlowRule.id = b.map FlowRule.id := by
  rw [idText, idText, String.ofList_inj]
  cases a with
  | nil =>
    cases b with
    | nil => exact iff_of_true rfl rfl
    | cons r b => exact iff_of_false nofun nofun
  | cons q a =>
    cases b with
    | nil => exact iff_of_false nofun nofun
    | cons r b =>
      rw [idChars_cons, idChars_cons, List.cons_inj_right]
      apply Digits.decimals_inj.trans
      exact List.map_inj_right fun _ _ => UInt64.toNat_inj.mp

end FlowRule

/--
Two frames are logged alike exactly if they have the same summary or are refused for the same
reason, which includes their length, and two flow tables exactly if they list the same identifiers.
-/
theorem diagnostics_lose_nothing (f g : Frame) (a b : List FlowRule) :
    (f.describe = g.describe ↔
      (∃ s, f.summary = .ok s ∧ g.summary = .ok s) ∨
        ∃ needed actual, f.summary = .error (.truncated needed actual) ∧
          g.summary = .error (.truncated needed actual)) ∧
      (∀ e, f.summary = .error e → g.summary = .error e → f.length = g.length) ∧
      (∀ s e, f.summary = .ok s → g.summary = .error e → f.describe ≠ g.describe) ∧
      (FlowRule.idText a = FlowRule.idText b ↔ a.map FlowRule.id = b.map FlowRule.id) := by
  refine ⟨?_, fun _ => Frame.length_of_refused, fun _ _ => Frame.describe_apart,
    FlowRule.idText_inj⟩
  rw [Frame.describe_inj]
  constructor
  · intro same
    cases read : f.summary with
    | ok s => exact .inl ⟨s, rfl, same ▸ read⟩
    | error e =>
      obtain ⟨needed, actual⟩ := e
      exact .inr ⟨needed, actual, rfl, same ▸ read⟩
  · rintro (⟨s, read, read'⟩ | ⟨needed, actual, refused, refused'⟩)
    · rw [read, read']
    · rw [refused, refused']

/-- A frame with one tag and no payload. -/
def Frame.tagged : Bytes :=
  [1, 2, 3, 4, 5, 6, 10, 11, 12, 13, 14, 15, 0x81, 0x00, 0x0f, 0xa0, 0x08, 0x00]

/-- Payloads are not told apart, and the last byte of the ethertype is missed. -/
theorem diagnostics_lose_nothing_tagged :
    Frame.describe ⟨Frame.tagged ++ [1]⟩ = Frame.describe ⟨Frame.tagged ++ [2]⟩ ∧
      Frame.summary ⟨Frame.tagged.take 17⟩ = .error (.truncated 18 17) ∧
      Frame.describe ⟨Frame.tagged⟩ ≠ Frame.describe ⟨Frame.tagged.take 17⟩ := by
  have read : ∀ payload, Frame.summary ⟨Frame.tagged ++ payload⟩ =
      .ok ⟨⟨1, 2, 3, 4, 5, 6⟩, ⟨10, 11, 12, 13, 14, 15⟩, 0x0800, [4000]⟩ := fun _ => rfl
  have refused : Frame.summary ⟨Frame.tagged.take 17⟩ = .error (.truncated 18 17) := rfl
  have alike := (diagnostics_lose_nothing ⟨Frame.tagged ++ [1]⟩ ⟨Frame.tagged ++ [2]⟩ [] []).1
  have apart := (diagnostics_lose_nothing ⟨Frame.tagged⟩ ⟨Frame.tagged.take 17⟩ [] []).2.2.1
  exact ⟨alike.mpr (.inl ⟨_, read [1], read [2]⟩), refused, apart _ _ (read []) refused⟩

end OpticalAccess
