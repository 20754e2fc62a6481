import OpticalAccess.Frame

/-!
# Headers of Ethernet frames

A header names two stations, carries at most two VLAN tags and ends with an ethertype. A type that
announces a tag is an ethertype only behind two tags: then no more tags are looked for. Any bytes
either have a header in front, in one way only, or end before their header does.
-/

namespace OpticalAccess.Frame

/-! ### Words and stations as bytes -/

/-- The two bytes of a word, the higher one first. -/
def bigEndian (w : UInt16) : Bytes := [UInt8.ofNat (w.toNat / 256), UInt8.ofNat (w.toNat % 256)]

@[simp] theorem length_bigEndian (w : UInt16) : (bigEndian w).length = 2 := rfl

@[simp] theorem length_octets (m : Mac) : m.octets.length = 6 := rfl

theorem toNat_word (hi lo : UInt8) : (word hi lo).toNat = 256 * hi.toNat + lo.toNat := by
  have low : lo.toNat < 2 ^ 8 := lo.toNat_lt
  have high : hi.toNat < 2 ^ 8 := hi.toNat_lt
  have shifted : (hi.toUInt16 <<< 8).toNat = hi.toNat <<< 8 := by
    simp [Nat.shiftLeft_eq]
    omega
  rw [word, UInt16.toNat_or, shifted, UInt8.toNat_toUInt16, ← Nat.shiftLeft_add_eq_or_of_lt low,
    Nat.shiftLeft_eq]
  omega

theorem bigEndian_word (hi lo : UInt8) : bigEndian (word hi lo) = [hi, lo] := by
  have high := hi.toNat_lt
  have low := lo.toNat_lt
  have upper : (256 * hi.toNat + lo.toNat) / 256 = hi.toNat := by omega
  have lower : (256 * hi.toNat + lo.toNat) % 256 = lo.toNat := by omega
  simp [bigEndian, toNat_word, upper, lower]

theorem bigEndian_inj {v w : UInt16} : bigEndian v = bigEndian w ↔ v = w := by
  refine ⟨fun same => ?_, congrArg bigEndian⟩
  have small := v.toNat_lt
  have small' := w.toNat_lt
  simp only [bigEndian, List.cons.injEq, and_true, ← UInt8.toNat_inj, UInt8.toNat_ofNat'] at same
  apply UInt16.toNat_inj.mp
  omega

/-- Every word is read back from its bytes. -/
theorem exists_word (w : UInt16) : ∃ hi lo, bigEndian w = [hi, lo] ∧ word hi lo = w :=
  ⟨_, _, rfl, bigEndian_inj.mp (bigEndian_word _ _)⟩

theorem bigEndian_append_inj {v w : UInt16} {xs ys : Bytes} :
    bigEndian v ++ xs = bigEndian w ++ ys ↔ v = w ∧ xs = ys := by
  constructor
  · intro same
    obtain ⟨words, rest⟩ := List.append_inj same rfl
    exact ⟨bigEndian_inj.mp words, rest⟩
  · rintro ⟨rfl, rfl⟩
    rfl

theorem octets_append_inj {m n : Mac} {xs ys : Bytes} :
    m.octets ++ xs = n.octets ++ ys ↔ m = n ∧ xs = ys := by
  obtain ⟨m0, m1, m2, m3, m4, m5⟩ := m
  obtain ⟨n0, n1, n2, n3, n4, n5⟩ := n
  simp [Mac.octets, and_assoc]

/-- The identifier of a VLAN is what the low twelve bits of the control word say. -/
theorem vlanOf_eq (control : UInt16) : vlanOf control = control % 4096 := by
  apply UInt16.toNat_inj.mp
  rw [vlanOf, UInt16.toNat_and, UInt16.toNat_mod]
  exact Nat.and_two_pow_sub_one_eq_mod control.toNat 12

/-! ### Tags and headers -/

/-- What announces a tag. -/
inductive TagType where
  | customer
  | service
  | legacy
  deriving DecidableEq

namespace TagType

def value : TagType → UInt16
  | customer => 0x8100
  | service => 0x88a8
  | legacy => 0x9100

theorem value_inj {a b : TagType} : a.value = b.value ↔ a = b := by
  cases a <;> cases b <;> decide

theorem mem_tagTypes {type : UInt16} : type ∈ tagTypes ↔ ∃ kind : TagType, type = kind.value := by
  constructor
  · intro member
    simp only [tagTypes, List.mem_cons, List.not_mem_nil, or_false] at member
    rcases member with same | same | same
    · exact ⟨.customer, same⟩
    · exact ⟨.service, same⟩
    · exact ⟨.legacy, same⟩
  · rintro ⟨kind, rfl⟩
    cases kind <;> decide

end TagType

structure Tag where
  type : TagType
  control : UInt16
  deriving DecidableEq

namespace Tag

def bytes (t : Tag) : Bytes := bigEndian t.type.value ++ bigEndian t.control

def vlan (t : Tag) : UInt16 := t.control % 4096

theorem length_flatMap_bytes (tags : List Tag) : (tags.flatMap bytes).length = 4 * tags.length := by
  induction tags with
  | nil => rfl
  | cons tag tags ih =>
    simp only [List.flatMap_cons, List.length_append, List.length_cons, bytes, length_bigEndian, ih]
    omega

end Tag

structure Header where
  destination : Mac
  source : Mac
  /-- The VLAN tags, outermost first. -/
  tags : List Tag
  ethertype : UInt16
  few : tags.length ≤ 2
  settled : tags.length < 2 → ∀ kind : TagType, ethertype ≠ kind.value
  deriving DecidableEq

namespace Header

def bytes (h : Header) : Bytes :=
  h.destination.octets ++ h.source.octets ++ h.tags.flatMap Tag.bytes ++ bigEndian h.ethertype

/-- What a summary says of a header. -/
def summary (h : Header) : Summary := ⟨h.destination, h.source, h.ethertype, h.tags.map Tag.vlan⟩

end Header

/--
Bytes that end before their header does, with the length up to which the next part of the header
reaches: its first type, or a tag with the type behind it.
-/
inductive CutOff : Bytes → Nat → Prop where
  | start {p : Bytes} (short : p.length < 14) : CutOff p 14
  | tag (destination source : Mac) (tags : List Tag) (kind : TagType) (rest : Bytes)
      (few : tags.length < 2) (short : rest.length < 4) :
      CutOff (destination.octets ++ source.octets ++ tags.flatMap Tag.bytes ++
        bigEndian kind.value ++ rest) (18 + 4 * tags.length)

/-! ### Tags are read one after the other -/

theorem readTags_tag (left offset : Nat) (kind : TagType) (control next : UInt16) (rest : Bytes) :
    readTags (left + 1) offset kind.value (bigEndian control ++ (bigEndian next ++ rest)) =
      (readTags left (offset + 4) next rest).map fun (vlans, type) =>
        (control % 4096 :: vlans, type) := by
  obtain ⟨c0, c1, controlBytes, rfl⟩ := exists_word control
  obtain ⟨hi, lo, nextBytes, rfl⟩ := exists_word next
  have tagged : kind.value ∈ tagTypes := TagType.mem_tagTypes.mpr ⟨kind, rfl⟩
  simp only [controlBytes, nextBytes, List.cons_append, List.nil_append, readTags, if_pos tagged,
    vlanOf_eq]
  cases readTags left (offset + 4) (word hi lo) rest <;> rfl

theorem readTags_settled {left : Nat} {type : UInt16}
    (settled : 0 < left → ∀ kind : TagType, type ≠ kind.value) (offset : Nat) (rest : Bytes) :
    readTags left offset type rest = .ok ([], type) := by
  cases left with
  | zero => rfl
  | succ left =>
    have other : type ∉ tagTypes := by
      rw [TagType.mem_tagTypes]
      rintro ⟨kind, same⟩
      exact settled left.succ_pos kind same
    exact if_neg other

theorem readTags_cut {rest : Bytes} (short : rest.length < 4) (left offset : Nat) (kind : TagType) :
    readTags (left + 1) offset kind.value rest = .error (offset + 6) := by
  have tagged : kind.value ∈ tagTypes := TagType.mem_tagTypes.mpr ⟨kind, rfl⟩
  apply (if_pos tagged).trans
  split
  · simp only [List.length_cons] at short
    omega
  · rfl

/-- There is a type in front, whether tags follow or not. -/
theorem exists_front (tags : List Tag) (last : UInt16) (tail : Bytes) :
    ∃ first rest, tags.flatMap Tag.bytes ++ (bigEndian last ++ tail) = bigEndian first ++ rest := by
  cases tags with
  | nil => exact ⟨last, tail, rfl⟩
  | cons tag tags =>
    exact ⟨tag.type.value, _, by rw [List.flatMap_cons, Tag.bytes, List.append_assoc,
      List.append_assoc]⟩

/-- Whole tags are read, and reading goes on behind them. -/
theorem readTags_behind {tags : List Tag} {left : Nat} (few : tags.length ≤ left)
    {first last : UInt16} {rest tail : Bytes}
    (split : bigEndian first ++ rest = tags.flatMap Tag.bytes ++ (bigEndian last ++ tail))
    (offset : Nat) :
    readTags left offset first rest =
      (readTags (left - tags.length) (offset + 4 * tags.length) last tail).map
        fun (vlans, type) => (tags.map Tag.vlan ++ vlans, type) := by
  induction tags generalizing left first rest offset with
  | nil =>
    obtain ⟨rfl, rfl⟩ := bigEndian_append_inj.mp split
    show _ = (readTags left offset first rest).map id
    cases readTags left offset first rest <;> rfl
  | cons tag tags ih =>
    rw [List.length_cons] at few
    obtain ⟨left, rfl⟩ : ∃ n, left = n + 1 := ⟨left - 1, by omega⟩
    obtain ⟨next, behind, front⟩ := exists_front tags last tail
    rw [List.flatMap_cons, List.append_assoc, front, Tag.bytes, List.append_assoc,
      bigEndian_append_inj] at split
    obtain ⟨rfl, rfl⟩ := split
    rw [readTags_tag, ih (Nat.le_of_succ_le_succ few) front.symm]
    have left_eq : left + 1 - (tag :: tags).length = left - tags.length := Nat.succ_sub_succ _ _
    have offset_eq : offset + 4 * (tag :: tags).length = offset + 4 + 4 * tags.length := by
      simp only [List.length_cons]
      omega
    rw [left_eq, offset_eq]
    cases readTags (left - tags.length) (offset + 4 + 4 * tags.length) last tail <;> rfl

theorem exists_words {rest : Bytes} (long : 4 ≤ rest.length) :
    ∃ control next tail, rest = bigEndian control ++ (bigEndian next ++ tail) :=
  match rest, long with
  | c0 :: c1 :: hi :: lo :: tail, _ => ⟨word c0 c1, word hi lo, tail, by simp [bigEndian_word]⟩

/-- Behind its tags there is a type that is no tag any more, or the bytes end within a tag. -/
theorem exists_tags (left : Nat) (first : UInt16) (rest : Bytes) :
    ∃ (tags : List Tag) (last : UInt16) (tail : Bytes), tags.length ≤ left ∧
      bigEndian first ++ rest = tags.flatMap Tag.bytes ++ (bigEndian last ++ tail) ∧
      ((tags.length < left → ∀ kind : TagType, last ≠ kind.value) ∨
        tags.length < left ∧ tail.length < 4 ∧ ∃ kind : TagType, last = kind.value) := by
  induction left generalizing first rest with
  | zero =>
    exact ⟨[], first, rest, Nat.le_refl _, rfl, .inl fun more => absurd more (Nat.lt_irrefl _)⟩
  | succ left ih =>
    by_cases tagged : ∃ kind : TagType, first = kind.value
    · rcases Nat.lt_or_ge rest.length 4 with short | long
      · exact ⟨[], first, rest, Nat.zero_le _, rfl, .inr ⟨left.succ_pos, short, tagged⟩⟩
      · obtain ⟨kind, rfl⟩ := tagged
        obtain ⟨control, next, behind, rfl⟩ := exists_words long
        obtain ⟨tags, last, tail, few, split, ends⟩ := ih next behind
        refine ⟨⟨kind, control⟩ :: tags, last, tail, Nat.succ_le_succ few, ?_, ?_⟩
        · simp only [List.flatMap_cons, Tag.bytes, List.append_assoc, split]
        · simpa only [List.length_cons, Nat.add_lt_add_iff_right] using ends
    · exact ⟨[], first, rest, Nat.zero_le _, rfl, .inl fun _ kind same => tagged ⟨kind, same⟩⟩

/-- Tags and the type behind them are found in one way only. -/
theorem tags_unique {left : Nat} {tags tags' : List Tag} {last last' : UInt16} {tail tail' : Bytes}
    (few : tags.length ≤ left) (few' : tags'.length ≤ left)
    (settled : tags.length < left → ∀ kind : TagType, last ≠ kind.value)
    (settled' : tags'.length < left → ∀ kind : TagType, last' ≠ kind.value)
    (same : tags.flatMap Tag.bytes ++ (bigEndian last ++ tail) =
      tags'.flatMap Tag.bytes ++ (bigEndian last' ++ tail')) :
    tags = tags' ∧ last = last' ∧ tail = tail' := by
  induction tags generalizing left tags' with
  | nil =>
    cases tags' with
    | nil => exact ⟨rfl, bigEndian_append_inj.mp same⟩
    | cons tag' tags' =>
      simp only [List.flatMap_cons, Tag.bytes, List.append_assoc] at same
      have fewer := Nat.lt_of_lt_of_le (Nat.succ_pos _) few'
      exact absurd (bigEndian_append_inj.mp same).1 (settled fewer _)
  | cons tag tags ih =>
    cases tags' with
    | nil =>
      simp only [List.flatMap_cons, Tag.bytes, List.append_assoc] at same
      exact absurd (bigEndian_append_inj.mp same).1.symm
        (settled' (Nat.lt_of_lt_of_le (Nat.succ_pos _) few) _)
    | cons tag' tags' =>
      obtain ⟨left, rfl⟩ : ∃ n, left = n + 1 :=
        ⟨left - 1, by simp only [List.length_cons] at few; omega⟩
      simp only [List.length_cons, Nat.add_le_add_iff_right, Nat.add_lt_add_iff_right] at *
      simp only [List.flatMap_cons, Tag.bytes, List.append_assoc, bigEndian_append_inj,
        TagType.value_inj] at same
      obtain ⟨types, controls, behind⟩ := same
      obtain ⟨tags_eq, ends⟩ := ih few few' settled settled' behind
      have tag_eq : tag = tag' := by
        cases tag
        cases tag'
        exact congr (congrArg Tag.mk types) controls
      exact ⟨by rw [tag_eq, tags_eq], ends⟩

/-! ### Headers -/

theorem exists_of_length {a : Bytes} (long : 14 ≤ a.length) :
    ∃ d0 d1 d2 d3 d4 d5 s0 s1 s2 s3 s4 s5 hi lo rest,
      a = d0 :: d1 :: d2 :: d3 :: d4 :: d5 :: s0 :: s1 :: s2 :: s3 :: s4 :: s5 ::
        hi :: lo :: rest :=
  match a, long with
  | d0 :: d1 :: d2 :: d3 :: d4 :: d5 :: s0 :: s1 :: s2 :: s3 :: s4 :: s5 :: hi :: lo :: rest, _ =>
    ⟨d0, d1, d2, d3, d4, d5, s0, s1, s2, s3, s4, s5, hi, lo, rest, rfl⟩

/-- Bytes that reach as far as the first type, in their parts. -/
theorem exists_stations {p : Bytes} (long : 14 ≤ p.length) :
    ∃ (destination source : Mac) (type : UInt16) (rest : Bytes),
      p = destination.octets ++ source.octets ++ (bigEndian type ++ rest) := by
  obtain ⟨d0, d1, d2, d3, d4, d5, s0, s1, s2, s3, s4, s5, hi, lo, rest, rfl⟩ :=
    exists_of_length long
  exact ⟨⟨d0, d1, d2, d3, d4, d5⟩, ⟨s0, s1, s2, s3, s4, s5⟩, word hi lo, rest,
    by simp [Mac.octets, bigEndian_word]⟩

theorem summary_stations (destination source : Mac) (type : UInt16) (rest : Bytes) :
    let p := destination.octets ++ source.octets ++ (bigEndian type ++ rest)
    summary ⟨p⟩ =
      match readTags maxTags 12 type rest with
      | .ok (vlans, type) => .ok ⟨destination, source, type, vlans⟩
      | .error needed => .error (.truncated needed p.length) := by
  obtain ⟨hi, lo, bytes, rfl⟩ := exists_word type
  rw [bytes]
  rfl

theorem summary_short {p : Bytes} (short : p.length < 14) :
    summary ⟨p⟩ = .error (.truncated 14 p.length) := by
  unfold summary
  split
  · rename_i content
    simp only at content
    rw [content] at short
    simp only [List.length_cons] at short
    omega
  · rfl

/-- The summary of bytes that have a header in front. -/
theorem summary_header (h : Header) (rest : Bytes) : summary ⟨h.bytes ++ rest⟩ = .ok h.summary := by
  obtain ⟨first, behind, front⟩ := exists_front h.tags h.ethertype rest
  have tags : readTags maxTags 12 first behind = .ok (h.tags.map Tag.vlan, h.ethertype) := by
    have few : h.tags.length ≤ maxTags := h.few
    rw [readTags_behind few front.symm, readTags_settled]
    · simp [Except.map]
    · intro more kind
      exact h.settled (Nat.lt_of_sub_pos more) kind
  have bytes : h.bytes ++ rest =
      h.destination.octets ++ h.source.octets ++ (bigEndian first ++ behind) := by
    rw [← front]
    simp only [Header.bytes, List.append_assoc]
  rw [bytes, summary_stations, tags]
  rfl

theorem summary_cutOff {p : Bytes} {needed : Nat} (cut : CutOff p needed) :
    summary ⟨p⟩ = .error (.truncated needed p.length) := by
  cases cut with
  | start short => exact summary_short short
  | tag destination source tags kind rest few short =>
    obtain ⟨first, behind, front⟩ := exists_front tags kind.value rest
    have fewer : tags.length ≤ maxTags := Nat.le_of_lt few
    obtain ⟨left, left_eq⟩ : ∃ n, maxTags - tags.length = n + 1 :=
      ⟨1 - tags.length, by simp only [maxTags]; omega⟩
    have cut : readTags maxTags 12 first behind = .error (18 + 4 * tags.length) := by
      rw [readTags_behind fewer front.symm, left_eq, readTags_cut short]
      simp only [Except.map]
      congr 1
      omega
    simp only [List.append_assoc, front]
    rw [← List.append_assoc, summary_stations, cut]

theorem header_or_cutOff (p : Bytes) :
    (∃ h rest, p = Header.bytes h ++ rest) ∨ ∃ needed, CutOff p needed := by
  rcases Nat.lt_or_ge p.length 14 with short | long
  · exact .inr ⟨14, .start short⟩
  · obtain ⟨destination, source, first, rest, rfl⟩ := exists_stations long
    obtain ⟨tags, last, tail, few, split, ends⟩ := exists_tags 2 first rest
    rw [split]
    rcases ends with settled | ⟨fewer, short, kind, rfl⟩
    · refine .inl ⟨⟨destination, source, tags, last, few, settled⟩, tail, ?_⟩
      simp only [Header.bytes, List.append_assoc]
    · refine .inr ⟨18 + 4 * tags.length, ?_⟩
      simpa only [List.append_assoc] using CutOff.tag destination source tags kind tail fewer short

theorem Header.bytes_append_inj {h h' : Header} {rest rest' : Bytes} :
    h.bytes ++ rest = h'.bytes ++ rest' ↔ h = h' ∧ rest = rest' := by
  constructor
  · intro same
    simp only [Header.bytes, List.append_assoc, octets_append_inj] at same
    obtain ⟨destinations, sources, behind⟩ := same
    obtain ⟨tags, types, rests⟩ := tags_unique h.few h'.few h.settled h'.settled behind
    cases h
    cases h'
    simp only at destinations sources tags types
    subst destinations sources tags types
    exact ⟨rfl, rests⟩
  · rintro ⟨rfl, rfl⟩
    rfl

/-! ### What a summary is made of -/

theorem summary_eq_ok_iff {p : Bytes} {s : Summary} :
    summary ⟨p⟩ = .ok s ↔ ∃ h rest, p = Header.bytes h ++ rest ∧ h.summary = s := by
  constructor
  · intro read
    rcases header_or_cutOff p with ⟨h, rest, rfl⟩ | ⟨needed, cut⟩
    · rw [summary_header] at read
      exact ⟨h, rest, rfl, Except.ok.inj read⟩
    · rw [summary_cutOff cut] at read
      cases read
  · rintro ⟨h, rest, rfl, rfl⟩
    exact summary_header h rest

theorem summary_eq_error_iff {p : Bytes} {needed actual : Nat} :
    summary ⟨p⟩ = .error (.truncated needed actual) ↔ CutOff p needed ∧ actual = p.length := by
  constructor
  · intro refused
    rcases header_or_cutOff p with ⟨h, rest, rfl⟩ | ⟨needed', cut⟩
    · rw [summary_header] at refused
      cases refused
    · rw [summary_cutOff cut] at refused
      cases refused
      exact ⟨cut, rfl⟩
  · rintro ⟨cut, rfl⟩
    exact summary_cutOff cut

end OpticalAccess.Frame
