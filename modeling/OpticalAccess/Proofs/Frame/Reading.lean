import OpticalAccess.Proofs.Frame.Header

/-!
# Reading a header

A summary is read off the header in front of a frame, and there is none if the frame ends before its
header does. It can be read byte by byte, at offsets that move on from tag to tag: the lengths that
are checked on the way keep every such read within the frame.
-/

namespace OpticalAccess.Frame

/-! ### Reading at offsets -/

/-- The word at an offset; none if a byte of it is outside. -/
def wordAt? (p : Bytes) (offset : Nat) : Option UInt16 := do
  return word (← p[offset]?) (← p[offset + 1]?)

def macAt? (p : Bytes) (offset : Nat) : Option Mac := do
  return ⟨← p[offset]?, ← p[offset + 1]?, ← p[offset + 2]?, ← p[offset + 3]?, ← p[offset + 4]?,
    ← p[offset + 5]?⟩

/--
Reads at most `left` tags behind those whose identifiers are known, from the type at `offset` on. A
read outside the bytes is no outcome at all.
-/
def tagsAt? (p : Bytes) : (left offset : Nat) → (vlans : List UInt16) →
    Option (Except Nat (List UInt16 × UInt16))
  | 0, offset, vlans => do return .ok (vlans, ← wordAt? p offset)
  | left + 1, offset, vlans => do
    let type ← wordAt? p offset
    if type ∈ tagTypes then
      if p.length < offset + 6 then return .error (offset + 6)
      let control ← wordAt? p (offset + 2)
      tagsAt? p left (offset + 4) (vlans ++ [vlanOf control])
    else return .ok (vlans, type)

/-- The summary as it is read byte by byte; none if a read falls outside. -/
def summaryAt? (p : Bytes) : Option (Except DecodeError Summary) := do
  if p.length < 14 then return .error (.truncated 14 p.length)
  let destination ← macAt? p 0
  let source ← macAt? p 6
  match ← tagsAt? p maxTags 12 [] with
  | .ok (vlans, type) => return .ok ⟨destination, source, type, vlans⟩
  | .error needed => return .error (.truncated needed p.length)

theorem wordAt?_eq {p front rest : Bytes} {w : UInt16} {offset : Nat}
    (split : p = front ++ (bigEndian w ++ rest)) (here : front.length = offset) :
    wordAt? p offset = some w := by
  obtain ⟨hi, lo, bytes, rfl⟩ := exists_word w
  subst split here
  simp [wordAt?, bytes]

theorem macAt?_eq {p front rest : Bytes} {m : Mac} {offset : Nat}
    (split : p = front ++ (m.octets ++ rest)) (here : front.length = offset) :
    macAt? p offset = some m := by
  subst split here
  simp [macAt?, Mac.octets]

/-- Reading tags at offsets comes to reading them off the front, and no read is outside. -/
theorem tagsAt?_eq {p front rest : Bytes} {type : UInt16} {offset : Nat} (left : Nat)
    (split : p = front ++ (bigEndian type ++ rest)) (here : front.length = offset)
    (vlans : List UInt16) :
    tagsAt? p left offset vlans =
      some ((readTags left offset type rest).map fun (more, type) => (vlans ++ more, type)) := by
  induction left generalizing front type rest offset vlans with
  | zero => simp [tagsAt?, wordAt?_eq split here, readTags, Except.map]
  | succ left ih =>
    have typed := wordAt?_eq split here
    have length : p.length = offset + 2 + rest.length := by
      rw [split, List.length_append, List.length_append, length_bigEndian, here, Nat.add_assoc]
    by_cases tagged : ∃ kind : TagType, type = kind.value
    · obtain ⟨kind, rfl⟩ := tagged
      have member : kind.value ∈ tagTypes := TagType.mem_tagTypes.mpr ⟨kind, rfl⟩
      rcases Nat.lt_or_ge rest.length 4 with short | long
      · have cut : p.length < offset + 6 := by omega
        rw [readTags_cut short, tagsAt?]
        simp only [typed, Option.bind_eq_bind, Option.bind_some, if_pos member, if_pos cut]
        rfl
      · obtain ⟨control, next, behind, rfl⟩ := exists_words long
        have enough : ¬ p.length < offset + 6 := by omega
        have past : p = (front ++ bigEndian kind.value) ++
            (bigEndian control ++ (bigEndian next ++ behind)) := by rw [split, List.append_assoc]
        have there : (front ++ bigEndian kind.value).length = offset + 2 := by
          rw [List.length_append, here, length_bigEndian]
        have controlled := wordAt?_eq past there
        -- The tag moves over to what is already read, and with it the offset.
        have moved : p = (front ++ bigEndian kind.value ++ bigEndian control) ++
            (bigEndian next ++ behind) := by rw [past, List.append_assoc _ (bigEndian control)]
        have later := ih moved (by rw [List.length_append, there, length_bigEndian])
          (vlans ++ [control % 4096])
        rw [readTags_tag, tagsAt?]
        simp only [typed, Option.bind_eq_bind, Option.bind_some, if_pos member, if_neg enough,
          controlled, vlanOf_eq, later]
        cases readTags left (offset + 4) next behind <;> simp [Except.map]
    · have other : type ∉ tagTypes := mt TagType.mem_tagTypes.mp tagged
      rw [readTags_settled (fun _ kind same => tagged ⟨kind, same⟩), tagsAt?]
      simp [typed, other, Except.map]

theorem summaryAt?_eq (p : Bytes) : summaryAt? p = some (summary ⟨p⟩) := by
  rcases Nat.lt_or_ge p.length 14 with short | long
  · rw [summary_short short, summaryAt?, if_pos short]
    rfl
  · obtain ⟨destination, source, type, rest, split⟩ := exists_stations long
    have ahead : p = destination.octets ++ (source.octets ++ (bigEndian type ++ rest)) := by
      rw [split, List.append_assoc]
    have destinations : macAt? p 0 = some destination := macAt?_eq (ahead.trans rfl) List.length_nil
    have sources : macAt? p 6 = some source := macAt?_eq ahead rfl
    have typeAt : (destination.octets ++ source.octets).length = 12 := rfl
    have tags := tagsAt?_eq maxTags split typeAt []
    rw [summaryAt?, if_neg (Nat.not_lt.mpr long)]
    simp only [destinations, sources, tags, Option.bind_eq_bind, Option.bind_some]
    rw [split, summary_stations]
    cases readTags maxTags 12 type rest <;> rfl

/-! ### What is accepted -/

/--
A frame has a summary exactly if a header stands in front of it. There is no more than one way to
see a header there, and the summary is that of the header. Any other frame ends too early. No read
falls outside the frame, whatever it holds.
-/
theorem summary_reads_headers (p : Bytes) :
    (∀ s, summary ⟨p⟩ = .ok s ↔ ∃ h rest, p = Header.bytes h ++ rest ∧ h.summary = s) ∧
      (∀ h h' rest rest', p = Header.bytes h ++ rest → p = Header.bytes h' ++ rest' →
        h = h' ∧ rest = rest') ∧
      ((∀ h rest, p ≠ Header.bytes h ++ rest) ↔
        ∃ needed, summary ⟨p⟩ = .error (.truncated needed p.length)) ∧
      summaryAt? p = some (summary ⟨p⟩) := by
  refine ⟨fun s => summary_eq_ok_iff, ?_, ?_, summaryAt?_eq p⟩
  · intro h h' rest rest' split split'
    exact Header.bytes_append_inj.mp (split.symm.trans split')
  · constructor
    · intro none
      rcases header_or_cutOff p with ⟨h, rest, split⟩ | ⟨needed, cut⟩
      · exact absurd split (none h rest)
      · exact ⟨needed, summary_cutOff cut⟩
    · rintro ⟨needed, refused⟩ h rest rfl
      rw [summary_header] at refused
      cases refused

/-- A header with two tags; its ethertype would announce a third one. -/
def stacked : Header where
  destination := ⟨1, 2, 3, 4, 5, 6⟩
  source := ⟨10, 11, 12, 13, 14, 15⟩
  tags := [⟨.service, 0xefa0⟩, ⟨.customer, 0x0080⟩]
  ethertype := 0x9100
  few := by decide
  settled := fun fewer => absurd fewer (by decide)

theorem summary_reads_headers_stacked :
    let p := stacked.bytes ++ [0, 7, 8, 0]
    summary ⟨p⟩ = .ok ⟨⟨1, 2, 3, 4, 5, 6⟩, ⟨10, 11, 12, 13, 14, 15⟩, 0x9100, [4000, 128]⟩ ∧
      p = stacked.bytes ++ [0, 7, 8, 0] ∧
      (∀ h rest, p = Header.bytes h ++ rest → stacked = h ∧ [0, 7, 8, 0] = rest) := by
  intro p
  obtain ⟨accepts, unique, -⟩ := summary_reads_headers p
  exact ⟨(accepts _).mpr ⟨stacked, _, rfl, by decide⟩, rfl,
    fun h rest split => unique stacked h _ rest rfl split⟩

end OpticalAccess.Frame
