import OpticalAccess.Config.Reader
import OpticalAccess.Proofs.Json5.Bare

/-!
# Configurations without places

Where the values of a document stand does not matter to the configuration that is read from it. The
places only tell where something is wrong.
-/

namespace OpticalAccess

open Json5 (Node Slot)

/-! ### Values -/

theorem Role.ofLabel_place (place place' : Position) (s : String) :
    (ofLabel place' s).toOption = (ofLabel place s).toOption := by
  unfold ofLabel
  split
  · rfl
  · split <;> rfl

theorem Role.ofNode_bare (n : Node) : (ofNode n.bare).toOption = (ofNode n).toOption := by
  cases n with
  | text site pieces =>
    simp only [Node.bare, ofNode, toOption_bind, Json5.toOption_textOf]
    exact Option.bind_congr fun s _ => ofLabel_place _ _ s
  | object site members =>
    cases members with
    | nil => rfl
    | cons entry rest =>
      simp only [Node.bare, Node.bareMembers, ofNode, toOption_bind, Json5.Key.text_bare]
      exact Option.bind_congr fun s _ => ofLabel_place _ _ s
  | _ => rfl

theorem portOf_bare (n : Node) : (portOf n.bare).toOption = (portOf n).toOption := by
  simp only [portOf, toOption_map, Node.asInteger_bare]

theorem sizeOf64_bare (n : Node) : (sizeOf64 n.bare).toOption = (sizeOf64 n).toOption := by
  simp only [sizeOf64, toOption_map, Node.asInteger_bare]

theorem uniPortOf_bare (n : Node) : (uniPortOf n.bare).toOption = (uniPortOf n).toOption := by
  simp only [uniPortOf, toOption_map, Node.asInteger_bare]

/-! ### Records -/

theorem slot_alike {name : String} {required : Bool} {get : σ → Option α} {set : σ → α → σ}
    {read read' : Node → Except Fault α}
    (same : ∀ n, (read' n.bare).toOption = (read n).toOption) :
    Slot.Alike (slot name required get set read) (slot name required get set read') :=
  ⟨rfl, rfl, rfl, fun _ n => by simp only [slot, toOption_map, same n]⟩

theorem DeviceConfig.ofNode_bare (n : Node) : (ofNode n.bare).toOption = (ofNode n).toOption := by
  have alike : List.Forall₂ Slot.Alike slots slots :=
    .cons (slot_alike Role.ofNode_bare) <| .cons (slot_alike Node.asText_bare) <|
      .cons (slot_alike Node.asText_bare) <| .cons (slot_alike portOf_bare) .nil
  simp only [ofNode, toOption_map, Slot.read_alike alike]

theorem Child.ofNode_bare (n : Node) : (ofNode n.bare).toOption = (ofNode n).toOption := by
  have alike : List.Forall₂ Slot.Alike slots slots :=
    .cons (slot_alike uniPortOf_bare) <| .cons (slot_alike Node.asText_bare) <|
      .cons (slot_alike portOf_bare) .nil
  simp only [ofNode, toOption_map, Slot.read_alike alike]

theorem ServerTls.ofNode_bare (n : Node) : (ofNode n.bare).toOption = (ofNode n).toOption := by
  have alike : List.Forall₂ Slot.Alike slots slots :=
    .cons (slot_alike Node.asText_bare) <| .cons (slot_alike Node.asText_bare) .nil
  simp only [ofNode, toOption_map, Slot.read_alike alike]

theorem RouterConfig.ofNode_bare (n : Node) : (ofNode n.bare).toOption = (ofNode n).toOption := by
  have alike : List.Forall₂ Slot.Alike slots slots :=
    .cons (slot_alike sizeOf64_bare) <| .cons (slot_alike sizeOf64_bare) <|
      .cons (slot_alike sizeOf64_bare) <| .cons (slot_alike sizeOf64_bare) .nil
  simp only [ofNode, toOption_map, Slot.read_alike alike]

/-! ### Transports -/

namespace ChildTransport

theorem modeOf_bare (n : Node) : (modeOf n.bare).toOption = (modeOf n).toOption := by
  cases n with
  | text site pieces =>
    simp only [Node.bare, modeOf, toOption_bind, Json5.toOption_textOf]
    refine Option.bind_congr fun s _ => ?_
    cases Mode.ofLabel s <;> rfl
  | _ => simp [Node.bare, modeOf]

theorem splitMembers_bare (place place' : Position) (mode : Option Mode)
    (members : List (Json5.Key × Node)) :
    (splitMembers place' mode (Node.bareMembers members)).toOption =
      (splitMembers place mode members).toOption := by
  induction members generalizing mode with
  | nil => rfl
  | cons entry rest ih =>
    obtain ⟨key, n⟩ := entry
    simp only [Node.bareMembers, splitMembers, toOption_bind, Json5.Key.text_bare]
    refine Option.bind_congr fun name _ => ?_
    split
    · split
      · rfl
      · simp only [toOption_bind, modeOf_bare, ih]
    · simp only [toOption_bind, Node.content_bare, ih]

theorem toOption_ofNode_object (enclosing : Position) (site : Json5.Site)
    (members : List (Json5.Key × Node)) :
    (ofNode enclosing (.object site members)).toOption =
      (splitMembers site.place none members).toOption.bind fun (mode, others) =>
        mode.bind fun mode => (ofParts mode (.map others)).toOption := by
  cases split : splitMembers site.place none members with
  | error fault => simp [ofNode, split]
  | ok parts =>
    obtain ⟨mode, others⟩ := parts
    cases mode with
    | none => simp [ofNode, split]
    | some mode => cases read : ofParts mode (.map others) <;> simp [ofNode, split, read]

theorem toOption_ofNode_array (enclosing : Position) (site : Json5.Site) (first : Node)
    (rest : List Node) :
    (ofNode enclosing (.array site (first :: rest))).toOption =
      (modeOf first).toOption.bind fun mode =>
        (Node.contents rest).toOption.bind fun items =>
          (ofParts mode (.sequence items)).toOption := by
  cases named : modeOf first with
  | error fault => simp [ofNode, named]
  | ok mode =>
    cases others : Node.contents rest with
    | error fault => simp [ofNode, named, others]
    | ok items =>
      cases read : ofParts mode (.sequence items) <;> simp [ofNode, named, others, read]

theorem ofNode_bare (enclosing enclosing' : Position) (n : Node) :
    (ofNode enclosing' n.bare).toOption = (ofNode enclosing n).toOption := by
  cases n with
  | object site members =>
    rw [Node.bare, toOption_ofNode_object, toOption_ofNode_object, splitMembers_bare site.place]
  | array site items =>
    cases items with
    | nil => rfl
    | cons first rest =>
      rw [Node.bare, Node.bareItems, toOption_ofNode_array, toOption_ofNode_array, modeOf_bare,
        Node.contents_bare]
  | _ => simp [Node.bare, ofNode]

end ChildTransport

/-! ### The configuration -/

namespace Config

theorem mapM_child_bare (items : List Node) :
    ((items.map Node.bare).mapM Child.ofNode).toOption = (items.mapM Child.ofNode).toOption := by
  induction items with
  | nil => rfl
  | cons n rest ih =>
    simp only [List.map_cons, List.mapM_cons, toOption_bind, Child.ofNode_bare, ih]

theorem childrenOf_bare (n : Node) : (childrenOf n.bare).toOption = (childrenOf n).toOption := by
  simp only [childrenOf, toOption_bind, Node.asSequence_bare, Option.bind_map]
  exact Option.bind_congr fun items _ => mapM_child_bare items

theorem serverTlsOf_of_ne_null {n : Node} (given : ∀ site, n ≠ .null site) :
    serverTlsOf n = (ServerTls.ofNode n).map some := by
  cases n with
  | null site => exact absurd rfl (given site)
  | _ => rfl

theorem serverTlsOf_bare (n : Node) : (serverTlsOf n.bare).toOption = (serverTlsOf n).toOption := by
  cases n with
  | null => rfl
  | _ =>
    rw [serverTlsOf_of_ne_null (by simp [Node.bare]), serverTlsOf_of_ne_null (by simp),
      toOption_map, toOption_map, ServerTls.ofNode_bare]

theorem slots_alike (place place' : Position) :
    List.Forall₂ Slot.Alike (slots place) (slots place') :=
  .cons (slot_alike DeviceConfig.ofNode_bare) <| .cons (slot_alike childrenOf_bare) <|
    .cons (slot_alike (ChildTransport.ofNode_bare place place')) <|
    .cons (slot_alike serverTlsOf_bare) <| .cons (slot_alike RouterConfig.ofNode_bare) <|
    .cons (slot_alike sizeOf64_bare) .nil

theorem ofNode_bare (n : Node) : (ofNode n.bare).toOption = (ofNode n).toOption := by
  simp only [ofNode, toOption_map, Slot.read_alike (slots_alike n.place n.bare.place)]

/-- Documents that say the same are read as the same configuration. -/
theorem ofNode_congr {m n : Node} (same : m.bare = n.bare) :
    (ofNode m).toOption = (ofNode n).toOption := by
  rw [← ofNode_bare m, same, ofNode_bare n]

theorem parse_eq_ok_iff {text : String} {c : Config} :
    parse text = .ok c ↔ ∃ n, Node.parse text = .ok n ∧ ofNode n = .ok c ∧ c.check = .ok () := by
  constructor
  · intro parsed
    unfold parse at parsed
    split at parsed
    · cases parsed
    · rename_i n tree
      split at parsed
      · cases parsed
      · rename_i read
        split at parsed
        · cases parsed
        · rename_i checked
          obtain rfl := Except.ok.inj parsed
          exact ⟨n, tree, read, checked⟩
  · rintro ⟨n, tree, read, checked⟩
    simp only [parse, tree, read, checked]

/-- A text is accepted as what any document is read as that says the same. -/
theorem parse_eq_ok_iff_of_bare {text : String} {n m : Node} {c : Config}
    (tree : Node.parse text = .ok n) (same : n.bare = m.bare) :
    parse text = .ok c ↔ ofNode m = .ok c ∧ c.check = .ok () := by
  rw [parse_eq_ok_iff, tree]
  simp only [Except.ok.injEq, exists_eq_left', ← toOption_eq_some (x := ofNode _),
    ofNode_congr same]

end Config
end OpticalAccess
