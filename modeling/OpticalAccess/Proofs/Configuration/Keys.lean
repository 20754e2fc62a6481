import OpticalAccess.Proofs.Configuration.RoundTrip
import OpticalAccess.Proofs.Json5.Records

/-!
# Keys that a configuration does not have

An object that is read as a part of a configuration has the keys of the part and no others, unless
the part is the transport. There a key that the mode does not know is dropped with its value, as
long as the value can be read at all.
-/

namespace OpticalAccess

open Json5 (Key Node Slot)

/-! ### Slots -/

theorem map_eq_ok_iff {x : Except ε α} {f : α → β} {b : β} :
    x.map f = .ok b ↔ ∃ a, x = .ok a ∧ f a = b := by
  cases x <;> simp [Except.map]

theorem slot_fill_iff {name : String} {required : Bool} {get : σ → Option α} {set : σ → α → σ}
    {read : Node → Except Fault α} {draft next : σ} {n : Node} :
    (slot name required get set read).fill draft n = .ok next ↔
      ∃ value, read n = .ok value ∧ set draft value = next := by
  simp [slot, map_eq_ok_iff]

/-! ### Transports -/

namespace ChildTransport

variable {place : Position} {mode found : Option Mode} {members : List (String × Content)}

theorem splitMembers_cons_iff {key : Key} {n : Node} {rest : List (Key × Node)} :
    splitMembers place mode ((key, n) :: rest) = .ok (found, members) ↔
      ∃ name, key.text = .ok name ∧
        if name = "mode" then
          mode = none ∧ ∃ m, modeOf n = .ok m ∧ splitMembers place (some m) rest =
            .ok (found, members)
        else
          ∃ c others, n.content = .ok c ∧ splitMembers place mode rest = .ok (found, others) ∧
            members = (name, c) :: others := by
  rw [← toOption_eq_some]
  by_cases named : ∃ name, key.text = .ok name
  · obtain ⟨name, named⟩ := named
    by_cases tag : name = "mode"
    · cases mode <;> simp [splitMembers, named, tag, toOption_eq_some, Option.bind_eq_some_iff]
    · have some_iff : ∀ (o : List (String × Content)) a b, o = a :: b ↔ a :: b = o :=
        fun _ _ _ => eq_comm
      cases others : splitMembers place mode rest <;>
        simp [splitMembers, named, tag, others, toOption_eq_some, Option.bind_eq_some_iff,
          Functor.map, Except.map, Prod.ext_iff, some_iff members]
  · cases fault : key.text <;> simp_all [splitMembers]

/-- A member that is not the mode joins the others where it stands. -/
theorem splitMembers_inserted {key : Key} {value : Node} {name : String} {content : Content}
    (named : key.text = .ok name) (other : name ≠ "mode") (read : value.content = .ok content)
    {before after : List (Key × Node)}
    (done : splitMembers place mode (before ++ after) = .ok (found, members)) :
    ∃ front back, members = front ++ back ∧
      splitMembers place mode (before ++ (key, value) :: after) =
        .ok (found, front ++ (name, content) :: back) := by
  induction before generalizing mode members with
  | nil =>
    refine ⟨[], members, rfl, splitMembers_cons_iff.mpr ⟨name, named, ?_⟩⟩
    rw [if_neg other]
    exact ⟨content, members, read, done, rfl⟩
  | cons entry before ih =>
    obtain ⟨first, first_named, rest⟩ := splitMembers_cons_iff.mp done
    by_cases tag : first = "mode"
    · rw [if_pos tag] at rest
      obtain ⟨fresh, m, mode_read, done⟩ := rest
      obtain ⟨front, back, split, done⟩ := ih done
      refine ⟨front, back, split, splitMembers_cons_iff.mpr ⟨first, first_named, ?_⟩⟩
      rw [if_pos tag]
      exact ⟨fresh, m, mode_read, done⟩
    · rw [if_neg tag] at rest
      obtain ⟨c, others, first_read, tail, rfl⟩ := rest
      obtain ⟨front, back, rfl, longer⟩ := ih tail
      refine ⟨(first, c) :: front, back, rfl, splitMembers_cons_iff.mpr ⟨first, first_named, ?_⟩⟩
      rw [if_neg tag]
      exact ⟨c, _, first_read, longer, rfl⟩

/-- A member that is not the mode is read, whatever becomes of it. -/
theorem splitMembers_member {key : Key} {value : Node} {before after : List (Key × Node)}
    (done : splitMembers place mode (before ++ (key, value) :: after) = .ok (found, members)) :
    ∃ name, key.text = .ok name ∧ (name ≠ "mode" → ∃ content, value.content = .ok content) := by
  induction before generalizing mode members with
  | nil =>
    obtain ⟨name, named, rest⟩ := splitMembers_cons_iff.mp done
    refine ⟨name, named, fun other => ?_⟩
    rw [if_neg other] at rest
    obtain ⟨content, -, read, -⟩ := rest
    exact ⟨content, read⟩
  | cons entry before ih =>
    obtain ⟨first, -, rest⟩ := splitMembers_cons_iff.mp done
    split at rest
    · obtain ⟨-, m, -, done⟩ := rest
      exact ih done
    · obtain ⟨-, others, -, done, -⟩ := rest
      exact ih done

/-- The keys of a transport in a document. -/
def keys : ChildTransport → List String
  | plaintext => ["mode"]
  | tls .. => ["mode", "ca_certificate", "domain_name"]

theorem mode_mem_keys (t : ChildTransport) : "mode" ∈ t.keys := by
  cases t <;> exact List.mem_cons_self

theorem ofParts_tls {parts : List (String × Content)} {t : ChildTransport}
    (done : ofParts .tls (.map parts) = .ok t) : ∃ ca domain, t = tls ca domain := by
  rw [ofParts] at done
  cases filled : parts.foldlM TlsDraft.fill {} with
  | error problem => simp [filled, bind, Except.bind] at done
  | ok draft =>
    simp only [filled, bind, Except.bind, TlsDraft.complete] at done
    split at done <;> cases done
    exact ⟨_, _, rfl⟩

/-- A member that the mode does not know is left alone. -/
theorem ofParts_inserted {m : Mode} {t : ChildTransport} {name : String} (content : Content)
    (unknown : name ∉ t.keys) {front back : List (String × Content)}
    (done : ofParts m (.map (front ++ back)) = .ok t) :
    ofParts m (.map (front ++ (name, content) :: back)) = .ok t := by
  cases m with
  | plaintext => exact done
  | tls =>
    obtain ⟨ca, domain, rfl⟩ := ofParts_tls done
    have apart : name ≠ "ca_certificate" ∧ name ≠ "domain_name" := by
      simp only [keys, List.mem_cons, List.not_mem_nil, or_false, not_or] at unknown
      exact unknown.2
    have passed : ∀ draft : TlsDraft, draft.fill (name, content) = .ok draft := by
      intro draft
      simp [TlsDraft.fill, apart]
    simpa [ofParts, List.foldlM_append, passed, bind, Except.bind] using done

theorem ofNode_object_iff {enclosing : Position} {site : Json5.Site} {t : ChildTransport}
    {members : List (Key × Node)} :
    ofNode enclosing (.object site members) = .ok t ↔
      ∃ m others, splitMembers site.place none members = .ok (some m, others) ∧
        ofParts m (.map others) = .ok t := by
  rw [← toOption_eq_some, toOption_ofNode_object]
  simp only [Option.bind_eq_some_iff, toOption_eq_some, Prod.exists]
  simp
  exact exists_comm

theorem ofNode_inserted {enclosing enclosing' : Position} {site : Json5.Site} {t : ChildTransport}
    {before after : List (Key × Node)} {key : Key} {value : Node} {name : String}
    {content : Content} (named : key.text = .ok name) (unknown : name ∉ t.keys)
    (read : value.content = .ok content)
    (done : ofNode enclosing (.object site (before ++ after)) = .ok t) :
    ofNode enclosing' (.object site (before ++ (key, value) :: after)) = .ok t := by
  obtain ⟨m, others, parts, done⟩ := ofNode_object_iff.mp done
  have other : name ≠ "mode" := fun same => unknown (same ▸ t.mode_mem_keys)
  obtain ⟨front, back, rfl, longer⟩ := splitMembers_inserted named other read parts
  exact ofNode_object_iff.mpr ⟨m, _, longer, ofParts_inserted content unknown done⟩

end ChildTransport

/-! ### Parts -/

namespace Config

/-- A kind of objects in a configuration. -/
inductive Part where
  | config
  | device
  | child
  | childTransport
  | serverTls
  | router
  deriving DecidableEq

namespace Part

/-- The keys that an object of a part may have in a configuration with the given transport. -/
def keys (transport : ChildTransport) : Part → List String
  | config =>
    ["device", "children", "child_transport", "server_tls", "router", "outgoing_queue_size"]
  | device => ["role", "name", "address", "port"]
  | child => ["uni_port", "address", "port"]
  | childTransport => transport.keys
  | serverTls => ["certificate", "key"]
  | router =>
    ["stats_fanout_concurrency", "relay_buffer", "connect_timeout_ms", "call_timeout_ms"]

theorem keys_of_ne {part : Part} (strict : part ≠ childTransport) (t t' : ChildTransport) :
    part.keys t = part.keys t' := by
  cases part
  case childTransport => exact absurd rfl strict
  all_goals rfl

/-- The second document is the first one with `m'` for `m`, which stands there as a part. -/
inductive Exchanged (m m' : Node) : Part → Node → Node → Prop where
  | config : Exchanged m m' config m m'
  | device (at_device : Json5.Exchanged "device" 0 m m' n n') : Exchanged m m' device n n'
  | child (site : Json5.Site) (before after : List Node)
      (at_children : Json5.Exchanged "children" 1 (.array site (before ++ m :: after))
        (.array site (before ++ m' :: after)) n n') :
      Exchanged m m' child n n'
  | childTransport (at_transport : Json5.Exchanged "child_transport" 2 m m' n n') :
      Exchanged m m' childTransport n n'
  | serverTls (at_tls : Json5.Exchanged "server_tls" 3 m m' n n') : Exchanged m m' serverTls n n'
  | router (at_router : Json5.Exchanged "router" 4 m m' n n') : Exchanged m m' router n n'

/-- An object stands in a document as a part. -/
def Stands (part : Part) (m root : Node) : Prop := part.Exchanged m m root root

theorem Exchanged.there {part : Part} (exchanged : part.Exchanged m m' n n') :
    part.Stands m' n' := by
  cases exchanged with
  | config => exact .config
  | device at_device => exact .device at_device.there
  | child site before after at_children => exact .child site before after at_children.there
  | childTransport at_transport => exact .childTransport at_transport.there
  | serverTls at_tls => exact .serverTls at_tls.there
  | router at_router => exact .router at_router.there

end Part

theorem slots_distinct (place : Position) : ((slots place).map Slot.name).Nodup := by
  have names : ["device", "children", "child_transport", "server_tls", "router",
      "outgoing_queue_size"].Nodup := by decide
  exact names

theorem slots_transport (place : Position) :
    (slots place)[2]? = some (slot "child_transport" true Draft.childTransport
      (fun d childTransport => { d with childTransport }) (ChildTransport.ofNode place)) := rfl

section Components

variable {n m m' n' : Node} {c : Config}

/-- What stands at a component of a configuration has been read. -/
theorem ofNode_component {name : String} {index : Nat} {required : Bool} {get : Draft → Option α}
    {set : Draft → α → Draft} {read : Node → Except Fault α} (done : ofNode n = .ok c)
    (exchanged : Json5.Exchanged name index m m' n n')
    (here : (slots n.place)[index]? = some (slot name required get set read)) :
    ∃ value, read m = .ok value := by
  obtain ⟨draft, done, -⟩ := map_eq_ok_iff.mp done
  obtain ⟨first, next, taken, -⟩ := Slot.read_component (slots_distinct _) here exchanged done
  obtain ⟨value, read, -⟩ := slot_fill_iff.mp taken
  exact ⟨value, read⟩

theorem ofNode_transport (done : ofNode n = .ok c)
    (exchanged : Json5.Exchanged "child_transport" 2 m m' n n') :
    ChildTransport.ofNode n.place m = .ok c.childTransport := by
  obtain ⟨draft, filled, rfl⟩ := map_eq_ok_iff.mp done
  obtain ⟨first, next, taken, kept⟩ :=
    Slot.read_component (slots_distinct n.place) (slots_transport n.place) exchanged filled
  obtain ⟨t, read, rfl⟩ := slot_fill_iff.mp taken
  have stays : draft.childTransport = some t := by
    refine kept (fun d => d.childTransport = some t) (by simp +contextual [slot]) ?_ rfl
    intro other member apart d e after filled same
    simp only [slots, List.mem_cons, List.not_mem_nil, or_false] at member
    rcases member with rfl | rfl | rfl | rfl | rfl | rfl
    case inr.inr.inl => exact absurd rfl apart
    all_goals
      obtain ⟨value, -, rfl⟩ := slot_fill_iff.mp filled
      exact same
  simp [read, Draft.config, stays]

theorem ofNode_exchanged (done : ofNode n = .ok c)
    (exchanged : Json5.Exchanged "child_transport" 2 m m' n n')
    (same : ∀ t, ChildTransport.ofNode n.place m = .ok t →
      ChildTransport.ofNode n.place m' = .ok t) :
    ofNode n' = .ok c := by
  obtain ⟨draft, filled, rfl⟩ := map_eq_ok_iff.mp done
  have place : n'.place = n.place := by cases exchanged <;> rfl
  refine map_eq_ok_iff.mpr ⟨draft, ?_, rfl⟩
  rw [place]
  refine Slot.read_exchanged (slots_distinct n.place) (slots_transport n.place) exchanged ?_ filled
  intro draft next taken
  obtain ⟨t, read, set⟩ := slot_fill_iff.mp taken
  exact slot_fill_iff.mpr ⟨t, same t read, set⟩

end Components

theorem mapM_child {before after : List Node} {m : Node} {children : List Child}
    (done : (before ++ m :: after).mapM Child.ofNode = .ok children) :
    ∃ child, Child.ofNode m = .ok child := by
  cases read : Child.ofNode m with
  | ok child => exact ⟨child, rfl⟩
  | error fault =>
    cases first : before.mapM Child.ofNode <;>
      simp [List.mapM_append, read, first, bind, Except.bind] at done

/-! ### Keys -/

namespace Part

/-- Every key of the object is one of the part. -/
def Knows (part : Part) (transport : ChildTransport) (members : List (Key × Node)) : Prop :=
  ∀ entry ∈ members, ∃ name ∈ part.keys transport, entry.1.text = .ok name

/-- An object that is read as a part other than the transport has keys of the part only. -/
theorem knows_of_read {part : Part} (strict : part ≠ childTransport) {site : Json5.Site}
    {members : List (Key × Node)} {m' n n' : Node} {c : Config} (done : ofNode n = .ok c)
    (exchanged : part.Exchanged (.object site members) m' n n') :
    part.Knows c.childTransport members := by
  cases exchanged with
  | config =>
    obtain ⟨draft, read, -⟩ := map_eq_ok_iff.mp done
    exact Slot.read_keys read
  | device at_device =>
    obtain ⟨d, read⟩ := ofNode_component done at_device rfl
    obtain ⟨draft, read, -⟩ := map_eq_ok_iff.mp read
    exact Slot.read_keys read
  | child array before after at_children =>
    obtain ⟨children, read⟩ := ofNode_component done at_children rfl
    obtain ⟨child, read⟩ := mapM_child read
    obtain ⟨draft, read, -⟩ := map_eq_ok_iff.mp read
    exact Slot.read_keys read
  | childTransport => exact absurd rfl strict
  | serverTls at_tls =>
    obtain ⟨tls, read⟩ := ofNode_component done at_tls rfl
    rw [serverTlsOf_of_ne_null (fun _ => Node.noConfusion)] at read
    obtain ⟨t, read, -⟩ := map_eq_ok_iff.mp read
    obtain ⟨draft, read, -⟩ := map_eq_ok_iff.mp read
    exact Slot.read_keys read
  | router at_router =>
    obtain ⟨r, read⟩ := ofNode_component done at_router rfl
    obtain ⟨draft, read, -⟩ := map_eq_ok_iff.mp read
    exact Slot.read_keys read

end Part

/-- The second node is the first one, an object, with one member more. -/
inductive Inserted (key : Key) (value : Node) : Node → Node → Prop where
  | at (site : Json5.Site) (before after : List (Key × Node)) :
      Inserted key value (.object site (before ++ after))
        (.object site (before ++ (key, value) :: after))

/-- A member of a document that is read, for its own sake at least. -/
def Readable (key : Key) (value : Node) : Prop :=
  (∃ name, key.text = .ok name) ∧ ∃ content, value.content = .ok content

/-- A transport with one member more than one that is read is read alike, or not at all. -/
theorem ofNode_inserted_iff {n n' m m' : Node} {c c' : Config} {key : Key} {value : Node}
    (done : ofNode n = .ok c) (inserted : Inserted key value m m')
    (exchanged : Json5.Exchanged "child_transport" 2 m m' n n')
    (unknown : ∀ name ∈ c.childTransport.keys, key.text ≠ .ok name) :
    ofNode n' = .ok c' ↔ c' = c ∧ Readable key value := by
  have reads : Readable key value → ofNode n' = .ok c := by
    rintro ⟨⟨name, named⟩, content, read⟩
    refine ofNode_exchanged done exchanged fun t transport => ?_
    obtain rfl := Except.ok.inj (transport.symm.trans (ofNode_transport done exchanged))
    obtain ⟨site, before, after⟩ := inserted
    have other : name ∉ c.childTransport.keys := fun member => unknown name member named
    exact ChildTransport.ofNode_inserted named other read transport
  constructor
  · intro done'
    -- The longer object has been read too, with the new member in it.
    have transport := ofNode_transport done' exchanged.there
    have readable : Readable key value := by
      obtain ⟨site, before, after⟩ := inserted
      obtain ⟨mode, others, parts, -⟩ := ChildTransport.ofNode_object_iff.mp transport
      obtain ⟨name, named, read⟩ := ChildTransport.splitMembers_member parts
      have other : name ≠ "mode" := fun tag =>
        unknown name (tag ▸ c.childTransport.mode_mem_keys) named
      exact ⟨⟨name, named⟩, read other⟩
    exact ⟨Except.ok.inj (done'.symm.trans (reads readable)), readable⟩
  · rintro ⟨rfl, readable⟩
    exact reads readable

/--
In a document that is accepted, every object that is read as a part has keys of the part only, but
for the transport. With a key more that is not one of the part a document is refused, unless the
part is the transport and the new member can be read; then it is the same configuration.
-/
theorem unknown_keys_pass_in_transports_only {text : String} {c : Config} {root : Node}
    (parsed : parse text = .ok c) (tree : Node.parse text = .ok root) :
    (∀ part : Part, part ≠ .childTransport → ∀ site members,
      part.Stands (.object site members) root → part.Knows c.childTransport members) ∧
      ∀ (part : Part) (m m' root' : Node) (key : Key) (value : Node),
        part.Exchanged m m' root root' → Inserted key value m m' →
        (∀ name ∈ part.keys c.childTransport, key.text ≠ .ok name) →
        -- Where things stand in the longer text does not matter.
        ∀ text' tree', Node.parse text' = .ok tree' → tree'.bare = root'.bare →
          ∀ c', parse text' = .ok c' ↔
            part = .childTransport ∧ c' = c ∧ Readable key value := by
  obtain ⟨n, tree_n, done, checked⟩ := parse_eq_ok_iff.mp parsed
  obtain rfl := Except.ok.inj (tree.symm.trans tree_n)
  refine ⟨fun part strict site members stands => Part.knows_of_read strict done stands, ?_⟩
  intro part m m' root' key value exchanged inserted unknown text' tree' parsed' same c'
  have read : parse text' = .ok c' ↔ ofNode root' = .ok c' ∧ c'.check = .ok () := by
    rw [parse_eq_ok_iff, parsed']
    simp only [Except.ok.injEq, exists_eq_left', ← toOption_eq_some (x := ofNode _),
      ofNode_congr same]
  rw [read]
  by_cases transport : part = .childTransport
  · subst transport
    obtain - | - | - | at_transport | - | - := exchanged
    rw [ofNode_inserted_iff done inserted at_transport unknown]
    constructor
    · rintro ⟨⟨same, readable⟩, -⟩
      exact ⟨rfl, same, readable⟩
    · rintro ⟨-, rfl, readable⟩
      exact ⟨⟨rfl, readable⟩, checked⟩
  · refine iff_of_false (fun ⟨done', _⟩ => ?_) fun ⟨same, _⟩ => transport same
    obtain ⟨site, before, after⟩ := inserted
    have knows := Part.knows_of_read transport done' exchanged.there
    obtain ⟨name, member, named⟩ := knows (key, value) (by simp)
    exact unknown name (Part.keys_of_ne transport _ _ ▸ member) named

/-! ### A key too many in a transport -/

/-- A subscriber without children. -/
def leaf : Config where
  device := ⟨.subscriber, "onu", ⟨"onu", 1⟩⟩
  childTransport := .plaintext

/-- A document that names a subscriber, with the given members in its transport. -/
def leafChars (transport : List (String × List Char)) : List Char :=
  Json.object [("device", leaf.device.jsonChars), ("child_transport", Json.object transport)]

def leafText (transport : List (String × List Char)) : String := String.ofList (leafChars transport)

def leafTree (transport : List (String × Node)) : Node :=
  .record [("device", leaf.device.tree), ("child_transport", .record transport)]

/-- The transport of the document has the members that are written. -/
theorem leafText_read {transport : List (String × List Char)} {fields : List (String × Node)}
    (spelled : List.Forall₂ Json5.SpellsField transport fields) :
    ∃ site device key site' members,
      let root : Node := .object site [device, (key, .object site' members)]
      Node.parse (leafText transport) = .ok root ∧ root.bare = leafTree fields ∧
        key.text = .ok "child_transport" ∧
        List.Forall₂ (fun member field => member.1.bare = Key.ofName field.1 ∧
          member.2.bare = field.2) members fields := by
  have device := DeviceConfig.spells (d := leaf.device) (by decide)
  have spells : Json5.Spells (leafChars transport) (leafTree fields) :=
    Json5.spells_record <| .cons (.field (by decide) device) <|
      .cons (.field (by decide) (Json5.spells_record spelled)) .nil
  obtain ⟨root, tree, bare⟩ := spells.parse
  obtain ⟨site, entries, rfl, parts⟩ := Node.exists_of_bare_record bare
  obtain - | @⟨device, -, -, -, -, - | @⟨⟨key, n⟩, -, -, -, ⟨named, transport⟩, - | -⟩⟩ := parts
  obtain ⟨site', members, rfl, fields⟩ := Node.exists_of_bare_record transport
  exact ⟨site, device, key, site', members, tree, bare, Key.text_of_bare named, fields⟩

theorem leafText_parse {transport : List (String × List Char)} {root : Node}
    (tree : Node.parse (leafText transport) = .ok root)
    {fields : List (String × Node)} (bare : root.bare = leafTree fields)
    (read : ofNode (leafTree fields) = .ok leaf) : parse (leafText transport) = .ok leaf := by
  have done : (ofNode root).toOption = some leaf := by
    rw [← ofNode_bare root, bare, read, toOption_ok]
  exact parse_eq_ok_iff.mpr ⟨root, tree, toOption_eq_some.mp done, by decide⟩

def plainFields : List (String × Node) := [("mode", .ofText "plaintext")]

def strayFields : List (String × Node) := plainFields ++ [("ca_certificate", .ofText "ca.pem")]

theorem plain_read : ofNode (leafTree plainFields) = .ok leaf := by decide +kernel

theorem stray_read : ofNode (leafTree strayFields) = .ok leaf := by decide +kernel

def plainMembers : List (String × List Char) := [("mode", Json.quote "plaintext")]

/-- A certificate is named, but the mode is one that uses none. -/
def strayMembers : List (String × List Char) :=
  plainMembers ++ [("ca_certificate", Json.quote "ca.pem")]

theorem plain_spelled : List.Forall₂ Json5.SpellsField plainMembers plainFields :=
  .cons (.field (by decide) (Json5.spells_text (by decide))) .nil

theorem stray_spelled : List.Forall₂ Json5.SpellsField strayMembers strayFields :=
  .cons (.field (by decide) (Json5.spells_text (by decide))) <|
    .cons (.field (by decide) (Json5.spells_text (by decide))) .nil

def strayText : String :=
  "\x7b\"device\":\x7b\"role\":\"subscriber\",\"name\":\"onu\"," ++
    "\"address\":\"onu\",\"port\":1\x7d," ++
    "\"child_transport\":\x7b\"mode\":\"plaintext\",\"ca_certificate\":\"ca.pem\"\x7d\x7d"

theorem strayText_eq : strayText = leafText strayMembers := by decide +kernel

/-- A document is accepted whose transport has a key that its mode does not know. -/
theorem stray_key_accepted :
    ∃ (root : Node) (site : Json5.Site) (members : List (Key × Node)),
      parse strayText = .ok leaf ∧ Node.parse strayText = .ok root ∧
        Part.childTransport.Stands (.object site members) root ∧
        ¬ Part.childTransport.Knows leaf.childTransport members := by
  rw [strayText_eq]
  obtain ⟨site, device, key, site', members, tree, bare, named, fields⟩ :=
    leafText_read stray_spelled
  refine ⟨_, site', members, leafText_parse tree bare stray_read, tree, ?_, ?_⟩
  · exact .childTransport (.member site [device] [] key named)
  · intro knows
    obtain - | ⟨-, - | @⟨⟨stray, n⟩, -, -, -, ⟨certificate, -⟩, - | -⟩⟩ := fields
    obtain ⟨name, member, text⟩ := knows (stray, n) (by simp)
    rw [Key.text_of_bare certificate] at text
    obtain rfl := Except.ok.inj text
    exact absurd member (by decide)

/-- A document and the one with a certificate more, to which the same configuration belongs. -/
theorem stray_key_dropped :
    ∃ root m m' root' key value tree',
      parse (leafText plainMembers) = .ok leaf ∧ Node.parse (leafText plainMembers) = .ok root ∧
        Part.childTransport.Exchanged m m' root root' ∧ Inserted key value m m' ∧
        (∀ name ∈ Part.childTransport.keys leaf.childTransport, key.text ≠ .ok name) ∧
        Node.parse (leafText strayMembers) = .ok tree' ∧ tree'.bare = root'.bare ∧
        parse (leafText strayMembers) = .ok leaf := by
  obtain ⟨site, device, key, site', members, tree, bare, named, fields⟩ :=
    leafText_read plain_spelled
  obtain ⟨_, _, _, _, _, tree', bare', -, fields'⟩ := leafText_read stray_spelled
  obtain - | @⟨mode, -, -, -, -, - | -⟩ := fields
  obtain - | ⟨-, - | @⟨⟨stray, n⟩, -, -, -, ⟨certificate, value⟩, - | -⟩⟩ := fields'
  have root' : (Node.object site [device, (key, .object site' [mode, (stray, n)])]).bare =
      leafTree strayFields := by
    simp only [Node.bare, Node.bareMembers, leafTree, plainFields, Node.record, Node.member,
      List.map_cons, List.map_nil, Node.object.injEq, List.cons.injEq, Prod.mk.injEq, and_true,
      true_and] at bare
    simp [Node.bare, Node.bareMembers, leafTree, strayFields, plainFields, Node.record, Node.member,
      bare, certificate, value]
  have unknown : ∀ name ∈ Part.childTransport.keys leaf.childTransport, stray.text ≠ .ok name := by
    intro name member text
    rw [Key.text_of_bare certificate] at text
    obtain rfl := Except.ok.inj text
    exact absurd member (by decide)
  have inserted : Inserted stray n (.object site' [mode]) (.object site' [mode, (stray, n)]) :=
    .at site' [mode] []
  have exchanged : Part.childTransport.Exchanged (.object site' [mode])
      (.object site' [mode, (stray, n)]) (.object site [device, (key, .object site' [mode])])
      (.object site [device, (key, .object site' [mode, (stray, n)])]) :=
    .childTransport (.member site [device] [] key named)
  have readable : Readable stray n := by
    have content := n.content_bare
    rw [value, Node.content_ofText] at content
    exact ⟨⟨_, Key.text_of_bare certificate⟩, _, toOption_eq_some.mp content.symm⟩
  have plain := leafText_parse tree bare plain_read
  have passes := (unknown_keys_pass_in_transports_only plain tree).2 .childTransport _ _ _ _ _
    exchanged inserted unknown _ _ tree' (bare'.trans root'.symm) leaf
  exact ⟨_, _, _, _, _, _, _, plain, tree, exchanged, inserted, unknown, tree',
    bare'.trans root'.symm, passes.mpr ⟨rfl, rfl, readable⟩⟩

end Config
end OpticalAccess
