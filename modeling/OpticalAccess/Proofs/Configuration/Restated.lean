import Mathlib.Logic.Relation
import OpticalAccess.Proofs.Configuration.Components
import OpticalAccess.Proofs.Json5.Orders

/-!
# Documents that say the same

The order of keys does not matter in any object that is read as a part of a configuration, and a
default may be spelled out or left out. What is read is the same configuration.
-/

namespace OpticalAccess

open Json5 (Key Node Slot Restated)

theorem ServerTls.slots_lawful : Slot.Lawful slots where
  distinct := by decide
  steady := by
    simp only [slots, List.forall_mem_cons]
    refine ⟨?_, ?_, fun _ none => by cases none⟩ <;>
      exact slot_steady (fun _ _ => rfl) fun _ _ _ => rfl
  apart := by
    simp only [slots, List.mem_cons, List.not_mem_nil, or_false]
    rintro a (rfl | rfl) b (rfl | rfl) names <;>
      first
      | exact absurd rfl names
      | exact slot_apart (fun _ _ => rfl) fun _ _ _ => rfl

/-! ### Transports -/

namespace ChildTransport

section Members
variable {place : Position} {mode found : Option Mode} {rest members members' : List (Key × Node)}
  {parts : List (String × Content)} {key : Key} {n : Node} {name : String} {c : Content} {m : Mode}

theorem splitMembers_mode (named : key.text = .ok "mode") (read : modeOf n = .ok m)
    (done : splitMembers place (some m) rest = .ok (found, parts)) :
    splitMembers place none ((key, n) :: rest) = .ok (found, parts) := by
  refine splitMembers_cons_iff.mpr ⟨"mode", named, ?_⟩
  rw [if_pos rfl]
  exact ⟨rfl, m, read, done⟩

theorem splitMembers_other (named : key.text = .ok name) (other : name ≠ "mode")
    (read : n.content = .ok c) (done : splitMembers place mode rest = .ok (found, parts)) :
    splitMembers place mode ((key, n) :: rest) = .ok (found, (name, c) :: parts) := by
  refine splitMembers_cons_iff.mpr ⟨name, named, ?_⟩
  rw [if_neg other]
  exact ⟨c, parts, read, done, rfl⟩

/-- The first member is the mode, and the first one that is, or it is another one. -/
theorem splitMembers_cases
    (done : splitMembers place mode ((key, n) :: rest) = .ok (found, parts)) :
    (mode = none ∧ key.text = .ok "mode" ∧ ∃ m, modeOf n = .ok m ∧
      splitMembers place (some m) rest = .ok (found, parts)) ∨
    ∃ name c others, key.text = .ok name ∧ name ≠ "mode" ∧ n.content = .ok c ∧
      splitMembers place mode rest = .ok (found, others) ∧ parts = (name, c) :: others := by
  obtain ⟨name, named, done⟩ := splitMembers_cons_iff.mp done
  split at done
  · rename_i tag
    obtain ⟨fresh, m, read, done⟩ := done
    exact .inl ⟨fresh, tag ▸ named, m, read, done⟩
  · rename_i other
    obtain ⟨c, others, read, done, split⟩ := done
    exact .inr ⟨name, c, others, named, other, read, done, split⟩

theorem splitMembers_perm (perm : members.Perm members')
    (done : splitMembers place mode members = .ok (found, parts)) :
    ∃ parts', splitMembers place mode members' = .ok (found, parts') ∧ parts.Perm parts' := by
  induction perm generalizing mode parts with
  | nil => exact ⟨parts, done, .refl _⟩
  | cons entry _ ih =>
    obtain ⟨rfl, named, m, read, tail⟩ | ⟨name, c, others, named, other, read, tail, rfl⟩ :=
      splitMembers_cases done
    · obtain ⟨parts', tail, perm⟩ := ih tail
      exact ⟨parts', splitMembers_mode named read tail, perm⟩
    · obtain ⟨others', tail, perm⟩ := ih tail
      exact ⟨_, splitMembers_other named other read tail, perm.cons _⟩
  | swap a b rest =>
    -- Of two members that change places, one at most is the mode.
    obtain ⟨rfl, named, m, read, tail⟩ | ⟨name, c, others, named, other, read, tail, rfl⟩ :=
      splitMembers_cases done
    · obtain ⟨twice, -⟩ | ⟨name', c', others', named', other', read', tail', rfl⟩ :=
        splitMembers_cases tail
      · cases twice
      · exact ⟨_, splitMembers_other named' other' read' (splitMembers_mode named read tail'),
          .refl _⟩
    · obtain ⟨rfl, named', m, read', tail'⟩ |
          ⟨name', c', others', named', other', read', tail', rfl⟩ := splitMembers_cases tail
      · exact ⟨_, splitMembers_mode named' read' (splitMembers_other named other read tail'),
          .refl _⟩
      · exact ⟨_, splitMembers_other named' other' read'
          (splitMembers_other named other read tail'), .swap _ _ _⟩
  | trans _ _ ih ih' =>
    obtain ⟨mid, done, perm⟩ := ih done
    obtain ⟨last, done, perm'⟩ := ih' done
    exact ⟨last, done, perm.trans perm'⟩

end Members

theorem fill_eq_ok_iff {draft next : TlsDraft} {name : String} {c : Content} :
    draft.fill (name, c) = .ok next ↔
      if name = "ca_certificate" then
        draft.caCertificate = none ∧ ∃ s, asText c = .ok s ∧
          { draft with caCertificate := some s } = next
      else if name = "domain_name" then
        draft.domainName = none ∧ ∃ s, asText c = .ok s ∧
          { draft with domainName := some s } = next
      else draft = next := by
  rw [TlsDraft.fill]
  split
  · cases absent : draft.caCertificate <;> simp [map_eq_ok_iff]
  · split
    · cases absent : draft.domainName <;> simp [map_eq_ok_iff]
    · simp

theorem fill_cases {draft next : TlsDraft} {name : String} {c : Content}
    (done : draft.fill (name, c) = .ok next) :
    (name = "ca_certificate" ∧ draft.caCertificate = none ∧ ∃ s, asText c = .ok s ∧
      { draft with caCertificate := some s } = next) ∨
    (name = "domain_name" ∧ draft.domainName = none ∧ ∃ s, asText c = .ok s ∧
      { draft with domainName := some s } = next) ∨
    name ≠ "ca_certificate" ∧ name ≠ "domain_name" ∧ draft = next := by
  rw [fill_eq_ok_iff] at done
  split at done
  · exact .inl ⟨‹_›, done⟩
  · split at done
    · exact .inr (.inl ⟨‹_›, done⟩)
    · exact .inr (.inr ⟨‹_›, ‹_›, done⟩)

/-- Two fields may change places: neither is taken twice. -/
theorem fill_swap {draft mid last : TlsDraft} {a b : String × Content}
    (first : draft.fill a = .ok mid) (second : mid.fill b = .ok last) :
    ∃ mid', draft.fill b = .ok mid' ∧ mid'.fill a = .ok last := by
  obtain ⟨name, c⟩ := a
  obtain ⟨name', c'⟩ := b
  obtain ⟨named, free, s, read, rfl⟩ | ⟨named, free, s, read, rfl⟩ | ⟨ca, domain, rfl⟩ :=
    fill_cases first <;>
  obtain ⟨named', free', s', read', rfl⟩ | ⟨named', free', s', read', rfl⟩ | ⟨ca', domain', rfl⟩ :=
    fill_cases second <;>
  simp_all [fill_eq_ok_iff]

theorem ofParts_perm {m : Mode} {parts parts' : List (String × Content)} {t : ChildTransport}
    (perm : parts.Perm parts') (done : ofParts m (.map parts) = .ok t) :
    ofParts m (.map parts') = .ok t := by
  cases m with
  | plaintext => exact done
  | tls =>
    rw [ofParts] at done ⊢
    cases filled : parts.foldlM TlsDraft.fill {} with
    | error problem => simp [filled, bind, Except.bind] at done
    | ok draft =>
      have reordered : parts'.foldlM TlsDraft.fill {} = .ok draft := by
        refine foldlM_perm (fun first second => ?_) perm filled
        exact fill_swap first second
      rw [reordered, ← filled]
      exact done

theorem ofNode_perm {enclosing : Position} {site : Json5.Site}
    {members members' : List (Key × Node)} {t : ChildTransport} (perm : members.Perm members')
    (done : ofNode enclosing (.object site members) = .ok t) :
    ofNode enclosing (.object site members') = .ok t := by
  obtain ⟨m, parts, split, done⟩ := ofNode_object_iff.mp done
  obtain ⟨parts', split, perm⟩ := splitMembers_perm perm split
  exact ofNode_object_iff.mpr ⟨m, parts', split, ofParts_perm perm done⟩

end ChildTransport

/-! ### Parts -/

namespace Config

/-- A value that says of a part what holds without it. -/
inductive Part.Standard : Part → String → Node → Prop where
  | children (read : childrenOf n = .ok []) : Standard config "children" n
  | serverTls (read : serverTlsOf n = .ok none) : Standard config "server_tls" n
  | router (read : RouterConfig.ofNode n = .ok {}) : Standard config "router" n
  | outgoingQueueSize (read : sizeOf64 n = .ok 1024) : Standard config "outgoing_queue_size" n
  | statsFanoutConcurrency (read : sizeOf64 n = .ok 4) :
      Standard router "stats_fanout_concurrency" n
  | relayBuffer (read : sizeOf64 n = .ok 64) : Standard router "relay_buffer" n
  | connectTimeoutMs (read : sizeOf64 n = .ok 2000) : Standard router "connect_timeout_ms" n
  | callTimeoutMs (read : sizeOf64 n = .ok 5000) : Standard router "call_timeout_ms" n

/-- An object is written in another way that says the same of a part. -/
abbrev Part.Restated (part : Part) : Node → Node → Prop := Json5.Restated part.Standard

section Records
variable {record : String} {slots : List (Slot σ)} {blank : σ} {build : σ → β} {b : β}
  {standard : String → Node → Prop} {n n' : Node}

/-- A default in its own slot may as well be left out. -/
theorem slot_neutral {name : String} {get : σ → Option α} {set : σ → α → σ}
    {read : Node → Except Fault α} {a : α} (index : Nat)
    (here : slots[index]? = some (slot name false get set read)) (value : read n = .ok a)
    (built : ∀ d, get d = none → build (set d a) = build d) :
    ∃ slot ∈ slots, slot.name = name ∧ slot.Neutral build n := by
  refine ⟨slot name false get set read, List.mem_of_getElem? here, rfl, rfl, fun d => ?_, ?_⟩
  · exact ⟨set d a, slot_fill_iff.mpr ⟨a, value, rfl⟩⟩
  · intro d next free taken
    obtain ⟨a', value', rfl⟩ := slot_fill_iff.mp taken
    obtain rfl := Except.ok.inj (value.symm.trans value')
    exact built d (Option.isSome_eq_false_iff.mp free |> Option.isNone_iff_eq_none.mp)

theorem record_restated (lawful : Slot.Lawful slots)
    (free : ∀ slot ∈ slots, slot.filled blank = false)
    (neutral : ∀ name value, standard name value →
      ∃ slot ∈ slots, slot.name = name ∧ slot.Neutral build value)
    (restated : Restated standard n n')
    (done : (Slot.read record slots blank n).map build = .ok b) :
    (Slot.read record slots blank n').map build = .ok b := by
  obtain ⟨draft, read, rfl⟩ := map_eq_ok_iff.mp done
  obtain ⟨draft', read', same⟩ := Slot.read_restated lawful free neutral restated read
  exact map_eq_ok_iff.mpr ⟨draft', read', same⟩

end Records

theorem device_restated {n n' : Node} {d : DeviceConfig} (restated : Part.device.Restated n n')
    (done : DeviceConfig.ofNode n = .ok d) : DeviceConfig.ofNode n' = .ok d :=
  record_restated DeviceConfig.slots_lawful (by decide) nofun restated done

theorem child_restated {n n' : Node} {c : Child} (restated : Part.child.Restated n n')
    (done : Child.ofNode n = .ok c) : Child.ofNode n' = .ok c :=
  record_restated Child.slots_lawful (by decide) nofun restated done

theorem serverTls_restated {n n' : Node} {t : ServerTls} (restated : Part.serverTls.Restated n n')
    (done : ServerTls.ofNode n = .ok t) : ServerTls.ofNode n' = .ok t :=
  record_restated ServerTls.slots_lawful (by decide) nofun restated done

theorem childTransport_restated {enclosing : Position} {n n' : Node} {t : ChildTransport}
    (restated : Part.childTransport.Restated n n')
    (done : ChildTransport.ofNode enclosing n = .ok t) :
    ChildTransport.ofNode enclosing n' = .ok t := by
  cases restated with
  | reordered site members members' perm => exact ChildTransport.ofNode_perm perm done
  | added site before after key value name named absent plain => cases plain
  | removed site before after key value name named plain => cases plain

theorem router_restated {n n' : Node} {r : RouterConfig} (restated : Part.router.Restated n n')
    (done : RouterConfig.ofNode n = .ok r) : RouterConfig.ofNode n' = .ok r := by
  refine record_restated RouterConfig.slots_lawful (by decide) ?_ restated done
  intro name value plain
  cases plain with
  | statsFanoutConcurrency read =>
    exact slot_neutral 0 rfl read fun d free => by simp [RouterConfig.Draft.config, free]
  | relayBuffer read =>
    exact slot_neutral 1 rfl read fun d free => by simp [RouterConfig.Draft.config, free]
  | connectTimeoutMs read =>
    exact slot_neutral 2 rfl read fun d free => by simp [RouterConfig.Draft.config, free]
  | callTimeoutMs read =>
    exact slot_neutral 3 rfl read fun d free => by simp [RouterConfig.Draft.config, free]

theorem config_restated {n n' : Node} {c : Config} (restated : Part.config.Restated n n')
    (done : ofNode n = .ok c) : ofNode n' = .ok c := by
  have place : n'.place = n.place := by cases restated <;> rfl
  rw [ofNode, place]
  refine record_restated (slots_lawful n.place) (by simp [slots, slot]) ?_ restated done
  intro name value plain
  cases plain with
  | children read =>
    exact slot_neutral 1 rfl read fun d free => by simp [Draft.config, free]
  | serverTls read =>
    exact slot_neutral 3 rfl read fun d free => by simp [Draft.config, free]
  | router read =>
    exact slot_neutral 4 rfl read fun d free => by simp [Draft.config, free]
  | outgoingQueueSize read =>
    exact slot_neutral 5 rfl read fun d free => by simp [Draft.config, free]

/-! ### Documents -/

theorem ofNode_alike {name : String} {index : Nat} {required : Bool} {get : Draft → Option α}
    {set : Draft → α → Draft} {read : Node → Except Fault α} {m m' n n' : Node} {c : Config}
    (here : (slots n.place)[index]? = some (slot name required get set read))
    (exchanged : Json5.Exchanged name index m m' n n')
    (alike : ∀ a, read m = .ok a → read m' = .ok a) (done : ofNode n = .ok c) :
    ofNode n' = .ok c := by
  obtain ⟨draft, filled, rfl⟩ := map_eq_ok_iff.mp done
  have place : n'.place = n.place := by cases exchanged <;> rfl
  refine map_eq_ok_iff.mpr ⟨draft, ?_, rfl⟩
  rw [place]
  refine Slot.read_exchanged (slots_distinct n.place) here exchanged ?_ filled
  intro draft next taken
  obtain ⟨a, value, set⟩ := slot_fill_iff.mp taken
  exact slot_fill_iff.mpr ⟨a, alike a value, set⟩

/-- The second document is the first one with one of its objects written in another way. -/
def Restates (n n' : Node) : Prop :=
  ∃ (part : Part) (m m' : Node), part.Exchanged m m' n n' ∧ part.Restated m m'

theorem ofNode_restates {n n' : Node} {c : Config} (restates : Restates n n')
    (done : ofNode n = .ok c) : ofNode n' = .ok c := by
  obtain ⟨part, m, m', exchanged, restated⟩ := restates
  cases exchanged with
  | config => exact config_restated restated done
  | device at_device =>
    exact ofNode_alike rfl at_device (fun d read => device_restated restated read) done
  | child site before after at_children =>
    refine ofNode_alike rfl at_children (fun children read => ?_) done
    obtain ⟨xs, child, ys, first, here, rest, split⟩ := mapM_eq_ok_iff.mp read
    exact mapM_eq_ok_iff.mpr ⟨xs, child, ys, first, child_restated restated here, rest, split⟩
  | childTransport at_transport =>
    exact ofNode_alike rfl at_transport (fun t read => childTransport_restated restated read) done
  | serverTls at_tls =>
    refine ofNode_alike rfl at_tls (fun t read => ?_) done
    have given : (∀ site, m ≠ .null site) ∧ ∀ site, m' ≠ .null site := by
      cases restated <;> exact ⟨nofun, nofun⟩
    rw [serverTlsOf_of_ne_null given.1] at read
    rw [serverTlsOf_of_ne_null given.2]
    obtain ⟨tls, value, rfl⟩ := map_eq_ok_iff.mp read
    exact map_eq_ok_iff.mpr ⟨tls, serverTls_restated restated value, rfl⟩
  | router at_router =>
    exact ofNode_alike rfl at_router (fun r read => router_restated restated read) done

/-! ### Defaults -/

/-- A router is the standard one if it has nothing but defaults, whichever of them. -/
theorem router_of_defaults (site : Json5.Site) {members : List (Key × Node)}
    (distinct : (members.map fun entry => entry.1.text).Nodup)
    (plain : ∀ entry ∈ members, ∃ name, entry.1.text = .ok name ∧
      Part.router.Standard name entry.2) :
    RouterConfig.ofNode (.object site members) = .ok {} := by
  -- Each default is one that is spelled out in front of the others.
  induction members with
  | nil => rfl
  | cons entry rest ih =>
    obtain ⟨key, value⟩ := entry
    obtain ⟨⟨name, named, standard⟩, plain⟩ := List.forall_mem_cons.mp plain
    obtain ⟨apart, distinct⟩ := List.nodup_cons.mp distinct
    have absent : ∀ entry ∈ rest, entry.1.text ≠ .ok name := fun entry member same =>
      apart (List.mem_map.mpr ⟨entry, member, same.trans named.symm⟩)
    exact router_restated (.added site [] rest key value name named absent standard)
      (ih distinct plain)

/--
A document that is accepted stays the same configuration, in whichever order the keys of its objects
stand and whichever defaults are spelled out. Spelled out, they are an empty list of children, no
certificate, the number of a queue, and a router with any of its numbers.
-/
theorem order_and_defaults_say_nothing :
    (∀ n c, ofNode n = .ok c → c.check = .ok () → ∀ n', Relation.ReflTransGen Restates n n' →
      ofNode n' = .ok c ∧
        -- Where things stand in a text of the other document does not matter.
        ∀ text tree, Node.parse text = .ok tree → tree.bare = n'.bare → parse text = .ok c) ∧
      (∀ site, Part.config.Standard "children" (.array site [])) ∧
      (∀ site, Part.config.Standard "server_tls" (.null site)) ∧
      ∀ site members, (members.map fun entry : Key × Node => entry.1.text).Nodup →
        (∀ entry ∈ members, ∃ name, entry.1.text = .ok name ∧ Part.router.Standard name entry.2) →
        Part.config.Standard "router" (.object site members) := by
  refine ⟨fun n c done checked n' restated => ?_, fun _ => .children rfl, fun _ => .serverTls rfl,
    fun site members distinct plain => .router (router_of_defaults site distinct plain)⟩
  have done' : ofNode n' = .ok c := by
    induction restated with
    | refl => exact done
    | tail _ restates ih => exact ofNode_restates restates ih
  exact ⟨done', fun text tree parsed same =>
    (parse_eq_ok_iff_of_bare parsed same).mpr ⟨done', checked⟩⟩

/-! ### A document in other words -/

def transportFields : List (String × Node) :=
  [("mode", .ofText "tls"), ("ca_certificate", .ofText "ca.pem"), ("domain_name", .ofText "olt")]

/-- A document without anything that can be left out. -/
def terseFields (transport : List (String × Node)) : List (String × Node) :=
  [("device", leaf.device.tree), ("child_transport", .record transport)]

/-- A document that begins with a router, and ends with the device. -/
def wordyFields : List (String × Node) :=
  [("router", .record [("call_timeout_ms", .ofInt 5000)]),
    ("child_transport", .record transportFields.reverse), ("device", leaf.device.tree)]

def wordyChars : List Char :=
  Json.object [("router", Json.object [("call_timeout_ms", Digits.decimal 5000)]),
    ("child_transport", Json.object [("domain_name", Json.quote "olt"),
      ("ca_certificate", Json.quote "ca.pem"), ("mode", Json.quote "tls")]),
    ("device", leaf.device.jsonChars)]

theorem wordyChars_spells : Json5.Spells wordyChars (.record wordyFields) :=
  Json5.spells_record <|
    .cons (.field (by decide) (Json5.spells_record <|
      .cons (.field (by decide) (spells_nat _)) .nil)) <|
    .cons (.field (by decide) (Json5.spells_record <|
      .cons (.field (by decide) (Json5.spells_text (by decide))) <|
      .cons (.field (by decide) (Json5.spells_text (by decide))) <|
      .cons (.field (by decide) (Json5.spells_text (by decide))) .nil)) <|
    .cons (.field (by decide) (DeviceConfig.spells (by decide))) .nil

/-- The fields of the transport change places, a router is added, and the device is put last. -/
theorem wordy_restated :
    Relation.ReflTransGen Restates (.record (terseFields transportFields))
      (.record wordyFields) := by
  let fields := terseFields transportFields.reverse
  let router : Node := .record [("call_timeout_ms", .ofInt 5000)]
  have turned : Restates (.record (terseFields transportFields)) (.record fields) := by
    refine ⟨.childTransport, _, _, .childTransport (.member _ [Node.member ("device", _)] [] _
      (Key.text_ofName "child_transport")), .reordered _ _ _ ?_⟩
    exact (List.reverse_perm transportFields).symm.map _
  have added : Restates (.record fields) (.record (("router", router) :: fields)) := by
    refine ⟨.config, _, _, .config, .added _ [] (fields.map Node.member) (Key.ofName "router")
      router "router" (Key.text_ofName _) ?_ (.router (by decide +kernel))⟩
    simp [fields, terseFields, Node.member]
  have moved : Restates (.record (("router", router) :: fields)) (.record wordyFields) :=
    ⟨.config, _, _, .config, .reordered _ _ _ (((List.Perm.swap _ _ []).cons _).map _)⟩
  exact .head turned (.head added (.single moved))

theorem order_and_defaults_say_nothing_wordy :
    let c := { leaf with childTransport := .tls "ca.pem" "olt" }
    ofNode (.record (terseFields transportFields)) = .ok c ∧ c.check = .ok () ∧
      Relation.ReflTransGen Restates (.record (terseFields transportFields)) (.record wordyFields) ∧
      parse (String.ofList wordyChars) = .ok c := by
  intro c
  have done : ofNode (.record (terseFields transportFields)) = .ok c := by decide +kernel
  obtain ⟨tree, parsed, bare⟩ := wordyChars_spells.parse
  have nowhere : (Node.record wordyFields).bare = .record wordyFields := rfl
  refine ⟨done, rfl, wordy_restated, ?_⟩
  refine (order_and_defaults_say_nothing.1 _ _ done rfl _ wordy_restated).2 _ tree parsed ?_
  rw [bare, nowhere]

end Config
end OpticalAccess
