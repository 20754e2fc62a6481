import OpticalAccess.Proofs.Configuration.Components
import OpticalAccess.Proofs.Number.Literals

/-!
# The numbers of a configuration

A number of a document is taken for an integer of the range that its field has. Nothing is refused
that can be read as a double: a fraction is cut off, and what is out of range becomes the end of the
range.
-/

namespace OpticalAccess

open Json5 (Key Node Slot)

namespace Config

/-! ### Fields -/

/-- The numbers of a configuration; children are told apart by their places. -/
inductive NumberField where
  | devicePort
  | childUniPort (index : Nat)
  | childPort (index : Nat)
  | statsFanoutConcurrency
  | relayBuffer
  | connectTimeoutMs
  | callTimeoutMs
  | outgoingQueueSize
  deriving DecidableEq

namespace NumberField

def range : NumberField → IntegerRange
  | devicePort => .unsigned16
  | childUniPort _ => .signed32
  | childPort _ => .unsigned16
  | _ => .unsigned64

/-- The number that a configuration has in a field; none for a child that it does not have. -/
def get? (c : Config) : NumberField → Option Int
  | devicePort => some c.device.location.port.toNat
  | childUniPort index => c.children[index]?.map (·.uniPort.toInt)
  | childPort index => c.children[index]?.map (·.location.port.toNat)
  | statsFanoutConcurrency => some c.router.statsFanoutConcurrency.toNat
  | relayBuffer => some c.router.relayBuffer.toNat
  | connectTimeoutMs => some c.router.connectTimeoutMs.toNat
  | callTimeoutMs => some c.router.callTimeoutMs.toNat
  | outgoingQueueSize => some c.outgoingQueueSize.toNat

def put (c : Config) (z : Int) : NumberField → Config
  | devicePort => { c with device.location.port := .ofNat z.toNat }
  | childUniPort index =>
    { c with children := c.children.modify index fun child => { child with uniPort := .ofInt z } }
  | childPort index =>
    { c with
      children := c.children.modify index fun child =>
        { child with location.port := .ofNat z.toNat } }
  | statsFanoutConcurrency => { c with router.statsFanoutConcurrency := .ofNat z.toNat }
  | relayBuffer => { c with router.relayBuffer := .ofNat z.toNat }
  | connectTimeoutMs => { c with router.connectTimeoutMs := .ofNat z.toNat }
  | callTimeoutMs => { c with router.callTimeoutMs := .ofNat z.toNat }
  | outgoingQueueSize => { c with outgoingQueueSize := .ofNat z.toNat }

/-- The second document is the first one with `m'` for `m`, which stands there for a number. -/
inductive Rewritten (m m' n n' : Node) : NumberField → Prop where
  | devicePort (at_port : Json5.Exchanged "port" 3 m m' p p')
      (at_device : Json5.Exchanged "device" 0 p p' n n') : Rewritten m m' n n' .devicePort
  | childUniPort (site : Json5.Site) (before after : List Node)
      (at_port : Json5.Exchanged "uni_port" 0 m m' p p')
      (at_children : Json5.Exchanged "children" 1 (.array site (before ++ p :: after))
        (.array site (before ++ p' :: after)) n n') :
      Rewritten m m' n n' (.childUniPort before.length)
  | childPort (site : Json5.Site) (before after : List Node)
      (at_port : Json5.Exchanged "port" 2 m m' p p')
      (at_children : Json5.Exchanged "children" 1 (.array site (before ++ p :: after))
        (.array site (before ++ p' :: after)) n n') :
      Rewritten m m' n n' (.childPort before.length)
  | statsFanoutConcurrency
      (at_fanout : Json5.Exchanged "stats_fanout_concurrency" 0 m m' p p')
      (at_router : Json5.Exchanged "router" 4 p p' n n') :
      Rewritten m m' n n' .statsFanoutConcurrency
  | relayBuffer (at_buffer : Json5.Exchanged "relay_buffer" 1 m m' p p')
      (at_router : Json5.Exchanged "router" 4 p p' n n') : Rewritten m m' n n' .relayBuffer
  | connectTimeoutMs (at_timeout : Json5.Exchanged "connect_timeout_ms" 2 m m' p p')
      (at_router : Json5.Exchanged "router" 4 p p' n n') : Rewritten m m' n n' .connectTimeoutMs
  | callTimeoutMs (at_timeout : Json5.Exchanged "call_timeout_ms" 3 m m' p p')
      (at_router : Json5.Exchanged "router" 4 p p' n n') : Rewritten m m' n n' .callTimeoutMs
  | outgoingQueueSize (at_size : Json5.Exchanged "outgoing_queue_size" 5 m m' n n') :
      Rewritten m m' n n' .outgoingQueueSize

/-- A node stands in a document for a number. -/
def Given (f : NumberField) (m n : Node) : Prop := f.Rewritten m m n n

theorem Rewritten.here {f : NumberField} {m m' n n' : Node} (rewritten : f.Rewritten m m' n n') :
    f.Given m n := by
  cases rewritten with
  | devicePort at_port at_device => exact .devicePort at_port.here at_device.here
  | childUniPort site before after at_port at_children =>
    exact .childUniPort site before after at_port.here at_children.here
  | childPort site before after at_port at_children =>
    exact .childPort site before after at_port.here at_children.here
  | statsFanoutConcurrency at_fanout at_router =>
    exact .statsFanoutConcurrency at_fanout.here at_router.here
  | relayBuffer at_buffer at_router => exact .relayBuffer at_buffer.here at_router.here
  | connectTimeoutMs at_timeout at_router => exact .connectTimeoutMs at_timeout.here at_router.here
  | callTimeoutMs at_timeout at_router => exact .callTimeoutMs at_timeout.here at_router.here
  | outgoingQueueSize at_size => exact .outgoingQueueSize at_size.here

end NumberField

/-! ### Numerals in fields -/

theorem written_iff (r : IntegerRange) {site : Json5.Site} {k : Json5.Numeral} {of : Int → α}
    {put : α → β} {b : β} :
    (∃ a, ((Node.numeral site k).asInteger r.low r.high).map of = .ok a ∧ b = put a) ↔
      ∃ x, k.toDouble = .ok x ∧ b = put (of (r.take x)) := by
  rw [Node.asInteger]
  cases k.toDouble <;> simp [Except.map, IntegerRange.take]

/-- What is read for a number of the router is what the router has of it. -/
theorem router_size_rewritten {name : String} {index : Nat}
    {put : RouterConfig → UInt64 → RouterConfig}
    (rewrites : Rewrites name index sizeOf64 put RouterConfig.ofNode) {m p p' n n' : Node}
    {site : Json5.Site} {k : Json5.Numeral} {c : Config}
    (at_size : Json5.Exchanged name index m (.numeral site k) p p')
    (at_router : Json5.Exchanged "router" 4 p p' n n') (done : ofNode n = .ok c) (c' : Config) :
    ofNode n' = .ok c' ↔ ∃ x, k.toDouble = .ok x ∧
      c' = { c with router := put c.router (.ofNat (IntegerRange.unsigned64.take x).toNat) } := by
  rw [rewrites_router.within rewrites router (fun _ _ => rfl) at_size at_router done c']
  exact written_iff .unsigned64

namespace NumberField

variable {f : NumberField} {m n n' : Node} {c : Config} {site : Json5.Site} {k : Json5.Numeral}

/-- What is read in a field is what the configuration has of it, and nothing else is refused. -/
theorem Rewritten.read (rewritten : f.Rewritten m (.numeral site k) n n')
    (done : ofNode n = .ok c) :
    (f.get? c).isSome = true ∧ ∀ c', ofNode n' = .ok c' ↔
      ∃ x, k.toDouble = .ok x ∧ c' = f.put c (f.range.take x) := by
  cases rewritten with
  | devicePort at_port at_device =>
    have anew := rewrites_device.within DeviceConfig.rewrites_port device (fun _ _ => rfl) at_port
      at_device done
    exact ⟨rfl, fun c' => (anew c').trans (written_iff .unsigned16)⟩
  | childUniPort site before after at_port at_children =>
    obtain ⟨there, anew⟩ := child_rewritten Child.rewrites_uniPort at_port at_children done
    exact ⟨by simp [get?, there], fun c' => (anew c').trans (written_iff .signed32)⟩
  | childPort site before after at_port at_children =>
    obtain ⟨there, anew⟩ := child_rewritten Child.rewrites_port at_port at_children done
    exact ⟨by simp [get?, there], fun c' => (anew c').trans (written_iff .unsigned16)⟩
  | statsFanoutConcurrency at_fanout at_router =>
    exact ⟨rfl, router_size_rewritten RouterConfig.rewrites_statsFanoutConcurrency at_fanout
      at_router done⟩
  | relayBuffer at_buffer at_router =>
    exact ⟨rfl, router_size_rewritten RouterConfig.rewrites_relayBuffer at_buffer at_router done⟩
  | connectTimeoutMs at_timeout at_router =>
    exact ⟨rfl, router_size_rewritten RouterConfig.rewrites_connectTimeoutMs at_timeout at_router
      done⟩
  | callTimeoutMs at_timeout at_router =>
    exact ⟨rfl, router_size_rewritten RouterConfig.rewrites_callTimeoutMs at_timeout at_router done⟩
  | outgoingQueueSize at_size =>
    have anew := rewrites_outgoingQueueSize at_size done
    exact ⟨rfl, fun c' => (anew c').trans (written_iff .unsigned64)⟩

theorem get?_put (there : (f.get? c).isSome = true) {z : Int} (lower : f.range.low ≤ z)
    (upper : z ≤ f.range.high) : f.get? (f.put c z) = some z := by
  have port : 0 ≤ z → z ≤ 0xFFFF → ((UInt16.ofNat z.toNat).toNat : Int) = z := by
    intro lower upper
    rw [UInt16.toNat_ofNat_of_lt' (by simp [UInt16.size]; omega)]
    omega
  have size : 0 ≤ z → z ≤ 0xFFFFFFFFFFFFFFFF → ((UInt64.ofNat z.toNat).toNat : Int) = z := by
    intro lower upper
    rw [UInt64.toNat_ofNat_of_lt' (by simp [UInt64.size]; omega)]
    omega
  cases f with
  | devicePort => exact congrArg some (port lower upper)
  | childUniPort index =>
    obtain ⟨child, here⟩ := Option.isSome_iff_exists.mp (Option.isSome_map.symm.trans there)
    have ends : (0x7FFFFFFF : Int) < 2 ^ 31 := by decide
    have exact := Int32.toInt_ofInt_of_le lower (Int.lt_of_le_of_lt upper ends)
    simp only [get?, put, List.getElem?_modify_eq, here, Option.map_eq_map, Option.map_some, exact]
  | childPort index =>
    obtain ⟨child, here⟩ := Option.isSome_iff_exists.mp (Option.isSome_map.symm.trans there)
    simp only [get?, put, List.getElem?_modify_eq, here, Option.map_eq_map, Option.map_some,
      port lower upper]
  | _ => exact congrArg some (size lower upper)

end NumberField

/--
A number of an accepted document is taken for the nearest double, cut down to an integer of its
field's range. That is the number as it is written exactly if this is a safe integer. With another
number in its place the document is accepted unless the number is too large for a double, or the
check refuses the integer that it is taken for.
-/
theorem numbers_are_cut_to_fit {text : String} {c : Config} {root : Node}
    (parsed : parse text = .ok c) (tree : Node.parse text = .ok root) :
    (∀ (f : NumberField) site k, f.Given (.numeral site k) root →
      ∃ x, k.toDouble = .ok x ∧ f.get? c = some (f.range.take x) ∧
        (k.value? = some (f.range.take x : ℚ) ↔
          ∃ z : Int, k.value? = some (z : ℚ) ∧ f.range.Safe z)) ∧
      ∀ (f : NumberField) m site k root', f.Rewritten m (.numeral site k) root root' →
        -- Where things stand in the other text does not matter.
        ∀ text' tree', Node.parse text' = .ok tree' → tree'.bare = root'.bare →
          ∀ c', parse text' = .ok c' ↔
            ∃ x, k.toDouble = .ok x ∧ c' = f.put c (f.range.take x) ∧ c'.check = .ok () := by
  obtain ⟨n, tree_n, done, -⟩ := parse_eq_ok_iff.mp parsed
  obtain rfl := Except.ok.inj (tree.symm.trans tree_n)
  constructor
  · intro f site k given
    obtain ⟨there, anew⟩ := NumberField.Rewritten.read given done
    obtain ⟨x, read, same⟩ := (anew c).mp done
    obtain ⟨lower, upper⟩ := f.range.take_mem x
    have has := NumberField.get?_put there lower upper
    rw [← same] at has
    exact ⟨x, read, has, Json5.Numeral.value?_eq_take_iff f.range read⟩
  · intro f m site k root' rewritten text' tree' tree_text' same c'
    rw [parse_eq_ok_iff_of_bare tree_text' same, (rewritten.read done).2 c']
    constructor
    · rintro ⟨⟨x, read, rfl⟩, checked⟩
      exact ⟨x, read, rfl, checked⟩
    · rintro ⟨x, read, rfl, checked⟩
      exact ⟨⟨x, read, rfl⟩, checked⟩

/-! ### A port out of range -/

/-- A document that names a subscriber at a port. -/
def portChars (port : Int) : List Char :=
  Json.object
    [("device", Json.object [("role", Json.quote "subscriber"), ("name", Json.quote "onu"),
      ("address", Json.quote "onu"), ("port", Digits.signed port)]),
      ("child_transport", ChildTransport.plaintext.jsonChars)]

def portText (port : Int) : String := String.ofList (portChars port)

def portTree (port : Int) : Node :=
  .record
    [("device", .record [("role", .ofText "subscriber"), ("name", .ofText "onu"),
      ("address", .ofText "onu"), ("port", .ofInt port)]),
      ("child_transport", ChildTransport.plaintext.tree)]

/-- Such a document has the port where a port belongs, and it may be written anew. -/
theorem portText_read (port : Int) :
    ∃ root site, Node.parse (portText port) = .ok root ∧ root.bare = portTree port ∧
      ∀ port', ∃ root', NumberField.devicePort.Rewritten (.numeral site (.ofInt port))
        (.numeral site (.ofInt port')) root root' ∧ root'.bare = portTree port' := by
  have spells : Json5.Spells (portChars port) (portTree port) := by
    refine Json5.spells_record <| .cons (.field (by decide) (Json5.spells_record ?_)) <|
      .cons (.field (by decide) (ChildTransport.spells (by decide))) .nil
    exact .cons (.field (by decide) (Json5.spells_text (by decide))) <|
      .cons (.field (by decide) (Json5.spells_text (by decide))) <|
      .cons (.field (by decide) (Json5.spells_text (by decide))) <|
      .cons (.field (by decide) (Json5.spells_integer port)) .nil
  obtain ⟨root, tree, bare⟩ := spells.parse
  obtain ⟨site, entries, rfl, parts⟩ := Node.exists_of_bare_record bare
  obtain - | @⟨⟨device, _⟩, _, rest, _, ⟨device_named, device_bare⟩, others⟩ := parts
  obtain ⟨site', members, rfl, fields⟩ := Node.exists_of_bare_record device_bare
  obtain - | @⟨role, _, _, _, role_bare, fields⟩ := fields
  obtain - | @⟨name, _, _, _, name_bare, fields⟩ := fields
  obtain - | @⟨address, _, _, _, address_bare, fields⟩ := fields
  obtain - | @⟨⟨key, n⟩, _, _, _, ⟨key_named, port_bare⟩, - | -⟩ := fields
  obtain ⟨place, rfl⟩ : ∃ place, n = .numeral place (.ofInt port) := by
    cases n <;> simp [Node.bare, Node.ofInt] at port_bare
    exact ⟨_, by rw [port_bare]⟩
  refine ⟨_, place, tree, bare, fun port' => ?_⟩
  refine ⟨_, .devicePort (.member site' [role, name, address] [] key (Key.text_of_bare key_named))
    (.member site [] rest device (Key.text_of_bare device_named)), ?_⟩
  obtain - | @⟨transport, _, _, _, transport_bare, - | -⟩ := others
  simp [Node.bare, Node.bareMembers, portTree, Node.record, Node.member, Node.ofInt, device_named,
    role_bare, name_bare, address_bare, key_named, transport_bare]

theorem portText_parse {port : Int} {root : Node} {c : Config}
    (tree : Node.parse (portText port) = .ok root) (bare : root.bare = portTree port)
    (read : ofNode (portTree port) = .ok c) (checked : c.check = .ok ()) :
    parse (portText port) = .ok c := by
  have done : (ofNode root).toOption = some c := by rw [← ofNode_bare root, bare, read, toOption_ok]
  exact parse_eq_ok_iff.mpr ⟨root, tree, toOption_eq_some.mp done, checked⟩

/-- A subscriber at the last port that there is. -/
def outermost : Config := { leaf with device.location.port := 65535 }

theorem leaf_read : ofNode (portTree 1) = .ok leaf := by decide +kernel

theorem outermost_read : ofNode (portTree 70000) = .ok outermost := by decide +kernel

def beyondText : String :=
  "\x7b\"device\":\x7b\"role\":\"subscriber\",\"name\":\"onu\"," ++
    "\"address\":\"onu\",\"port\":70000\x7d," ++
    "\"child_transport\":\x7b\"mode\":\"plaintext\"\x7d\x7d"

theorem beyondText_eq : beyondText = portText 70000 := by decide +kernel

/-- A document is accepted that has a port that there is not, as one with another port. -/
theorem port_beyond_range_accepted :
    ∃ root site k, parse beyondText = .ok outermost ∧ Node.parse beyondText = .ok root ∧
      NumberField.devicePort.Given (.numeral site k) root ∧ k.value? = some 70000 ∧
      NumberField.devicePort.get? outermost = some 65535 := by
  rw [beyondText_eq]
  obtain ⟨root, site, tree, bare, anew⟩ := portText_read 70000
  obtain ⟨root', rewritten, -⟩ := anew 70000
  refine ⟨root, site, .ofInt 70000, ?_, tree, rewritten.here, ?_, rfl⟩
  · exact portText_parse tree bare outermost_read (by decide)
  · exact_mod_cast Json5.Numeral.value?_ofInt 70000

/-- A document with the first port, and one in which a port beyond the last is written for it. -/
theorem numbers_are_cut_to_fit_port :
    ∃ root site root' tree' x, parse (portText 1) = .ok leaf ∧
      Node.parse (portText 1) = .ok root ∧
      NumberField.devicePort.Given (.numeral site (.ofInt 1)) root ∧
      NumberField.devicePort.Rewritten (.numeral site (.ofInt 1)) (.numeral site (.ofInt 70000))
        root root' ∧
      Node.parse (portText 70000) = .ok tree' ∧ tree'.bare = root'.bare ∧
      (Json5.Numeral.ofInt 1).toDouble = .ok x ∧
      NumberField.devicePort.get? leaf = some (IntegerRange.unsigned16.take x) ∧
      parse (portText 70000) = .ok outermost := by
  obtain ⟨root, site, tree, bare, anew⟩ := portText_read 1
  obtain ⟨root', rewritten, bare'⟩ := anew 70000
  obtain ⟨tree', -, parsed', same, -⟩ := portText_read 70000
  have parsed := portText_parse tree bare leaf_read (by decide)
  obtain ⟨given, written⟩ := numbers_are_cut_to_fit parsed tree
  obtain ⟨x, read, has, -⟩ := given _ _ _ rewritten.here
  have beyond : (Json5.Numeral.ofInt 70000).toDouble =
      .ok (.finite false 4810363371520000 (-36)) := by decide +kernel
  have accepted := (written _ _ _ _ _ rewritten _ _ parsed' (same.trans bare'.symm) outermost).mpr
    ⟨_, beyond, by decide +kernel, by decide⟩
  exact ⟨root, site, root', tree', x, parsed, tree, rewritten.here, rewritten, parsed',
    same.trans bare'.symm, read, has, accepted⟩

end Config
end OpticalAccess
