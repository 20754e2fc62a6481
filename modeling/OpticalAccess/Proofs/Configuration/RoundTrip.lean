import OpticalAccess.Config.Json
import OpticalAccess.Proofs.Configuration.Reading
import OpticalAccess.Proofs.Json5.Printed

/-!
# Reading a configuration that was written

A configuration that is valid is read back as it was written, with all its fields. Its numbers have
to be doubles, as every number of a document is read as one, and its texts must not contain the two
separators that end a line of JSON5 but not of JSON.
-/

namespace OpticalAccess

open Json5 (Node Slot Spells SpellsField Unbroken)

/-! ### Values -/

theorem portOf_ofInt (port : UInt16) : portOf (.ofInt port.toNat) = .ok port := by
  have bound := port.toNat_lt
  rw [portOf, Node.asInteger_ofInt (by omega) (by omega) (by omega)]
  simp [Except.map]

theorem sizeOf64_ofInt {size : UInt64} (exact : size.toNat ≤ 2 ^ 53) :
    sizeOf64 (.ofInt size.toNat) = .ok size := by
  rw [sizeOf64, Node.asInteger_ofInt (by omega) (by omega) (by omega)]
  simp [Except.map]

theorem uniPortOf_ofInt (port : Int32) : uniPortOf (.ofInt port.toInt) = .ok port := by
  have lower := port.le_toInt
  have upper := port.toInt_lt
  rw [uniPortOf, Node.asInteger_ofInt (by omega) (by omega) (by omega)]
  simp [Except.map]

theorem Role.ofNode_label (role : Role) : ofNode (.ofText role.label) = .ok role := by
  have label : Json5.textOf Json5.nowhere.place (role.label.toList.map Json5.pieceOf) =
      .ok role.label := by
    simp [Json5.textOf, Json5.decode_pieceOf]
  rw [Node.ofText, ofNode, label]
  cases role <;> rfl

/-! ### Records -/

def DeviceConfig.tree (d : DeviceConfig) : Node :=
  .record [("role", .ofText d.role.label), ("name", .ofText d.name),
    ("address", .ofText d.location.address), ("port", .ofInt d.location.port.toNat)]

def Child.tree (c : Child) : Node :=
  .record [("uni_port", .ofInt c.uniPort.toInt), ("address", .ofText c.location.address),
    ("port", .ofInt c.location.port.toNat)]

def ServerTls.tree (t : ServerTls) : Node :=
  .record [("certificate", .ofText t.certificate), ("key", .ofText t.key)]

def RouterConfig.tree (r : RouterConfig) : Node :=
  .record [("stats_fanout_concurrency", .ofInt r.statsFanoutConcurrency.toNat),
    ("relay_buffer", .ofInt r.relayBuffer.toNat),
    ("connect_timeout_ms", .ofInt r.connectTimeoutMs.toNat),
    ("call_timeout_ms", .ofInt r.callTimeoutMs.toNat)]

def ChildTransport.tree : ChildTransport → Node
  | plaintext => .record [("mode", .ofText "plaintext")]
  | tls caCertificate domainName =>
    .record [("mode", .ofText "tls"), ("ca_certificate", .ofText caCertificate),
      ("domain_name", .ofText domainName)]

theorem DeviceConfig.ofNode_tree (d : DeviceConfig) : ofNode d.tree = .ok d := by
  simp [ofNode, tree, Node.record, Node.member, Slot.read, Slot.fillMembers, Slot.complete, slots,
    slot, Role.ofNode_label, portOf_ofInt, Draft.config, Except.map, bind, Except.bind]

theorem Child.ofNode_tree (c : Child) : ofNode c.tree = .ok c := by
  simp [ofNode, tree, Node.record, Node.member, Slot.read, Slot.fillMembers, Slot.complete, slots,
    slot, uniPortOf_ofInt, portOf_ofInt, Draft.child, Except.map, bind, Except.bind]

theorem ServerTls.ofNode_tree (t : ServerTls) : ofNode t.tree = .ok t := by
  simp [ofNode, tree, Node.record, Node.member, Slot.read, Slot.fillMembers, Slot.complete, slots,
    slot, Draft.config, Except.map, bind, Except.bind]

/-- The numbers of a router. -/
def RouterConfig.sizes (r : RouterConfig) : List UInt64 :=
  [r.statsFanoutConcurrency, r.relayBuffer, r.connectTimeoutMs, r.callTimeoutMs]

theorem RouterConfig.ofNode_tree (r : RouterConfig)
    (exact : ∀ n ∈ r.sizes, sizeOf64 (.ofInt n.toNat) = .ok n) : ofNode r.tree = .ok r := by
  simp only [sizes, List.forall_mem_cons] at exact
  obtain ⟨fanout, buffer, connect, call, -⟩ := exact
  simp [ofNode, tree, Node.record, Node.member, Slot.read, Slot.fillMembers, Slot.complete, slots,
    slot, fanout, buffer, connect, call, Draft.config, Except.map, bind, Except.bind]

theorem ChildTransport.modeOf_ofText {s : String} {mode : Mode}
    (named : Mode.ofLabel s = .ok mode) : modeOf (.ofText s) = .ok mode := by
  simp [modeOf, Node.ofText, Json5.textOf, Json5.decode_pieceOf, named, bind, Except.bind, pure,
    Except.pure]

theorem ChildTransport.ofNode_tree (enclosing : Position) (t : ChildTransport) :
    ofNode enclosing t.tree = .ok t := by
  cases t with
  | plaintext =>
    have mode := modeOf_ofText (s := "plaintext") rfl
    simp [ofNode, tree, Node.record, Node.member, splitMembers, mode, ofParts, bind, Except.bind,
      pure, Except.pure]
  | tls ca domain =>
    have mode := modeOf_ofText (s := "tls") rfl
    simp [ofNode, tree, Node.record, Node.member, splitMembers, mode, ofParts, TlsDraft.fill,
      asText, TlsDraft.complete, Except.map, bind, Except.bind, pure, Except.pure]

/-! ### The configuration -/

namespace Config

def serverTlsTree : Option ServerTls → Node
  | none => .null Json5.nowhere
  | some tls => tls.tree

/-- A configuration as it is written, without places. -/
def tree (c : Config) : Node :=
  .record [("device", c.device.tree),
    ("children", .array Json5.nowhere (c.children.map Child.tree)),
    ("child_transport", c.childTransport.tree), ("server_tls", serverTlsTree c.serverTls),
    ("router", c.router.tree), ("outgoing_queue_size", .ofInt c.outgoingQueueSize.toNat)]

theorem childrenOf_tree (children : List Child) :
    childrenOf (.array Json5.nowhere (children.map Child.tree)) = .ok children := by
  have read : (children.map Child.tree).mapM Child.ofNode = .ok children := by
    induction children with
    | nil => rfl
    | cons child rest ih =>
      rw [List.map_cons, List.mapM_cons, Child.ofNode_tree, ih]
      rfl
  exact read

theorem serverTlsOf_tree (tls : Option ServerTls) : serverTlsOf (serverTlsTree tls) = .ok tls := by
  cases tls with
  | none => rfl
  | some tls =>
    rw [serverTlsTree, serverTlsOf_of_ne_null (fun _ => Node.noConfusion), ServerTls.ofNode_tree]
    rfl

/-- The numbers of a configuration that have more bits than a double has. -/
def sizes (c : Config) : List UInt64 := c.outgoingQueueSize :: c.router.sizes

theorem ofNode_tree {c : Config} (exact : ∀ n ∈ c.sizes, sizeOf64 (.ofInt n.toNat) = .ok n) :
    ofNode c.tree = .ok c := by
  obtain ⟨queue, router⟩ := List.forall_mem_cons.mp exact
  obtain ⟨device, children, childTransport, serverTls, router', size⟩ := c
  have tls := serverTlsOf_tree serverTls
  cases serverTls <;>
    simp [ofNode, tree, Node.record, Node.member, Slot.read, Slot.fillMembers, Slot.complete, slots,
      slot, DeviceConfig.ofNode_tree, childrenOf_tree, ChildTransport.ofNode_tree, tls,
      RouterConfig.ofNode_tree _ router, queue, Draft.config, Except.map, bind, Except.bind]

end Config

/-! ### Characters -/

theorem spells_nat (n : Nat) : Spells (Digits.decimal n) (.ofInt n) := Json5.spells_integer n

theorem Role.unbroken_label (role : Role) : Unbroken role.label.toList := by
  cases role <;> decide

def DeviceConfig.texts (d : DeviceConfig) : List String := [d.name, d.location.address]

theorem DeviceConfig.spells {d : DeviceConfig} (unbroken : ∀ s ∈ d.texts, Unbroken s.toList) :
    Spells d.jsonChars d.tree := by
  simp only [texts, List.forall_mem_cons] at unbroken
  obtain ⟨name, address, -⟩ := unbroken
  exact Json5.spells_record <|
    .cons (.field (by decide) (Json5.spells_text (Role.unbroken_label _))) <|
    .cons (.field (by decide) (Json5.spells_text name)) <|
    .cons (.field (by decide) (Json5.spells_text address)) <|
    .cons (.field (by decide) (spells_nat _)) .nil

theorem Child.spells {c : Child} (address : Unbroken c.location.address.toList) :
    Spells c.jsonChars c.tree :=
  Json5.spells_record <|
    .cons (.field (by decide) (Json5.spells_integer _)) <|
    .cons (.field (by decide) (Json5.spells_text address)) <|
    .cons (.field (by decide) (spells_nat _)) .nil

def ServerTls.texts (t : ServerTls) : List String := [t.certificate, t.key]

theorem ServerTls.spells {t : ServerTls} (unbroken : ∀ s ∈ t.texts, Unbroken s.toList) :
    Spells t.jsonChars t.tree := by
  simp only [texts, List.forall_mem_cons] at unbroken
  obtain ⟨certificate, key, -⟩ := unbroken
  exact Json5.spells_record <|
    .cons (.field (by decide) (Json5.spells_text certificate)) <|
    .cons (.field (by decide) (Json5.spells_text key)) .nil

theorem RouterConfig.spells (r : RouterConfig) : Spells r.jsonChars r.tree :=
  Json5.spells_record <|
    .cons (.field (by decide) (spells_nat _)) <| .cons (.field (by decide) (spells_nat _)) <|
    .cons (.field (by decide) (spells_nat _)) <| .cons (.field (by decide) (spells_nat _)) .nil

def ChildTransport.texts : ChildTransport → List String
  | plaintext => []
  | tls caCertificate domainName => [caCertificate, domainName]

theorem ChildTransport.spells {t : ChildTransport} (unbroken : ∀ s ∈ t.texts, Unbroken s.toList) :
    Spells t.jsonChars t.tree := by
  cases t with
  | plaintext =>
    exact Json5.spells_record (.cons (.field (by decide) (Json5.spells_text (by decide))) .nil)
  | tls ca domain =>
    simp only [texts, List.forall_mem_cons] at unbroken
    obtain ⟨ca, domain, -⟩ := unbroken
    exact Json5.spells_record <|
      .cons (.field (by decide) (Json5.spells_text (by decide))) <|
      .cons (.field (by decide) (Json5.spells_text ca)) <|
      .cons (.field (by decide) (Json5.spells_text domain)) .nil

namespace Config

/-- The texts of a configuration. -/
def texts (c : Config) : List String :=
  c.device.texts ++ c.children.map (·.location.address) ++ c.childTransport.texts ++
    c.serverTls.toList.flatMap ServerTls.texts

theorem spells {c : Config} (unbroken : ∀ s ∈ c.texts, Unbroken s.toList) :
    Spells c.jsonChars c.tree := by
  simp only [texts, List.forall_mem_append] at unbroken
  obtain ⟨⟨⟨device, children⟩, transport⟩, tls⟩ := unbroken
  have items :
      List.Forall₂ Spells (c.children.map Child.jsonChars) (c.children.map Child.tree) := by
    rw [List.forall₂_map_left_iff, List.forall₂_map_right_iff, List.forall₂_same]
    exact fun child member => child.spells (children _ (List.mem_map_of_mem member))
  have certificates : Spells
      (match c.serverTls with
      | none => "null".toList
      | some tls => tls.jsonChars) (serverTlsTree c.serverTls) := by
    cases given : c.serverTls with
    | none => exact Json5.spells_null
    | some t => exact ServerTls.spells (by simpa [given] using tls)
  exact Json5.spells_record <|
    .cons (.field (by decide) (DeviceConfig.spells device)) <|
    .cons (.field (by decide) (Json5.spells_array items)) <|
    .cons (.field (by decide) (ChildTransport.spells transport)) <|
    .cons (.field (by decide) certificates) <|
    .cons (.field (by decide) (RouterConfig.spells _)) <|
    .cons (.field (by decide) (spells_nat _)) .nil

/-- What is written as JSON is read back, valid or not, if its numbers are. -/
theorem read_json_of_sizes {c : Config}
    (exact : ∀ n ∈ c.sizes, sizeOf64 (.ofInt n.toNat) = .ok n)
    (unbroken : ∀ s ∈ c.texts, Unbroken s.toList) :
    ∃ m, Node.parse c.json = .ok m ∧ ofNode m = .ok c := by
  obtain ⟨m, tree, bare⟩ := (spells unbroken).parse
  have read : (ofNode m).toOption = some c := by
    rw [← ofNode_bare m, bare, ofNode_tree exact, toOption_ok]
  exact ⟨m, tree, toOption_eq_some.mp read⟩

theorem read_json {c : Config} (exact : ∀ n ∈ c.sizes, n.toNat ≤ 2 ^ 53)
    (unbroken : ∀ s ∈ c.texts, Unbroken s.toList) :
    ∃ m, Node.parse c.json = .ok m ∧ ofNode m = .ok c :=
  read_json_of_sizes (fun n member => sizeOf64_ofInt (exact n member)) unbroken

/--
A valid configuration that is written as JSON is read back as it was, with its children in their
order: its numbers are exact as doubles, and its texts hold no separator of lines or paragraphs.
-/
theorem parse_json {c : Config} (valid : c.check = .ok ())
    (exact : ∀ n ∈ c.sizes, n.toNat ≤ 2 ^ 53) (unbroken : ∀ s ∈ c.texts, Unbroken s.toList) :
    parse c.json = .ok c := by
  obtain ⟨m, tree, read⟩ := read_json exact unbroken
  exact parse_eq_ok_iff.mpr ⟨m, tree, read, valid⟩

/-- A configuration with characters that JSON escapes, and with the largest number that is exact. -/
def escaped : Config where
  device := ⟨.terminal, "o\"l\\t\n\x01", ⟨"räck 7", 65535⟩⟩
  children := [⟨-2147483648, ⟨"onu", 0⟩⟩, ⟨2, ⟨"", 50061⟩⟩]
  childTransport := .tls "ca\t.pem" "\x7bolt\x7d"
  serverTls := some ⟨"cert.pem", "key.pem"⟩
  outgoingQueueSize := 9007199254740992

theorem parse_json_escaped :
    escaped.check = .ok () ∧ (∀ n ∈ escaped.sizes, n.toNat ≤ 2 ^ 53) ∧
      (∀ s ∈ escaped.texts, Unbroken s.toList) ∧ parse escaped.json = .ok escaped := by
  have valid : escaped.check = .ok () := by decide
  have exact : ∀ n ∈ escaped.sizes, n.toNat ≤ 2 ^ 53 := by simp [sizes, RouterConfig.sizes, escaped]
  have unbroken : ∀ s ∈ escaped.texts, Unbroken s.toList := by decide
  exact ⟨valid, exact, unbroken, parse_json valid exact unbroken⟩

end Config
end OpticalAccess
