import OpticalAccess.Network.Setup
import OpticalAccess.Proofs.Configuration.Topology
import OpticalAccess.Proofs.Hierarchy.Roster

/-!
# The channels that a configuration asks for

A channel can be made with one place at least, and with no more places than permits can count. The
check of a configuration keeps to the lower end, so that whoever asks for one place at least gets
what the configuration says. It does not know of the upper end: a configuration that goes beyond it
is accepted like any other.
-/

namespace OpticalAccess

open IngressQueue (maxCapacity validCapacity)

theorem validCapacity_iff {n : Nat} (positive : 1 ≤ n) :
    validCapacity (max 1 n) = true ↔ n ≤ maxCapacity := by
  rw [Nat.max_eq_right positive, validCapacity, Bool.and_eq_true, decide_eq_true_eq,
    decide_eq_true_eq]
  exact and_iff_right positive

namespace Config

/-! ### Numbers that are not zero -/

theorem check_eq_ok_iff {c : Config} :
    c.check = .ok () ↔
      ¬(c.device.role = .subscriber ∧ c.children ≠ []) ∧ checkChildren [] c.children = .ok () ∧
        c.router.statsFanoutConcurrency ≠ 0 ∧
        ¬(c.router.connectTimeoutMs = 0 ∨ c.router.callTimeoutMs = 0) ∧
        ¬(c.router.relayBuffer = 0 ∨ c.outgoingQueueSize = 0) := by
  unfold check
  by_cases leaf : c.device.role = .subscriber ∧ c.children ≠ []
  · rw [if_pos leaf]
    exact iff_of_false (fun thrown => by cases thrown) fun others => others.1 leaf
  · rw [if_neg leaf]
    cases children : checkChildren [] c.children with
    | error reason =>
      exact iff_of_false (fun thrown => by cases thrown) fun others => by cases others.2.1
    | ok =>
      by_cases fanout : c.router.statsFanoutConcurrency = 0 <;>
        by_cases timeouts : c.router.connectTimeoutMs = 0 ∨ c.router.callTimeoutMs = 0 <;>
        by_cases sizes : c.router.relayBuffer = 0 ∨ c.outgoingQueueSize = 0 <;>
        simp [leaf, fanout, timeouts, sizes, bind, Except.bind, pure, Except.pure, throw, throwThe,
          MonadExceptOf.throw]

/-- What is asked for at least once is not asked for zero times. -/
structure Positive (c : Config) : Prop where
  statsFanout : 1 ≤ c.settings.statsFanout
  relayBuffer : 1 ≤ c.settings.relayBuffer
  outgoingQueueSize : 1 ≤ c.outgoingQueueSize.toNat

theorem one_le_toNat {n : UInt64} (apart : n ≠ 0) : 1 ≤ n.toNat := by
  have toNat_apart : n.toNat ≠ 0 := fun zero => apart (UInt64.toNat_inj.mp zero)
  omega

theorem check_positive {c : Config} (checked : c.check = .ok ()) : c.Positive := by
  obtain ⟨-, -, fanout, -, sizes⟩ := check_eq_ok_iff.mp checked
  rw [not_or] at sizes
  exact ⟨one_le_toNat fanout, one_le_toNat sizes.1, one_le_toNat sizes.2⟩

/-! ### The queue of a terminal -/

/-- The device of a configuration: a terminal has the queue that is asked for, if there can be. -/
structure Queued (c : Config) (built : Except BuildError Device) : Prop where
  positive : 1 ≤ c.outgoingQueueSize.toNat
  leaf : c.device.role = .subscriber → ∃ s, built = .ok { machine := .subscriber s }
  made : c.device.role = .terminal → c.outgoingQueueSize.toNat ≤ maxCapacity →
    ∃ t, built = .ok { machine := .terminal t } ∧ t.queue.capacity = c.outgoingQueueSize.toNat
  refused : c.device.role = .terminal → maxCapacity < c.outgoingQueueSize.toNat →
    built = .error .capacity

theorem buildDevice_queued {c : Config} (checked : c.check = .ok ()) (v : Verbosity) :
    c.Queued (c.buildDevice.value v) := by
  have positive := (check_positive checked).outgoingQueueSize
  obtain ⟨registry, taken, -⟩ := check_provisions checked
  refine ⟨positive, fun role => ?_, fun role fits => ?_, fun role large => ?_⟩
  · refine ⟨{ location := c.device.location }, ?_⟩
    rw [buildDevice, role]
    rfl
  · have valid := (validCapacity_iff positive).mpr fits
    refine ⟨.new c.device.location registry c.outgoingQueueSize.toNat, ?_,
      Nat.max_eq_right positive⟩
    simp [buildDevice, role, taken, valid]
  · have invalid : ¬ validCapacity (max 1 c.outgoingQueueSize.toNat) = true := by
      rw [validCapacity_iff positive]
      exact Nat.not_le.mpr large
    simp [buildDevice, role, taken, invalid]

end Config

/-! ### The streams of a router -/

namespace Network

variable {v : Verbosity}

theorem makeNode_built {dialled : Bool} {name text : String} {c : Config} {d : Device}
    (parsed : Config.parse text = .ok c) (built : c.buildDevice.value v = .ok d) :
    (makeNode dialled name (.config text)).value v =
      .ok { name, device := d, settings := c.settings, closed := true } := by
  cases dialled <;> simp [makeNode, parsed, built]

/-- A node that is set up by a text has the settings of the configuration. -/
theorem makeNode_config {dialled : Bool} {name text : String} {n : Node}
    (made : (makeNode dialled name (.config text)).value v = .ok n) :
    ∃ c, Config.parse text = .ok c ∧ n.settings = c.settings := by
  cases parsed : Config.parse text with
  | error error => cases dialled <;> simp [makeNode, parsed] at made
  | ok c =>
    cases built : c.buildDevice.value v with
    | error error => cases error <;> cases dialled <;> simp [makeNode, parsed, built] at made
    | ok d =>
      rw [makeNode_built parsed built] at made
      obtain rfl := Except.ok.inj made
      exact ⟨c, rfl, rfl⟩

/-- Nodes are made in the order of their plans. -/
theorem makeNodes_getElem? {dialled : Bool} {plans : List (String × Plan)} {nodes : List Node}
    (made : (makeNodes dialled plans).value v = .ok nodes) {i : Nat} {plan : String × Plan}
    (planned : plans[i]? = some plan) :
    ∃ n, nodes[i]? = some n ∧ (makeNode dialled plan.1 plan.2).value v = .ok n := by
  induction plans generalizing nodes i with
  | nil => simp at planned
  | cons first rest ih =>
    cases node : (makeNode dialled first.1 first.2).value v with
    | error error => simp [makeNodes, node] at made
    | ok n =>
      cases others : (makeNodes dialled rest).value v with
      | error error => simp [makeNodes, node, others] at made
      | ok more =>
        obtain rfl : n :: more = nodes := by simpa [makeNodes, node, others] using made
        cases i with
        | zero =>
          obtain rfl := Option.some.inj planned
          exact ⟨n, rfl, node⟩
        | succ i => exact ih others planned

theorem setup_config {dialled : Bool} {callTimeoutMs : Nat} {plans : List (String × Plan)}
    {w : Network} (made : (setup dialled callTimeoutMs plans).value v = .ok w) {i : Nat}
    {name text : String} (planned : plans[i]? = some (name, .config text)) :
    ∃ n c, w.nodes[i]? = some n ∧ Config.parse text = .ok c ∧ n.settings = c.settings := by
  unfold setup at made
  simp only [Traced.value_bind] at made
  split at made
  · cases made
  · rename_i nodes eq
    obtain rfl := Except.ok.inj made
    obtain ⟨n, here, node⟩ := makeNodes_getElem? eq planned
    obtain ⟨c, parsed, settings⟩ := makeNode_config node
    exact ⟨n, c, here, parsed, settings⟩

theorem setup_single (name : String) (callTimeoutMs : Nat) {text : String} {c : Config} {d : Device}
    (parsed : Config.parse text = .ok c) (built : c.buildDevice.value v = .ok d) :
    (setup false callTimeoutMs [(name, .config text)]).value v =
      .ok { nodes := [{ name, device := d, settings := c.settings, closed := true }],
            callTimeoutMs } := by
  simp [setup, makeNodes, makeNode_built parsed built]

end Network

/-- What a router does with the numbers of a configuration: it takes them as they are. -/
structure Config.Served (c : Config) (v : Verbosity) (w : Network) (n : Node) : Prop where
  positive : 1 ≤ c.router.relayBuffer.toNat
  /-- The calls for counters that may be in flight. -/
  fanout : ∀ calls : List (Int32 × Location),
    (Fanout.new n.settings.statsFanout calls).limit = c.router.statsFanoutConcurrency.toNat
  stream : ∀ call,
    ((Session.start n.device call n.settings.relayBuffer).value v).stream.capacity =
      c.router.relayBuffer.toNat
  opened : c.router.relayBuffer.toNat ≤ maxCapacity →
    ∀ stream, ((w.nodeStep n (.openStream stream)).value v).1 = .done
  refused : maxCapacity < c.router.relayBuffer.toNat →
    ∀ stream, ((w.nodeStep n (.openStream stream)).value v).1 = .capacity

namespace Config

theorem node_served {c : Config} (checked : c.check = .ok ()) (v : Verbosity) (w : Network)
    {n : Node} (settings : n.settings = c.settings) : c.Served v w n := by
  have positive := check_positive checked
  refine ⟨positive.relayBuffer, fun calls => ?_, fun call => ?_, fun fits stream => ?_,
    fun large stream => ?_⟩
  · rw [settings]
    exact Nat.max_eq_right positive.statsFanout
  · rw [settings]
    exact Nat.max_eq_right positive.relayBuffer
  · have valid := (validCapacity_iff positive.relayBuffer).mpr fits
    rw [Network.nodeStep, settings, if_pos valid]
    rfl
  · have invalid : ¬ validCapacity (max 1 c.settings.relayBuffer) = true := by
      rw [validCapacity_iff positive.relayBuffer]
      exact Nat.not_le.mpr large
    rw [Network.nodeStep, settings, if_neg invalid]
    rfl

/--
The numbers of an accepted configuration are taken as they are, and none of them is zero. A channel
cannot be made for one reason only, that it is to have more places than permits can count: the
queue of a terminal when its device is made, the buffer of a stream whenever one is opened.
-/
theorem channels_are_as_asked {text : String} {c : Config} (parsed : parse text = .ok c) :
    (∀ v, c.Queued (c.buildDevice.value v)) ∧
      ∀ dialled callTimeoutMs (plans : List (String × Network.Plan)) v w,
        (Network.setup dialled callTimeoutMs plans).value v = .ok w →
        ∀ (i : Nat) name, plans[i]? = some (name, .config text) → ∀ ops,
          let later := ((w.run ops).value v).2
          ∃ n, later.nodes[i]? = some n ∧ c.Served v later n := by
  obtain ⟨-, -, -, checked⟩ := parse_eq_ok_iff.mp parsed
  refine ⟨buildDevice_queued checked, ?_⟩
  intro dialled callTimeoutMs plans v w made i name planned ops
  obtain ⟨n, c', here, parsed', settings⟩ := Network.setup_config made planned
  obtain rfl := Except.ok.inj (parsed.symm.trans parsed')
  obtain ⟨m, there, -, same⟩ := Network.node_kept (w.run_roster ops) here
  exact ⟨m, there, node_served checked v _ (same.trans settings)⟩

theorem channels_are_as_asked_headend :
    parse headend.json = .ok headend ∧
      ∃ w, (Network.setup false 5000 [("olt", .config headend.json)]).value .off = .ok w ∧
        headend.Queued (headend.buildDevice.value .off) ∧
          ∃ n, ((w.run [.node "olt" .stats]).value .off).2.nodes[0]? = some n ∧
            headend.Served .off ((w.run [.node "olt" .stats]).value .off).2 n := by
  have exact : ∀ n ∈ headend.sizes, n.toNat ≤ 2 ^ 53 := by simp [sizes, RouterConfig.sizes, headend]
  obtain ⟨m, tree, read⟩ := read_json exact (by decide)
  have parsed := parse_eq_ok_iff.mpr ⟨m, tree, read, by decide⟩
  obtain ⟨queued, served⟩ := channels_are_as_asked parsed
  obtain ⟨t, built, -⟩ := (queued .off).made rfl (by decide)
  have made := Network.setup_single (v := .off) "olt" 5000 parsed built
  exact ⟨parsed, _, made, queued .off, served _ _ _ _ _ made 0 "olt" rfl _⟩

/-- A terminal whose queue is to have a place more than permits can count. -/
def wide : Config where
  device := ⟨.terminal, "olt", ⟨"olt", 1⟩⟩
  childTransport := .plaintext
  outgoingQueueSize := 2305843009213693952

/-- A subscriber whose streams are to have that many places. -/
def broad : Config where
  device := ⟨.subscriber, "onu", ⟨"onu", 1⟩⟩
  childTransport := .plaintext
  router := { relayBuffer := 2305843009213693952 }

theorem forall_sizes {c : Config} {P : UInt64 → Prop} :
    (∀ n ∈ c.sizes, P n) ↔
      P c.outgoingQueueSize ∧ P c.router.statsFanoutConcurrency ∧ P c.router.relayBuffer ∧
        P c.router.connectTimeoutMs ∧ P c.router.callTimeoutMs := by
  simp [sizes, RouterConfig.sizes]

/-- Both are accepted; the one has no device, and the other opens no stream. -/
theorem wide_channels_fail :
    parse wide.json = .ok wide ∧ wide.buildDevice.value .off = .error .capacity ∧
      parse broad.json = .ok broad ∧
      ∃ n, (Network.makeNode false "onu" (.config broad.json)).value .off = .ok n ∧
        ((Network.nodeStep { nodes := [n] } n (.openStream "s")).value .off).1 = .capacity := by
  have wide_exact : ∀ n ∈ wide.sizes, sizeOf64 (.ofInt n.toNat) = .ok n :=
    forall_sizes.mpr (by decide +kernel)
  have broad_exact : ∀ n ∈ broad.sizes, sizeOf64 (.ofInt n.toNat) = .ok n :=
    forall_sizes.mpr (by decide +kernel)
  obtain ⟨m, tree, read⟩ := read_json_of_sizes wide_exact (by decide)
  obtain ⟨m', tree', read'⟩ := read_json_of_sizes broad_exact (by decide)
  have parsed : parse broad.json = .ok broad := parse_eq_ok_iff.mpr ⟨m', tree', read', by decide⟩
  refine ⟨parse_eq_ok_iff.mpr ⟨m, tree, read, by decide⟩, rfl, parsed, ?_⟩
  exact ⟨_, Network.makeNode_built parsed rfl, rfl⟩

end Config
end OpticalAccess
