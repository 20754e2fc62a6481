import OpticalAccess.Config.Device
import OpticalAccess.Proofs.Configuration.RoundTrip
import OpticalAccess.Proofs.Provisioning

/-!
# The topology that a configuration declares

The device of an accepted configuration can be made, and what it shows of its children is what the
configuration declares: every child at its port, and the ports in ascending order.
-/

namespace OpticalAccess

/-! ### Ports in order -/

namespace Router

theorem sortPorts_perm (ports : List Int32) : (sortPorts ports).Perm ports :=
  List.mergeSort_perm _ _

theorem sortPorts_ascending {ports : List Int32} (nodup : ports.Nodup) :
    (sortPorts ports).Pairwise (· < ·) := by
  have sorted : (sortPorts ports).Pairwise fun a b => decide (a ≤ b) = true :=
    List.pairwise_mergeSort (fun a b c => by simpa using Int32.le_trans)
      (fun a b => by simpa using Int32.le_total a b) ports
  have distinct : (sortPorts ports).Nodup := (sortPorts_perm ports).nodup_iff.mpr nodup
  refine (sorted.and distinct).imp fun {a b} ⟨le, ne⟩ => ?_
  exact Int32.lt_of_le_of_ne (of_decide_eq_true le) ne

/-- The ports that a terminal shows are those of its registry, in ascending order. -/
theorem info_terminal (t : Terminal) :
    info { machine := .terminal t } = ⟨uplinkPort, sortPorts t.registry.ports⟩ := by
  have apart : ∀ port ∈ t.registry.ports, decide (port ≠ uplinkPort) = true := by
    intro port member
    exact decide_eq_true fun uplink => t.registry.uplink_free (uplink ▸ member)
  have kept : t.registry.ports.filter (fun port => decide (port ≠ uplinkPort)) = t.registry.ports :=
    List.filter_eq_self.mpr apart
  rw [info, Device.childPorts, Device.view]
  exact congrArg (fun ports => (⟨uplinkPort, sortPorts ports⟩ : DeviceInfo)) kept

end Router

namespace Config

/-! ### The device of a configuration -/

/-- A device is what its configuration declares, and answers the ports that it declares. -/
structure Declared (c : Config) (d : Device) (answer : DeviceInfo) : Prop where
  role : d.role = c.device.role
  location : d.location = c.device.location
  leaf : c.device.role = .subscriber → c.children = []
  /-- There is one child to a port. -/
  unique : (c.children.map Child.uniPort).Nodup
  children : ∀ child ∈ c.children, d.childLocation? child.uniPort = some child.location
  others : ∀ port ∉ c.children.map Child.uniPort, d.childLocation? port = none
  nniPort : answer.nniPort = 0
  ascending : answer.uniPorts.Pairwise (· < ·)
  ports : ∀ port, port ∈ answer.uniPorts ↔ port ∈ c.children.map Child.uniPort
  count : answer.uniPorts.length = c.children.length
  uplink : 0 ∉ answer.uniPorts

theorem check_leaf {c : Config} (checked : c.check = .ok ())
    (leaf : c.device.role = .subscriber) : c.children = [] := by
  by_contra some
  unfold check at checked
  rw [if_pos ⟨leaf, some⟩] at checked
  cases checked

theorem subscriber_declared {c : Config} (leaf : c.device.role = .subscriber)
    (none : c.children = []) :
    let d : Device := { machine := .subscriber { location := c.device.location } }
    Declared c d (Router.info d) := by
  have ports : Router.sortPorts [] = [] := (Router.sortPorts_perm []).eq_nil
  constructor <;> simp [Device.role, Device.location, Device.childLocation?, Device.childPorts,
    Device.view, Router.info, uplinkPort, leaf, none, ports]

theorem terminal_declared {c : Config} (terminal : c.device.role = .terminal)
    (registry : Registry) (same : registry.children = c.children) (queueSize : Nat) :
    let d : Device := { machine := .terminal (.new c.device.location registry queueSize) }
    Declared c d (Router.info d) := by
  intro d
  have shown : Router.info d = ⟨uplinkPort, Router.sortPorts registry.ports⟩ :=
    Router.info_terminal _
  have ports : registry.ports = c.children.map Child.uniPort := congrArg _ same
  have perm := Router.sortPorts_perm registry.ports
  rw [shown]
  exact {
    role := terminal.symm
    location := rfl
    leaf := fun leaf => by rw [terminal] at leaf; cases leaf
    unique := ports ▸ registry.nodup
    children := fun child member => Registry.find?_declared (same ▸ member)
    others := fun port absent => Registry.find?_eq_none_iff.mpr (ports ▸ absent)
    nniPort := rfl
    ascending := Router.sortPorts_ascending registry.nodup
    ports := fun port => by rw [perm.mem_iff, ports]
    count := by rw [perm.length_eq, ports, List.length_map]
    uplink := fun member => registry.uplink_free (perm.mem_iff.mp member) }

theorem buildDevice_declared {c : Config} (checked : c.check = .ok ())
    (capacity : c.outgoingQueueSize.toNat ≤ IngressQueue.maxCapacity) (v : Verbosity) :
    ∃ d, c.buildDevice.value v = .ok d ∧ Declared c d ((Router.deviceInfo d).value v) := by
  cases role : c.device.role with
  | subscriber =>
    refine ⟨_, ?_, subscriber_declared role (check_leaf checked role)⟩
    rw [buildDevice, role]
    rfl
  | terminal =>
    obtain ⟨registry, taken, same⟩ := check_provisions checked
    refine ⟨_, ?_, terminal_declared role registry same c.outgoingQueueSize.toNat⟩
    have fits : IngressQueue.validCapacity (max 1 c.outgoingQueueSize.toNat) = true := by
      have one : 1 ≤ IngressQueue.maxCapacity := by decide
      simp only [IngressQueue.validCapacity, Bool.and_eq_true, decide_eq_true_eq]
      exact ⟨Nat.le_max_left _ _, Nat.max_le.mpr ⟨one, capacity⟩⟩
    simp [buildDevice, role, taken, fits]

/--
Checking and provisioning agree on every list of children. So the device of an accepted
configuration is made, if a queue can have the size that is asked for, and it is as declared.
-/
theorem declared_topology_is_built :
    (∀ children, Agreed children (checkChildren [] children) (Registry.ofChildren children)) ∧
      ∀ (text : String) (c : Config), parse text = .ok c →
        c.outgoingQueueSize.toNat ≤ IngressQueue.maxCapacity → ∀ v,
          ∃ d, c.buildDevice.value v = .ok d ∧ Declared c d ((Router.deviceInfo d).value v) := by
  refine ⟨checkChildren_agreed, fun text c parsed capacity v => ?_⟩
  obtain ⟨-, -, -, checked⟩ := parse_eq_ok_iff.mp parsed
  exact buildDevice_declared checked capacity v

/-- A terminal with three children, whose ports are not in order. -/
def headend : Config where
  device := ⟨.terminal, "olt", ⟨"olt", 1⟩⟩
  children := [⟨3, ⟨"onu", 3⟩⟩, ⟨-1, ⟨"onu", 1⟩⟩, ⟨2, ⟨"onu", 2⟩⟩]
  childTransport := .plaintext

theorem headend_is_built :
    parse headend.json = .ok headend ∧
      headend.outgoingQueueSize.toNat ≤ IngressQueue.maxCapacity ∧
      ∃ d, headend.buildDevice.value .off = .ok d ∧
        Declared headend d ((Router.deviceInfo d).value .off) := by
  have exact : ∀ n ∈ headend.sizes, n.toNat ≤ 2 ^ 53 := by simp [sizes, RouterConfig.sizes, headend]
  obtain ⟨m, tree, read⟩ := read_json exact (by decide)
  have parsed := parse_eq_ok_iff.mpr ⟨m, tree, read, by decide⟩
  have capacity : headend.outgoingQueueSize.toNat ≤ IngressQueue.maxCapacity := by decide
  exact ⟨parsed, capacity, declared_topology_is_built.2 _ _ parsed capacity _⟩

end Config
end OpticalAccess
