import OpticalAccess.Network.Setup
import OpticalAccess.Proofs.Plant.Basic

/-!
# New networks

A network that is set up has counted nothing yet, and no flow rule, payload or session is in it.
-/

namespace OpticalAccess

/-- A device before anything has happened to it. -/
structure Device.New (d : Device) : Prop where
  flows : d.flows = []
  counters : d.counters = {}
  payloads : d.queue.payloads = []

/-- A node before anything has happened to it. -/
structure Node.New (n : Node) : Prop where
  device : n.device.New
  sessions : n.sessions = []

namespace Network

variable {v : Verbosity}

def New (w : Network) : Prop := ∀ n ∈ w.nodes, n.New

theorem Parts.device_new {p : Parts} {d : Device} (made : p.device = .ok d) : d.New := by
  unfold Parts.device at made
  split at made
  · obtain rfl := Except.ok.inj made
    exact ⟨rfl, rfl, rfl⟩
  · split at made
    · cases made
    · split at made
      · obtain rfl := Except.ok.inj made
        exact ⟨rfl, rfl, rfl⟩
      · cases made

theorem buildDevice_new {c : Config} {d : Device} (made : c.buildDevice.value v = .ok d) :
    d.New := by
  unfold Config.buildDevice at made
  split at made
  · obtain rfl := Except.ok.inj made
    exact ⟨rfl, rfl, rfl⟩
  · split at made
    · cases made
    · simp only [Traced.value_bind] at made
      split at made
      · obtain rfl := Except.ok.inj made
        exact ⟨rfl, rfl, rfl⟩
      · cases made

theorem makeNode_new {dialled : Bool} {name : String} {plan : Plan} {n : Node}
    (made : (makeNode dialled name plan).value v = .ok n) : n.New := by
  cases plan with
  | parts p =>
    cases built : p.device with
    | error error => cases dialled <;> simp [makeNode, built] at made
    | ok d =>
      obtain rfl : _ = n := by cases dialled <;> simpa [makeNode, built] using made
      exact ⟨Parts.device_new built, rfl⟩
  | config text =>
    cases parsed : Config.parse text with
    | error error => cases dialled <;> simp [makeNode, parsed] at made
    | ok c =>
      cases built : c.buildDevice.value v with
      | error error =>
        cases error <;> cases dialled <;> simp [makeNode, parsed, built] at made
      | ok d =>
        obtain rfl : _ = n := by cases dialled <;> simpa [makeNode, parsed, built] using made
        exact ⟨buildDevice_new built, rfl⟩

theorem makeNodes_new {dialled : Bool} {plans : List (String × Plan)} {nodes : List Node}
    (made : (makeNodes dialled plans).value v = .ok nodes) : ∀ n ∈ nodes, n.New := by
  induction plans generalizing nodes with
  | nil =>
    obtain rfl := Except.ok.inj made
    simp
  | cons plan rest ih =>
    obtain ⟨name, plan⟩ := plan
    cases first : (makeNode dialled name plan).value v with
    | error error => simp [makeNodes, first] at made
    | ok n =>
      cases others : (makeNodes dialled rest).value v with
      | error error => simp [makeNodes, first, others] at made
      | ok more =>
        obtain rfl : n :: more = nodes := by simpa [makeNodes, first, others] using made
        exact List.forall_mem_cons.mpr ⟨makeNode_new first, ih others⟩

/-- A network that was set up is new. -/
theorem setup_new {dialled : Bool} {callTimeoutMs : Nat} {plans : List (String × Plan)}
    {w : Network} (made : (setup dialled callTimeoutMs plans).value v = .ok w) : w.New := by
  unfold setup at made
  simp only [Traced.value_bind] at made
  split at made
  · cases made
  · rename_i nodes eq
    obtain rfl := Except.ok.inj made
    exact makeNodes_new eq

/-- One terminal without children. -/
def lone : Network where
  nodes := [{
    name := "olt"
    device := ⟨.terminal (.new ⟨"olt", 50060⟩ .empty 4), none, none, none⟩ }]

theorem lone_new : lone.New := by
  intro n member
  obtain rfl := List.mem_singleton.mp member
  exact ⟨⟨rfl, rfl, rfl⟩, rfl⟩

end Network
end OpticalAccess
