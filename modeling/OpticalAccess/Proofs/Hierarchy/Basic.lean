import Mathlib.Data.Finset.Card
import Mathlib.Logic.Relation
import OpticalAccess.Network.Basic
import OpticalAccess.Proofs.Lookup

/-!
# The hierarchy of a network

A router reaches the routers at the locations of its children. Requests change flow tables and the
record of calls, and neither of them says who is whose child: so the hierarchy stays what it was.
-/

namespace OpticalAccess

/-! ### Flow rules of a device -/

namespace Device

/-- The device with other flow rules. -/
def setFlows (d : Device) (flows : List FlowRule) : Device :=
  { d with
    machine := match d.machine with
      | .terminal t => .terminal { t with flows }
      | .subscriber s => .subscriber { s with flows } }

section SetFlows
variable (d : Device) (flows : List FlowRule)

@[simp] theorem setFlows_location : (d.setFlows flows).location = d.location := by
  unfold setFlows location
  cases d.machine <;> rfl

@[simp] theorem setFlows_view : (d.setFlows flows).view = d.view := by
  unfold setFlows view
  cases d.machine <;> rfl

@[simp] theorem setFlows_childLocation? (port : Int32) :
    (d.setFlows flows).childLocation? port = d.childLocation? port := by
  simp only [childLocation?, setFlows_view]

theorem install_value (v : Verbosity) :
    (d.install flows).value v =
      match d.installFault with
      | some fault => (.error fault, d)
      | none => (.ok (), d.setFlows flows) := by
  unfold install setFlows
  cases d.installFault with
  | some fault => rfl
  | none => cases d.machine <;> rfl

end SetFlows
end Device

namespace Node

def setFlows (n : Node) (flows : List FlowRule) : Node := { n with device := n.device.setFlows flows }

@[simp] theorem setFlows_name (n : Node) (flows : List FlowRule) : (n.setFlows flows).name = n.name :=
  rfl

end Node

namespace Network

/-! ### What requests leave alone -/

/-- A network without the flow rules of its devices and without the record of its calls. -/
def bare (w : Network) : Network := { w with nodes := w.nodes.map (·.setFlows []), calls := [] }

def names (w : Network) : List String := w.nodes.map Node.name

/-- The network after more calls. -/
def extend (w : Network) (calls : List Nested) : Network := { w with calls := w.calls ++ calls }

@[simp] theorem extend_nil (w : Network) : w.extend [] = w := by
  unfold extend
  rw [List.append_nil]

@[simp] theorem extend_extend (w : Network) (calls later : List Nested) :
    (w.extend calls).extend later = w.extend (calls ++ later) := by
  unfold extend
  rw [List.append_assoc]

theorem record_eq (w : Network) (caller : String) (location : Location) (table : Option FlowTable) :
    w.record caller location table = w.extend [⟨caller, location.host, table⟩] := rfl

theorem names_bare (w : Network) : w.bare.names = w.names := by
  simp [names, bare, Function.comp_def]

theorem names_eq {w w' : Network} (same : w'.bare = w.bare) : w'.names = w.names := by
  rw [← names_bare, same, names_bare]

theorem links_eq {w w' : Network} (same : w'.bare = w.bare) : w'.links = w.links :=
  show w'.bare.links = w.bare.links by rw [same]

theorem at?_bare (w : Network) (location : Location) :
    w.bare.at? location = (w.at? location).map (·.setFlows []) := by
  simp only [at?, bare, ← List.map_reverse, List.find?_map, Function.comp_def, Node.setFlows,
    Device.setFlows_location]

theorem at?_mem {w : Network} {location : Location} {n : Node} (there : w.at? location = some n) :
    n ∈ w.nodes :=
  List.mem_reverse.mp (List.mem_of_find?_eq_some there)

theorem meet_ok {w : Network} {location : Location} {n : Node} (met : w.meet location = .ok n) :
    w.at? location = some n := by
  cases reach : w.reach location.host with
  | down | silent | failing => simp [meet, reach] at met
  | up =>
    cases there : w.at? location with
    | none => simp [meet, reach, there] at met
    | some m => simpa [meet, reach, there] using met

theorem mem_names {w : Network} {n : Node} (member : n ∈ w.nodes) : n.name ∈ w.names :=
  List.mem_map_of_mem member

theorem node_unique {w : Network} (distinct : w.names.Nodup) {n m : Node} (first : n ∈ w.nodes)
    (second : m ∈ w.nodes) (same : n.name = m.name) : n = m :=
  List.inj_on_of_nodup_map distinct first second same

theorem node?_of_mem {w : Network} (distinct : w.names.Nodup) {n : Node} (member : n ∈ w.nodes) :
    w.node? n.name = some n :=
  find?_of_nodup_map distinct member

theorem setDevice_self {w : Network} (distinct : w.names.Nodup) {n : Node} (member : n ∈ w.nodes) :
    w.setDevice n.name n.device = w := by
  have kept : ∀ m ∈ w.nodes, (if m.name = n.name then { m with device := n.device } else m) = m := by
    intro m other
    split
    · rename_i same
      rw [node_unique distinct other member same]
    · rfl
  unfold setDevice modify
  rw [List.map_congr_left kept, List.map_id']

/-! ### Parents and children -/

/-- The router named `a` has the router named `b` behind one of its ports. -/
def Parent (w : Network) (a b : String) : Prop :=
  ∃ n m port location, n ∈ w.nodes ∧ n.name = a ∧ n.device.childLocation? port = some location ∧
    w.at? location = some m ∧ m.name = b

/-- No router is below itself. -/
def Acyclic (w : Network) : Prop := ∀ a, ¬ Relation.TransGen w.Parent a a

theorem parent_bare {w : Network} {a b : String} : w.bare.Parent a b ↔ w.Parent a b := by
  constructor
  · rintro ⟨n, m, port, location, member, rfl, behind, there, rfl⟩
    obtain ⟨full, present, rfl⟩ := List.mem_map.mp member
    rw [at?_bare] at there
    obtain ⟨child, found, rfl⟩ := Option.map_eq_some_iff.mp there
    have same : full.device.childLocation? port = some location := by
      simpa [Node.setFlows] using behind
    exact ⟨full, child, port, location, present, rfl, same, found, rfl⟩
  · rintro ⟨n, m, port, location, member, rfl, behind, there, rfl⟩
    refine ⟨n.setFlows [], m.setFlows [], port, location, List.mem_map_of_mem member, rfl, ?_, ?_,
      rfl⟩
    · simpa [Node.setFlows] using behind
    · rw [at?_bare, there]
      rfl

theorem parent_eq {w w' : Network} (same : w'.bare = w.bare) : w'.Parent = w.Parent := by
  funext a b
  rw [← propext parent_bare, same, propext parent_bare]

theorem Acyclic.of_bare {w w' : Network} (acyclic : w.Acyclic) (same : w'.bare = w.bare) :
    w'.Acyclic := by
  intro a
  rw [parent_eq same]
  exact acyclic a

open scoped Classical in
/-- How many routers are below a router. -/
noncomputable def below (w : Network) (a : String) : Nat :=
  (w.names.toFinset.filter fun b => Relation.TransGen w.Parent a b).card

/-- There are fewer routers below a child than below its parent. -/
theorem Acyclic.below_lt {w : Network} (acyclic : w.Acyclic) {a b : String} (parent : w.Parent a b) :
    w.below b < w.below a := by
  classical
  apply Finset.card_lt_card
  refine ⟨fun c member => ?_, fun covers => ?_⟩
  · obtain ⟨named, deeper⟩ := Finset.mem_filter.mp member
    exact Finset.mem_filter.mpr ⟨named, .head parent deeper⟩
  · obtain ⟨n, m, port, location, member, rfl, behind, there, rfl⟩ := parent
    have named : m.name ∈ w.names.toFinset := List.mem_toFinset.mpr (mem_names (at?_mem there))
    have child : Relation.TransGen w.Parent n.name m.name :=
      .single ⟨n, m, port, location, member, rfl, behind, there, rfl⟩
    exact acyclic _ (Finset.mem_filter.mp (covers (Finset.mem_filter.mpr ⟨named, child⟩))).2

theorem Acyclic.below_lt_length {w : Network} (acyclic : w.Acyclic) {n : Node}
    (member : n ∈ w.nodes) : w.below n.name < w.nodes.length := by
  classical
  have named : n.name ∈ w.names.toFinset := List.mem_toFinset.mpr (mem_names member)
  have others : w.below n.name < w.names.toFinset.card := by
    apply Finset.card_lt_card
    refine ⟨Finset.filter_subset _ _, fun covers => ?_⟩
    exact acyclic _ (Finset.mem_filter.mp (covers named)).2
  have few := w.names.toFinset_card_le
  simp only [names, List.length_map] at few
  exact Nat.lt_of_lt_of_le others few

theorem below_eq {w w' : Network} (same : w'.bare = w.bare) (a : String) :
    w'.below a = w.below a := by
  unfold below
  rw [parent_eq same, names_eq same]

theorem Acyclic.child_below {w₀ w : Network} (acyclic : w₀.Acyclic) (same : w.bare = w₀.bare)
    {n m : Node} (member : n ∈ w.nodes) {port : Int32} {location : Location}
    (behind : n.device.childLocation? port = some location) (there : w.at? location = some m) :
    w₀.below m.name < w₀.below n.name := by
  apply acyclic.below_lt
  rw [← parent_eq same]
  exact ⟨n, m, port, location, member, rfl, behind, there, rfl⟩

theorem acyclic_of_lt {w : Network} (rank : String → Nat)
    (lower : ∀ a b, w.Parent a b → rank b < rank a) : w.Acyclic := by
  have deeper : ∀ a b, Relation.TransGen w.Parent a b → rank b < rank a := by
    intro a b path
    induction path with
    | single parent => exact lower _ _ parent
    | tail _ parent ih => exact (lower _ _ parent).trans ih
  intro a loop
  exact Nat.lt_irrefl _ (deeper a a loop)

/-! ### A terminal with one subscriber -/

/-- A terminal that has one subscriber, behind port 128. -/
def pair : Network where
  nodes :=
    [{ name := "olt"
       device.machine := .terminal
        (.new ⟨"olt", 1⟩ ⟨[⟨128, ⟨"onu", 1⟩⟩], by decide, by decide⟩ 16) },
      { name := "onu", device.machine := .subscriber { location := ⟨"onu", 1⟩ } }]

theorem pair_acyclic : pair.Acyclic := by
  apply acyclic_of_lt fun name => if name = "olt" then 1 else 0
  rintro _ _ ⟨n, m, port, location, member, rfl, behind, there, rfl⟩
  have child : location = ⟨"onu", 1⟩ ∧ n.name = "olt" := by
    rcases List.mem_pair.mp member with rfl | rfl
    · obtain ⟨c, found, rfl⟩ := Option.map_eq_some_iff.mp behind
      obtain rfl := List.mem_singleton.mp (List.mem_of_find?_eq_some found)
      exact ⟨rfl, rfl⟩
    · cases behind
  obtain ⟨rfl, parent⟩ := child
  obtain rfl := Option.some.inj there
  simp [parent]

end Network
end OpticalAccess
