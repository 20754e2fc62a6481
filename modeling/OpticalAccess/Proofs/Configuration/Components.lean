import OpticalAccess.Proofs.Configuration.Keys
import OpticalAccess.Proofs.Json5.Rewriting

/-!
# Components of a configuration

The slots of every record of a configuration keep out of each other's way. So a document in which
one component is written anew is read as the same configuration, but for that component.
-/

namespace OpticalAccess

open Json5 (Key Node Slot)

/-! ### The slots of a configuration -/

section Slots
variable {name name' : String} {required required' : Bool} {get : σ → Option α}
  {set : σ → α → σ} {read : Node → Except Fault α} {get' : σ → Option β} {set' : σ → β → σ}
  {read' : Node → Except Fault β}

theorem slot_steady (fills : ∀ d a, (get (set d a)).isSome = true)
    (again : ∀ d a b, set (set d a) b = set d b) :
    Slot.Steady (slot name required get set read) where
  fills {d e m} taken := by
    obtain ⟨a, -, rfl⟩ := slot_fill_iff.mp taken
    exact fills d a
  again {d e m} taken n := by
    obtain ⟨a, -, rfl⟩ := slot_fill_iff.mp taken
    cases value : read n <;> simp [slot, value, Except.map, again]
  anywhere {d e m} taken d' := by
    obtain ⟨a, value, -⟩ := slot_fill_iff.mp taken
    exact ⟨set d' a, slot_fill_iff.mpr ⟨a, value, rfl⟩⟩

theorem slot_apart (keeps : ∀ d a, get' (set d a) = get' d)
    (swap : ∀ d a b, set' (set d a) b = set (set' d b) a) :
    Slot.Apart (slot name required get set read) (slot name' required' get' set' read') where
  keeps {d e m} taken := by
    obtain ⟨a, -, rfl⟩ := slot_fill_iff.mp taken
    exact congrArg Option.isSome (keeps d a)
  swap {d e f m n} taken taken' := by
    obtain ⟨a, value, rfl⟩ := slot_fill_iff.mp taken
    obtain ⟨b, value', rfl⟩ := slot_fill_iff.mp taken'
    exact ⟨set' d b, slot_fill_iff.mpr ⟨b, value', rfl⟩,
      slot_fill_iff.mpr ⟨a, value, (swap d a b).symm⟩⟩

end Slots

theorem DeviceConfig.slots_lawful : Slot.Lawful slots where
  distinct := by decide
  steady := by
    simp only [slots, List.forall_mem_cons]
    refine ⟨?_, ?_, ?_, ?_, fun _ none => by cases none⟩ <;>
      exact slot_steady (fun _ _ => rfl) fun _ _ _ => rfl
  apart := by
    simp only [slots, List.mem_cons, List.not_mem_nil, or_false]
    rintro a (rfl | rfl | rfl | rfl) b (rfl | rfl | rfl | rfl) names <;>
      first
      | exact absurd rfl names
      | exact slot_apart (fun _ _ => rfl) fun _ _ _ => rfl

theorem Child.slots_lawful : Slot.Lawful slots where
  distinct := by decide
  steady := by
    simp only [slots, List.forall_mem_cons]
    refine ⟨?_, ?_, ?_, fun _ none => by cases none⟩ <;>
      exact slot_steady (fun _ _ => rfl) fun _ _ _ => rfl
  apart := by
    simp only [slots, List.mem_cons, List.not_mem_nil, or_false]
    rintro a (rfl | rfl | rfl) b (rfl | rfl | rfl) names <;>
      first
      | exact absurd rfl names
      | exact slot_apart (fun _ _ => rfl) fun _ _ _ => rfl

theorem RouterConfig.slots_lawful : Slot.Lawful slots where
  distinct := by decide
  steady := by
    simp only [slots, List.forall_mem_cons]
    refine ⟨?_, ?_, ?_, ?_, fun _ none => by cases none⟩ <;>
      exact slot_steady (fun _ _ => rfl) fun _ _ _ => rfl
  apart := by
    simp only [slots, List.mem_cons, List.not_mem_nil, or_false]
    rintro a (rfl | rfl | rfl | rfl) b (rfl | rfl | rfl | rfl) names <;>
      first
      | exact absurd rfl names
      | exact slot_apart (fun _ _ => rfl) fun _ _ _ => rfl

theorem Config.slots_lawful (place : Position) : Slot.Lawful (slots place) where
  distinct := slots_distinct place
  steady := by
    simp only [slots, List.forall_mem_cons]
    refine ⟨?_, ?_, ?_, ?_, ?_, ?_, fun _ none => by cases none⟩ <;>
      exact slot_steady (fun _ _ => rfl) fun _ _ _ => rfl
  apart := by
    simp only [slots, List.mem_cons, List.not_mem_nil, or_false]
    rintro a (rfl | rfl | rfl | rfl | rfl | rfl) b (rfl | rfl | rfl | rfl | rfl | rfl) names <;>
      first
      | exact absurd rfl names
      | exact slot_apart (fun _ _ => rfl) fun _ _ _ => rfl

/-! ### Records -/

/--
Where one component of a record is written anew, the record becomes what `put` makes of it with what
is read there; and there is nothing else for which it would be refused.
-/
def Rewrites (name : String) (index : Nat) (read : Node → Except Fault α) (put : β → α → β)
    (whole : Node → Except Fault β) : Prop :=
  ∀ ⦃m m' n n' b⦄, Json5.Exchanged name index m m' n n' → whole n = .ok b →
    ∀ b', whole n' = .ok b' ↔ ∃ a, read m' = .ok a ∧ b' = put b a

/-- What is read of a component is what the record has of it. -/
theorem Rewrites.component {name : String} {index : Nat} {read : Node → Except Fault α}
    {put : β → α → β} {whole : Node → Except Fault β}
    (rewrites : Rewrites name index read put whole) (get : β → α)
    (get_put : ∀ b a, get (put b a) = a) {m m' n n' : Node} {b : β}
    (exchanged : Json5.Exchanged name index m m' n n') (done : whole n = .ok b) :
    read m = .ok (get b) := by
  obtain ⟨a, value, same⟩ := (rewrites exchanged.here done b).mp done
  rw [same, get_put, value]

/-- A component of a component is written anew. -/
theorem Rewrites.within {name name' : String} {index index' : Nat} {read : Node → Except Fault α}
    {put : β → α → β} {part : Node → Except Fault β} {put' : γ → β → γ}
    {whole : Node → Except Fault γ} (outer : Rewrites name' index' part put' whole)
    (inner : Rewrites name index read put part) (get : γ → β)
    (get_put : ∀ c b, get (put' c b) = b) {m m' p p' n n' : Node} {c : γ}
    (exchanged : Json5.Exchanged name index m m' p p')
    (exchanged' : Json5.Exchanged name' index' p p' n n') (done : whole n = .ok c) (c' : γ) :
    whole n' = .ok c' ↔ ∃ a, read m' = .ok a ∧ c' = put' c (put (get c) a) := by
  have part_read := outer.component get get_put exchanged' done
  rw [outer exchanged' done c']
  simp only [inner exchanged part_read]
  constructor
  · rintro ⟨b, ⟨a, value, rfl⟩, rfl⟩
    exact ⟨a, value, rfl⟩
  · rintro ⟨a, value, rfl⟩
    exact ⟨_, ⟨a, value, rfl⟩, rfl⟩

theorem rewrites_record {record name : String} {slots : List (Slot σ)} {blank : σ} {build : σ → β}
    {put : β → α → β} {index : Nat} {required : Bool} {get : σ → Option α} {set : σ → α → σ}
    {read : Node → Except Fault α} (lawful : Slot.Lawful slots)
    (here : slots[index]? = some (slot name required get set read))
    (built : ∀ d a, build (set d a) = put (build d) a) :
    Rewrites name index read put fun n => (Slot.read record slots blank n).map build := by
  intro m m' n n' b exchanged done b'
  obtain ⟨draft, filled, rfl⟩ := map_eq_ok_iff.mp done
  have anew (last : σ) : Slot.read record slots blank n' = .ok last ↔
      (slot name required get set read).fill draft m' = .ok last :=
    Slot.read_rewritten_iff lawful here exchanged filled
  simp only [map_eq_ok_iff, anew, slot_fill_iff]
  constructor
  · rintro ⟨last, ⟨a, value, rfl⟩, rfl⟩
    exact ⟨a, value, built draft a⟩
  · rintro ⟨a, value, rfl⟩
    exact ⟨set draft a, ⟨a, value, rfl⟩, built draft a⟩

theorem DeviceConfig.rewrites_port :
    Rewrites "port" 3 portOf (fun d port => { d with location.port := port }) ofNode :=
  rewrites_record slots_lawful rfl fun _ _ => rfl

theorem Child.rewrites_uniPort :
    Rewrites "uni_port" 0 uniPortOf (fun c uniPort => { c with uniPort }) ofNode :=
  rewrites_record slots_lawful rfl fun _ _ => rfl

theorem Child.rewrites_port :
    Rewrites "port" 2 portOf (fun c port => { c with location.port := port }) ofNode :=
  rewrites_record slots_lawful rfl fun _ _ => rfl

namespace RouterConfig

theorem rewrites_statsFanoutConcurrency :
    Rewrites "stats_fanout_concurrency" 0 sizeOf64
      (fun r statsFanoutConcurrency => { r with statsFanoutConcurrency }) ofNode :=
  rewrites_record slots_lawful rfl fun _ _ => rfl

theorem rewrites_relayBuffer :
    Rewrites "relay_buffer" 1 sizeOf64 (fun r relayBuffer => { r with relayBuffer }) ofNode :=
  rewrites_record slots_lawful rfl fun _ _ => rfl

theorem rewrites_connectTimeoutMs :
    Rewrites "connect_timeout_ms" 2 sizeOf64
      (fun r connectTimeoutMs => { r with connectTimeoutMs }) ofNode :=
  rewrites_record slots_lawful rfl fun _ _ => rfl

theorem rewrites_callTimeoutMs :
    Rewrites "call_timeout_ms" 3 sizeOf64
      (fun r callTimeoutMs => { r with callTimeoutMs }) ofNode :=
  rewrites_record slots_lawful rfl fun _ _ => rfl

end RouterConfig

namespace Config

theorem rewrites_component {name : String} {put : Config → α → Config} {index : Nat}
    {required : Bool} {get : Draft → Option α} {set : Draft → α → Draft}
    {read : Node → Except Fault α}
    (here : ∀ place, (slots place)[index]? = some (slot name required get set read))
    (built : ∀ d a, Draft.config (set d a) = put d.config a) :
    Rewrites name index read put ofNode := by
  intro m m' n n' c exchanged done c'
  have place : n'.place = n.place := by cases exchanged <;> rfl
  rw [ofNode, place]
  exact rewrites_record (slots_lawful n.place) (here n.place) built exchanged done c'

theorem rewrites_device :
    Rewrites "device" 0 DeviceConfig.ofNode (fun c device => { c with device }) ofNode :=
  rewrites_component (fun _ => rfl) fun _ _ => rfl

theorem rewrites_children :
    Rewrites "children" 1 childrenOf (fun c children => { c with children }) ofNode :=
  rewrites_component (fun _ => rfl) fun _ _ => rfl

theorem rewrites_router :
    Rewrites "router" 4 RouterConfig.ofNode (fun c router => { c with router }) ofNode :=
  rewrites_component (fun _ => rfl) fun _ _ => rfl

theorem rewrites_outgoingQueueSize :
    Rewrites "outgoing_queue_size" 5 sizeOf64
      (fun c outgoingQueueSize => { c with outgoingQueueSize }) ofNode :=
  rewrites_component (fun _ => rfl) fun _ _ => rfl

/-! ### Children -/

theorem mapM_eq_ok_iff {f : α → Except ε β} {before after : List α} {a : α} {l : List β} :
    (before ++ a :: after).mapM f = .ok l ↔
      ∃ xs b ys, before.mapM f = .ok xs ∧ f a = .ok b ∧ after.mapM f = .ok ys ∧
        l = xs ++ b :: ys := by
  simp only [List.mapM_append, List.mapM_cons]
  cases before.mapM f <;> cases f a <;> cases after.mapM f <;>
    simp [bind, Except.bind, pure, Except.pure, eq_comm]

theorem length_of_mapM {f : α → Except ε β} {as : List α} {bs : List β}
    (done : as.mapM f = .ok bs) : bs.length = as.length := by
  induction as generalizing bs with
  | nil =>
    obtain rfl := Except.ok.inj done
    rfl
  | cons a as ih =>
    have done : ([] ++ a :: as).mapM f = .ok bs := done
    obtain ⟨xs, b, ys, first, -, rest, rfl⟩ := mapM_eq_ok_iff.mp done
    obtain rfl := Except.ok.inj first
    simp [ih rest]

theorem modify_append (xs ys : List α) (a : α) (f : α → α) :
    (xs ++ a :: ys).modify xs.length f = xs ++ f a :: ys :=
  List.modifyTailIdx_add (List.modifyHead f) 0 xs (a :: ys)

/-- A component of one child is written anew. -/
theorem child_rewritten {name : String} {index : Nat} {read : Node → Except Fault α}
    {put : Child → α → Child} (rewrites : Rewrites name index read put Child.ofNode)
    {m m' p p' n n' : Node} (exchanged : Json5.Exchanged name index m m' p p') {site : Json5.Site}
    {before after : List Node}
    (at_children : Json5.Exchanged "children" 1 (.array site (before ++ p :: after))
      (.array site (before ++ p' :: after)) n n') {c : Config} (done : ofNode n = .ok c) :
    before.length < c.children.length ∧
      ∀ c', ofNode n' = .ok c' ↔ ∃ a, read m' = .ok a ∧
        c' = { c with children := c.children.modify before.length (put · a) } := by
  have items : ∀ l, childrenOf (.array site l) = l.mapM Child.ofNode := fun _ => rfl
  have children := rewrites_children.component Config.children (fun _ _ => rfl) at_children done
  rw [items] at children
  obtain ⟨xs, child, ys, first, here, rest, split⟩ := mapM_eq_ok_iff.mp children
  have length := length_of_mapM first
  constructor
  · rw [split, List.length_append, List.length_cons]
    omega
  · intro c'
    rw [rewrites_children at_children done c']
    simp only [items, mapM_eq_ok_iff, first, rest, rewrites exchanged here, split, ← length,
      modify_append, Except.ok.injEq]
    constructor
    · rintro ⟨_, ⟨_, _, _, rfl, ⟨a, value, rfl⟩, rfl, rfl⟩, rfl⟩
      exact ⟨a, value, rfl⟩
    · rintro ⟨a, value, rfl⟩
      exact ⟨_, ⟨_, _, _, rfl, ⟨a, value, rfl⟩, rfl, rfl⟩, rfl⟩

end Config
end OpticalAccess
