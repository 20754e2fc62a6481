import Mathlib.Data.Set.Card
import OpticalAccess.Proofs.Children.Requests

/-!
# Registries and their histories

What a registry holds is settled by the requests that were made so far, in their order: the first
request for a port is granted, later ones are refused, and so is every request for the uplink. If a
list of children is provisioned as a whole, nothing of it may be refused; then its order is of no
importance.
-/

namespace OpticalAccess.Registry

/-! ### Answers -/

def answer (r : Registry) (child : Child) : Except Error Unit := (r.provision child).map fun _ => ()

/-- The answers to requests that are made one after the other. -/
def answers (r : Registry) : List Child → List (Except Error Unit)
  | [] => []
  | child :: rest => r.answer child :: answers (r.request child) rest

theorem answer_eq (r : Registry) (child : Child) :
    r.answer child =
      if child.uniPort = uplinkPort then .error .uplinkPort
      else if (r.find? child.uniPort).isSome then .error (.duplicatePort child.uniPort)
      else .ok () := by
  have provisioned := r.provision_provisioned child
  unfold answer
  generalize r.provision child = outcome at provisioned
  cases provisioned with
  | uplink same =>
    rw [if_pos same]
    rfl
  | taken apart member =>
    obtain ⟨earlier, listed, same⟩ := List.mem_map.mp member
    obtain ⟨location, found⟩ := find?_of_mem listed
    have full : (r.find? child.uniPort).isSome = true := by rw [← same, found, Option.isSome_some]
    rw [if_neg apart, if_pos full]
    rfl
  | added apart free next grown =>
    rw [if_neg apart, find?_eq_none_iff.mpr free]
    rfl

theorem request_refused {r : Registry} {child : Child} {error : Error}
    (refused : r.answer child = .error error) : r.request child = r := by
  unfold answer at refused
  unfold request
  cases outcome : r.provision child with
  | ok next => simp [outcome, Except.map] at refused
  | error error => rfl

theorem size_request (r : Registry) (child : Child) :
    (r.request child).size = r.size + if (r.answer child).isOk then 1 else 0 := by
  have provisioned := r.provision_provisioned child
  unfold request answer
  generalize r.provision child = outcome at provisioned
  cases provisioned with
  | uplink | taken => rfl
  | added apart free next grown => simp [size, grown, Except.map, Except.isOk, Except.toBool]

theorem size_requests (r : Registry) (requests : List Child) :
    (requests.foldl request r).size = r.size + (r.answers requests).countP Except.isOk := by
  induction requests generalizing r with
  | nil => rfl
  | cons child rest ih =>
    rw [List.foldl_cons, ih, size_request, answers, List.countP_cons]
    omega

/-! ### Ports -/

section Ports
variable (r : Registry)

theorem mem_ports {port : Int32} : port ∈ r.ports ↔ (r.find? port).isSome = true := by
  rw [Option.isSome_iff_ne_none, ne_eq, find?_eq_none_iff, not_not]

theorem count_ports (port : Int32) :
    r.ports.count port = if (r.find? port).isSome then 1 else 0 := by
  have distinct : r.ports.Nodup := r.nodup
  by_cases listed : port ∈ r.ports
  · rw [List.count_eq_one_of_mem distinct listed, if_pos (r.mem_ports.mp listed)]
  · rw [List.count_eq_zero_of_not_mem listed, if_neg (mt r.mem_ports.mpr listed)]

theorem size_eq_ncard : r.size = {port | (r.find? port).isSome = true}.ncard := by
  have distinct : r.ports.Nodup := r.nodup
  have keys : {port | (r.find? port).isSome = true} = (r.ports.toFinset : Set Int32) := by
    ext port
    simp [← mem_ports]
  rw [keys, Set.ncard_coe_finset, List.toFinset_card_of_nodup distinct, ports, List.length_map]
  rfl

end Ports

/-- What a registry is after some requests, and what it makes of the next one. -/
structure Settled (requests : List Child) (r : Registry) : Prop where
  uplink : r.find? uplinkPort = none
  /-- The ports that have a child are listed once each, and no others are. -/
  listed : ∀ port, r.ports.count port = if (r.find? port).isSome then 1 else 0
  size_ports : r.size = {port | (r.find? port).isSome = true}.ncard
  size_granted : r.size = (empty.answers requests).countP Except.isOk
  empty_iff : r.isEmpty = true ↔ ∀ answer ∈ empty.answers requests, answer.isOk = false
  /-- The first request for a port settles what is behind it. -/
  first : ∀ port, r.find? port = granted requests port
  next : ∀ child, r.answer child =
    if child.uniPort = uplinkPort then .error .uplinkPort
    else if (r.find? child.uniPort).isSome then .error (.duplicatePort child.uniPort)
    else .ok ()
  refused : ∀ child error, r.answer child = .error error →
    ∀ port, (r.request child).find? port = r.find? port

theorem requested_settled (requests : List Child) : Settled requests (requested requests) := by
  have grown : (requested requests).size = (empty.answers requests).countP Except.isOk :=
    (size_requests empty requests).trans (Nat.zero_add _)
  refine ⟨?_, count_ports _, size_eq_ncard _, grown, ?_, find?_requested requests, answer_eq _, ?_⟩
  · exact find?_eq_none_iff.mpr (requested requests).uplink_free
  · rw [isEmpty, List.isEmpty_iff_length_eq_zero, ← size, grown, List.countP_eq_zero]
    simp only [Bool.not_eq_true]
  · intro child error refused port
    rw [request_refused refused]

/-! ### Lists of children -/

/-- Nothing in a list of children is refused: no port is the uplink, and no two are the same. -/
structure Fitting (children : List Child) : Prop where
  apart : ∀ child ∈ children, child.uniPort ≠ uplinkPort
  distinct : (children.map Child.uniPort).Nodup

theorem Fitting.perm {children others : List Child} (fitting : Fitting children)
    (perm : others.Perm children) : Fitting others where
  apart child member := fitting.apart child (perm.mem_iff.mp member)
  distinct := (perm.map _).nodup_iff.mpr fitting.distinct

/-- The rule for a child that comes behind others. -/
def ruling (before : List Child) (child : Child) : Except Error Unit :=
  if child.uniPort = uplinkPort then .error .uplinkPort
  else if child.uniPort ∈ before.map Child.uniPort then .error (.duplicatePort child.uniPort)
  else .ok ()

theorem ofChildren_eq_ok_iff {children : List Child} :
    (∃ r, ofChildren children = .ok r) ↔ Fitting children := by
  have agreed := Config.checkChildren_agreed children
  generalize Config.checkChildren [] children = verdict at agreed
  generalize ofChildren children = outcome at agreed
  cases agreed with
  | accepted r same =>
    refine iff_of_true ⟨r, rfl⟩ ⟨fun child member uplink => r.uplink_free ?_, same ▸ r.nodup⟩
    exact uplink ▸ same ▸ List.mem_map_of_mem member
  | refused before after child split reason error refused =>
    refine iff_of_false nofun fun ⟨apart, distinct⟩ => ?_
    subst split
    cases refused with
    | uplink same => exact apart child (by simp) same
    | taken _ member =>
      rw [List.map_append, List.map_cons, List.nodup_append] at distinct
      exact distinct.2.2 _ member _ List.mem_cons_self rfl

theorem answer_ruling {r : Registry} {before : List Child} (same : r.children = before)
    (child : Child) : r.answer child = ruling before child := by
  have listed : (r.find? child.uniPort).isSome = true ↔ child.uniPort ∈ before.map Child.uniPort :=
    same ▸ r.mem_ports.symm
  simp only [answer_eq, ruling, listed]

theorem ofChildren_append {before after : List Child} {child : Child} {error : Error}
    (fitting : Fitting before) (refused : ruling before child = .error error) :
    ofChildren (before ++ child :: after) = .error error := by
  obtain ⟨r, taken⟩ := ofChildren_eq_ok_iff.mpr fitting
  rw [← answer_ruling (ofChildren_children taken), answer] at refused
  -- The registry comes to the child with all those before it, and stops there.
  have stops : r.provision child = .error error := by
    cases outcome : r.provision child with
    | ok next => simp [outcome, Except.map] at refused
    | error other => simpa [outcome, Except.map] using refused
  unfold ofChildren at taken ⊢
  rw [List.foldlM_append, taken]
  simp [List.foldlM_cons, stops, bind, Except.bind]

theorem ofChildren_eq_error_iff {children : List Child} {error : Error} :
    ofChildren children = .error error ↔
      ∃ before child after, children = before ++ child :: after ∧ Fitting before ∧
        ruling before child = .error error := by
  constructor
  · intro failed
    have agreed := Config.checkChildren_agreed children
    rw [failed] at agreed
    generalize Config.checkChildren [] children = verdict at agreed
    cases agreed with
    | refused before after child split reason _ refused distinct free =>
      have apart : ∀ child ∈ before, child.uniPort ≠ uplinkPort := fun child member uplink =>
        free (uplink ▸ List.mem_map_of_mem member)
      refine ⟨before, child, after, split, ⟨apart, distinct⟩, ?_⟩
      cases refused with
      | uplink same => exact if_pos same
      | taken apart member => rw [ruling, if_neg apart, if_pos member]
  · rintro ⟨before, child, after, rfl, fitting, refused⟩
    exact ofChildren_append fitting refused

theorem find?_ofChildren {r : Registry} {children : List Child}
    (provisioned : ofChildren children = .ok r) {port : Int32} {location : Location} :
    r.find? port = some location ↔ ⟨port, location⟩ ∈ children := by
  rw [← ofChildren_children provisioned]
  constructor
  · intro found
    obtain ⟨child, first, rfl⟩ := Option.map_eq_some_iff.mp found
    obtain rfl : child.uniPort = port := by simpa using List.find?_some first
    exact List.mem_of_find?_eq_some first
  · intro member
    exact find?_declared member

/-- What becomes of a list of children that is provisioned as a whole. -/
structure Batched (children : List Child) : Prop where
  granted_iff : (∃ r, ofChildren children = .ok r) ↔ Fitting children
  found : ∀ r, ofChildren children = .ok r →
    ∀ port location, r.find? port = some location ↔ ⟨port, location⟩ ∈ children
  any_order : ∀ r others, ofChildren children = .ok r → others.Perm children →
    ∃ r', ofChildren others = .ok r' ∧ ∀ port, r'.find? port = r.find? port
  /-- The first child that breaks the rule behind its predecessors is the one that is reported. -/
  refused_iff : ∀ error, ofChildren children = .error error ↔
    ∃ before child after, children = before ++ child :: after ∧ Fitting before ∧
      ruling before child = .error error

theorem ofChildren_batched (children : List Child) : Batched children where
  granted_iff := ofChildren_eq_ok_iff
  found _ provisioned _ _ := find?_ofChildren provisioned
  any_order r others provisioned perm := by
    have fitting := ofChildren_eq_ok_iff.mp ⟨r, provisioned⟩
    obtain ⟨r', reordered⟩ := ofChildren_eq_ok_iff.mpr (fitting.perm perm)
    refine ⟨r', reordered, fun port => Option.ext fun location => ?_⟩
    rw [find?_ofChildren reordered, find?_ofChildren provisioned, perm.mem_iff]
  refused_iff _ := ofChildren_eq_error_iff

/--
Whatever requests are made to a registry that was empty, it holds the first child for each port and
none for the uplink, and it refuses exactly the requests for the uplink and for ports that have a
child, which change nothing. A list of children is provisioned as a whole if all of it fits, in any
order.
-/
theorem first_request_settles :
    (∀ requests, Settled requests (requested requests)) ∧ ∀ children, Batched children :=
  ⟨requested_settled, ofChildren_batched⟩

/-- The second request for a port is refused, and so is the one for the uplink. -/
example :
    empty.answers [⟨5, ⟨"onu-1", 1⟩⟩, ⟨0, ⟨"olt", 2⟩⟩, ⟨5, ⟨"onu-2", 3⟩⟩] =
      [.ok (), .error .uplinkPort, .error (.duplicatePort 5)] := by decide

end OpticalAccess.Registry
