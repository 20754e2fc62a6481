import OpticalAccess.Proofs.Diagnostics
import OpticalAccess.Proofs.Logging.Basic
import OpticalAccess.Proofs.Plant.Steps
import Mathlib.Data.List.Forall2

/-!
# Contents replaced by others

What a frame says and what a flow rule asks for is of no concern to a network. To say so, two runs
are compared: in the second one, frames and tables stand in the places of others that are as long.
A log may show the start of a frame and the identifiers of rules, and nothing else of either.
-/

namespace OpticalAccess

/-! ### What is shown of contents -/

namespace Frame

/-- The bytes in which the stations, the ethertype and all VLAN tags are. -/
def headerSize : Nat := 22

theorem readTags_take (left offset : Nat) (type : UInt16) (rest : Bytes) :
    readTags left offset type (rest.take (4 * left)) = readTags left offset type rest := by
  induction left generalizing offset type rest with
  | zero => rfl
  | succ left ih =>
    by_cases tag : type ∈ tagTypes
    · match rest with
      | c0 :: c1 :: hi :: lo :: rest => simp [readTags, Nat.mul_succ, tag, ih]
      | [] | [_] | [_, _] | [_, _, _] => simp [readTags, Nat.mul_succ, tag]
    · unfold readTags
      simp [tag]

/-- A summary looks at the header only, and otherwise at the length. -/
theorem summary_congr {a b : Bytes} (same : b.length = a.length)
    (header : b.take headerSize = a.take headerSize) : summary ⟨b⟩ = summary ⟨a⟩ := by
  by_cases long : 14 ≤ a.length
  · obtain ⟨d0, d1, d2, d3, d4, d5, s0, s1, s2, s3, s4, s5, hi, lo, rest, rfl⟩ :=
      exists_of_length long
    obtain ⟨e0, e1, e2, e3, e4, e5, t0, t1, t2, t3, t4, t5, hi', lo', rest', rfl⟩ :=
      exists_of_length (same ▸ long)
    simp only [headerSize, List.take_succ_cons, List.cons.injEq] at header
    obtain ⟨rfl, rfl, rfl, rfl, rfl, rfl, rfl, rfl, rfl, rfl, rfl, rfl, rfl, rfl, tail⟩ := header
    have tags : readTags maxTags 12 (word hi' lo') rest' =
        readTags maxTags 12 (word hi' lo') rest := by
      rw [← readTags_take _ _ _ rest', ← readTags_take _ _ _ rest]
      exact congrArg _ tail
    simp only [summary, tags, length, same]
  · have short : a.length ≤ headerSize := by simp only [headerSize]; omega
    rw [List.take_of_length_le short, List.take_of_length_le (same ▸ short)] at header
    rw [header]

/-- What is logged of a frame depends on its header and its length only. -/
theorem describe_congr {a b : Bytes} (same : b.length = a.length)
    (header : b.take headerSize = a.take headerSize) : describe ⟨b⟩ = describe ⟨a⟩ :=
  describe_inj.mpr (summary_congr same header)

end Frame

theorem Wire.length_encode_envelope (id : String) {a b : Bytes} (same : b.length = a.length) :
    (encode (⟨id, b⟩ : Envelope)).length = (encode (⟨id, a⟩ : Envelope)).length := by
  cases a <;> cases b <;> simp_all [encode, Message.fields, bytesField, Field.bytes, Value.shape]

/-! ### Replacements -/

/-- Which payloads may stand for which, and which flow tables. -/
structure Recoding where
  payload : Bytes → Bytes → Prop
  flows : List FlowRule → List FlowRule → Prop
  length_payload : ∀ {a b}, payload a b → b.length = a.length
  length_flows : ∀ {a b}, flows a b → b.length = a.length

namespace Recoding

/-- Replacements that cannot be seen in a log. -/
structure Discreet (φ : Recoding) : Prop where
  header : ∀ {a b}, φ.payload a b → b.take Frame.headerSize = a.take Frame.headerSize
  ids : ∀ {a b}, φ.flows a b → b.map FlowRule.id = a.map FlowRule.id

/-- Nothing that is logged at a verbosity shows a replacement. -/
def Hidden (φ : Recoding) (v : Verbosity) : Prop := v = .off ∨ φ.Discreet

/-- An event that describes a frame is the same for its replacement. -/
theorem Hidden.described {φ : Recoding} {v : Verbosity} (hidden : φ.Hidden v)
    (event : String → Event) {a b : Bytes} (payload : φ.payload a b) :
    v = .off ∨ event (Frame.describe ⟨b⟩) = event (Frame.describe ⟨a⟩) :=
  hidden.imp_right fun discreet =>
    congrArg event (Frame.describe_congr (φ.length_payload payload) (discreet.header payload))

/-- An event that lists the identifiers of rules is the same for their replacements. -/
theorem Hidden.listed {φ : Recoding} {v : Verbosity} (hidden : φ.Hidden v)
    (event : String → Event) {a b : List FlowRule} (flows : φ.flows a b) :
    v = .off ∨ event (FlowRule.idText b) = event (FlowRule.idText a) :=
  hidden.imp_right fun discreet => congrArg event (FlowRule.idText_inj.mpr (discreet.ids flows))

/-- Payloads are replaced by a function, and tables rule by rule. -/
def ofMaps (payload : Bytes → Bytes) (rule : FlowRule → FlowRule)
    (length_payload : ∀ a, (payload a).length = a.length) : Recoding where
  payload a b := b = payload a
  flows a b := b = a.map rule
  length_payload same := same ▸ length_payload _
  length_flows same := same ▸ List.length_map _

theorem ofMaps_discreet {payload : Bytes → Bytes} {rule : FlowRule → FlowRule}
    {length_payload : ∀ a, (payload a).length = a.length}
    (header : ∀ a, (payload a).take Frame.headerSize = a.take Frame.headerSize)
    (ids : ∀ r, (rule r).id = r.id) : (ofMaps payload rule length_payload).Discreet where
  header same := by
    obtain rfl := same
    exact header _
  ids same := by
    obtain rfl := same
    rw [List.map_map]
    exact List.map_congr_left fun r _ => ids r

/-- Blanks out all that a log cannot show. -/
def blanked : Recoding :=
  ofMaps (fun a => a.take Frame.headerSize ++ (a.drop Frame.headerSize).map fun _ => 0)
    (fun r => ⟨r.id, 0, 0, 0, [], []⟩)
    fun a => by
      rw [List.length_append, List.length_map, ← List.length_append, List.take_append_drop]

theorem blanked_discreet : blanked.Discreet := by
  refine ofMaps_discreet (fun a => ?_) fun r => rfl
  rcases Nat.le_total Frame.headerSize a.length with long | short
  · have whole : (a.take Frame.headerSize).length = Frame.headerSize := by simp [long]
    exact List.take_left' whole
  · simp [List.take_of_length_le short, List.drop_eq_nil_of_le short]

end Recoding

/--
What is compared on a station besides contents: its counters, what it shows of them, and the
controller's frames.
-/
structure Books (μ : Metrics → Metrics → Prop) where
  counters : Counters → Counters → Prop
  count : ∀ (side : Side) (direction : Direction) (length : Nat) {c c' : Counters}, counters c c' →
    counters (c.count side direction length) (c'.count side direction length)
  shown : ∀ (device : String) {c c' : Counters}, counters c c' →
    μ (c.metrics device) (c'.metrics device)
  /-- A subscriber shows no counters. -/
  unshown : μ .none .none
  submissions : List (Frame × Delivery) → List (Frame × Delivery) → Prop

/-- The same event, but that the counters in it may be others. -/
inductive Event.Recoded (μ : Metrics → Metrics → Prop) : Event → Event → Prop
  | same (e : Event) : Recoded μ e e
  | childStats (device child : Location) {m m' : Metrics} (shown : μ m m') :
      Recoded μ (.childStatsReceived device child m) (.childStatsReceived device child m')
  | stats (device : Location) {m m' : Metrics} (shown : μ m m') :
      Recoded μ (.statsDone device m) (.statsDone device m')

namespace Event.Recoded
variable {μ : Metrics → Metrics → Prop} {e e' : Event}

theorem level (same : e.Recoded μ e') : e'.level = e.level := by
  cases same <;> rfl

theorem eq (same : e.Recoded Eq e') : e' = e := by
  cases same with
  | same e => rfl
  | childStats device child shown => rw [shown]
  | stats device shown => rw [shown]

end Event.Recoded

/-! ### Runs that are alike -/

/-- Two pairs are related part by part. -/
def Both (R : α → β → Prop) (S : γ → δ → Prop) (x : α × γ) (y : β × δ) : Prop :=
  R x.1 y.1 ∧ S x.2 y.2

section Lists
variable {R : α → β → Prop} {xs : List α} {ys : List β}

theorem rel_getElem? (same : List.Forall₂ R xs ys) (i : Nat) : Option.Rel R xs[i]? ys[i]? := by
  induction same generalizing i with
  | nil => exact .none
  | cons first _ ih =>
    cases i with
    | zero => exact .some first
    | succ i => exact ih i

theorem rel_set (same : List.Forall₂ R xs ys) (i : Nat) {x : α} {y : β} (entry : R x y) :
    List.Forall₂ R (xs.set i x) (ys.set i y) := by
  induction same generalizing i with
  | nil => exact .nil
  | cons first rest ih =>
    cases i with
    | zero => exact .cons entry rest
    | succ i => exact .cons first (ih i)

/-- The relation may depend on the place. -/
theorem rel_set_at {R : Nat → α → β → Prop} (same : ∀ n : Nat, Option.Rel (R n) xs[n]? ys[n]?)
    (i : Nat) {x : α} {y : β} (entry : R i x y) (n : Nat) :
    Option.Rel (R n) (xs.set i x)[n]? (ys.set i y)[n]? := by
  have length : xs.length ≤ n ↔ ys.length ≤ n := by
    have here := same n
    rw [← List.getElem?_eq_none_iff, ← List.getElem?_eq_none_iff]
    generalize xs[n]? = a at here
    generalize ys[n]? = b at here
    cases here <;> simp
  by_cases hit : i = n
  · subst hit
    by_cases outside : xs.length ≤ i
    · rw [List.getElem?_eq_none (by simpa using outside),
        List.getElem?_eq_none (by simpa using length.mp outside)]
      exact .none
    · rw [List.getElem?_set_self (Nat.lt_of_not_le outside),
        List.getElem?_set_self (Nat.lt_of_not_le (mt length.mpr outside))]
      exact .some entry
  · rw [List.getElem?_set_ne hit, List.getElem?_set_ne hit]
    exact same n

theorem forall₂_of_rel (same : ∀ n : Nat, Option.Rel R xs[n]? ys[n]?) : List.Forall₂ R xs ys := by
  induction xs generalizing ys with
  | nil =>
    cases ys with
    | nil => exact .nil
    | cons y ys => cases same 0
  | cons x xs ih =>
    cases ys with
    | nil => cases same 0
    | cons y ys =>
      obtain first := same 0
      cases first with
      | some first => exact .cons first (ih fun n => same (n + 1))

theorem map_rel (same : List.Forall₂ R xs ys) {f : α → γ} {g : β → γ}
    (agree : ∀ {x y}, R x y → g y = f x) : ys.map g = xs.map f := by
  induction same with
  | nil => rfl
  | cons first _ ih => rw [List.map_cons, List.map_cons, agree first, ih]

end Lists

namespace Traced

/-- Two computations log the same, apart from counters, and come to related values. -/
structure Alike (v : Verbosity) (μ : Metrics → Metrics → Prop) (R : α → β → Prop) (x : Traced α)
    (y : Traced β) : Prop where
  value : R (x.value v) (y.value v)
  events : List.Forall₂ (Event.Recoded μ) (x.events v) (y.events v)

namespace Alike
variable {v : Verbosity} {μ : Metrics → Metrics → Prop} {R : α → β → Prop} {S : γ → δ → Prop}

theorem pure {a : α} {b : β} (related : R a b) : Alike v μ R (pure a) (pure b) := ⟨related, .nil⟩

theorem bind {x : Traced α} {y : Traced β} {f : α → Traced γ} {g : β → Traced δ}
    (first : Alike v μ R x y) (later : ∀ a b, R a b → Alike v μ S (f a) (g b)) :
    Alike v μ S (x >>= f) (y >>= g) := by
  obtain ⟨value, events⟩ := later _ _ first.value
  exact ⟨value, List.rel_append first.events events⟩

theorem refl (x : Traced ε) : Alike v μ Eq x x :=
  ⟨rfl, List.forall₂_same.mpr fun e _ => .same e⟩

/-- The two do the same thing first. -/
theorem after (x : Traced ε) {f : ε → Traced γ} {g : ε → Traced δ}
    (later : ∀ a, Alike v μ S (f a) (g a)) : Alike v μ S (x >>= f) (x >>= g) :=
  .bind (.refl x) fun a _ same => same ▸ later a

/-- The two log the same first, apart from counters. -/
theorem shown {e e' : Event} (same : e.Recoded μ e') {f : Unit → Traced γ} {g : Unit → Traced δ}
    (later : Alike v μ S (f ()) (g ())) : Alike v μ S (emit e >>= f) (emit e' >>= g) := by
  have logged : List.Forall₂ (Event.Recoded μ) ((emit e).events v) ((emit e').events v) := by
    rw [events_emit, events_emit, same.level]
    split
    · exact .cons same .nil
    · exact .nil
  exact ⟨later.value, List.rel_append logged later.events⟩

/-- The two log the same first, or logging is off. -/
theorem told {e e' : Event} (same : v = .off ∨ e' = e) {f : Unit → Traced γ} {g : Unit → Traced δ}
    (later : Alike v μ S (f ()) (g ())) : Alike v μ S (emit e >>= f) (emit e' >>= g) := by
  obtain rfl | rfl := same
  · exact ⟨later.value, by simpa using later.events⟩
  · exact .after _ fun _ => later

/-- Where counters are the same, the events are. -/
theorem events_eq {x : Traced α} {y : Traced β} (same : Alike v Eq R x y) :
    y.events v = x.events v := by
  have events := same.events.imp fun _ _ event => event.eq.symm
  rw [List.forall₂_eq_eq_eq] at events
  exact events.symm

end Alike
end Traced
end OpticalAccess
