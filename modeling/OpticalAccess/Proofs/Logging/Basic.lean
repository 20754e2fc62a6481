import OpticalAccess.Log.Traced

/-!
# What a verbosity keeps

A computation that only logs has the same value at every verbosity, and what a verbosity keeps of
its events is a filter of the events at the highest one. This holds of the single steps and is kept
by putting them together. A computation may look at the verbosity before it makes up the text of an
event, as long as it does not look for more than the event itself asks for.
-/

namespace OpticalAccess

namespace Verbosity

/-- Keeps every event. -/
def full : Verbosity := .upTo .debug

@[simp] theorem full_enables (l : Level) : full.enables l = true := by cases l <;> rfl

@[simp] theorem off_enables (l : Level) : off.enables l = false := by cases l <;> rfl

/-- A verbosity that keeps a level keeps the lighter ones. -/
theorem enables_mono {v : Verbosity} {l m : Level} (lighter : m.rank ≤ l.rank)
    (kept : v.enables l = true) : v.enables m = true := by
  simp only [enables, decide_eq_true_eq] at kept ⊢
  exact Nat.le_trans lighter kept

end Verbosity

namespace Traced

/-- Two computations are the same if they have the same value and the same events. -/
@[ext] theorem ext {x y : Traced α} (value : ∀ v, x.value v = y.value v)
    (events : ∀ v, x.events v = y.events v) : x = y :=
  funext fun v => Prod.ext (value v) (events v)

instance : LawfulMonad Traced :=
  LawfulMonad.mk' Traced
    (fun x => ext (fun _ => rfl) fun v => List.append_nil (x.events v))
    (fun _ _ => rfl)
    (fun _ _ _ => ext (fun _ => rfl) fun _ => List.append_assoc _ _ _)

@[simp] theorem value_map (f : α → β) (x : Traced α) (v : Verbosity) :
    (f <$> x).value v = f (x.value v) := rfl

@[simp] theorem events_map (f : α → β) (x : Traced α) (v : Verbosity) :
    (f <$> x).events v = x.events v := List.append_nil _

/-! ### Verbosity as a filter -/

/-- A computation that only logs: the verbosity does not change its value and filters its events. -/
structure Filtered (x : Traced α) : Prop where
  value_eq : ∀ v w, x.value v = x.value w
  events_eq : ∀ v, x.events v = (x.events .full).filter fun e => v.enables e.level

namespace Filtered

theorem pure (a : α) : (pure a : Traced α).Filtered := ⟨fun _ _ => rfl, fun _ => rfl⟩

theorem emit (e : Event) : (emit e).Filtered := by
  refine ⟨fun _ _ => rfl, fun v => ?_⟩
  cases kept : v.enables e.level <;> simp [kept]

theorem bind {x : Traced α} {f : α → Traced β} (first : x.Filtered)
    (later : ∀ a, (f a).Filtered) : (x >>= f).Filtered := by
  refine ⟨fun v w => ?_, fun v => ?_⟩
  · rw [value_bind, value_bind, first.value_eq v w, (later _).value_eq v w]
  · rw [events_bind, events_bind, List.filter_append, first.events_eq v,
      first.value_eq v .full, (later _).events_eq v]

end Filtered

/-! ### Texts that are made only if they are wanted -/

/-- Whether events of a level are kept. -/
def enabled (l : Level) : Traced Bool := fun v => (v.enables l, [])

@[simp] theorem value_enabled (l : Level) (v : Verbosity) : (enabled l).value v = v.enables l := rfl

@[simp] theorem events_enabled (l : Level) (v : Verbosity) : (enabled l).events v = [] := rfl

/-- Logs an event, and makes it up only if a level is kept. -/
def guarded (l : Level) (e : Unit → Event) : Traced Unit := do
  if ← enabled l then emit (e ())

/-- A guard that asks for no more than the event does changes nothing. -/
theorem guarded_eq {l : Level} {e : Unit → Event} (lighter : l.rank ≤ (e ()).level.rank) :
    guarded l e = emit (e ()) := by
  refine ext (fun _ => rfl) fun v => ?_
  cases kept : v.enables l with
  | true => simp [guarded, kept]
  | false =>
    have dropped : v.enables (e ()).level = false := by
      cases more : v.enables (e ()).level with
      | false => rfl
      | true => exact (Verbosity.enables_mono lighter more).symm.trans kept
    simp [guarded, kept, dropped]

/-! ### Computations that are known outright -/

/-- A computation with a given value that logs given events. -/
def ofEvents (es : List Event) (a : α) : Traced α := fun v =>
  (a, es.filter fun e => v.enables e.level)

@[simp] theorem value_ofEvents (es : List Event) (a : α) (v : Verbosity) :
    (ofEvents es a).value v = a := rfl

@[simp] theorem events_ofEvents (es : List Event) (a : α) (v : Verbosity) :
    (ofEvents es a).events v = es.filter fun e => v.enables e.level := rfl

theorem emit_pure (e : Event) (a : α) : (do emit e; return a) = ofEvents [e] a := by
  refine ext (fun _ => rfl) fun v => ?_
  cases kept : v.enables e.level <;> simp [kept]

theorem ofEvents_pure (es : List Event) (a : α) (f : α → β) :
    (do return f (← ofEvents es a)) = ofEvents es (f a) :=
  ext (fun _ => rfl) fun v => by simp

/-- Computations that are known are put together by their events. -/
theorem ofEvents_bind {es later : List Event} {a : α} {b : β} {f : α → Traced β}
    (next : f a = ofEvents later b) : (ofEvents es a >>= f) = ofEvents (es ++ later) b := by
  refine ext (fun v => ?_) fun v => ?_
  · rw [value_bind, value_ofEvents, next, value_ofEvents, value_ofEvents]
  · rw [events_bind, value_ofEvents, next, events_ofEvents, events_ofEvents, events_ofEvents,
      List.filter_append]

end Traced
end OpticalAccess
