import OpticalAccess.Log.Event

/-!
# Computations that log

A traced computation has a value and the events that a verbosity keeps of it.
-/

namespace OpticalAccess

def Traced (α : Type) : Type := Verbosity → α × List Event

namespace Traced

protected def pure (a : α) : Traced α := fun _ => (a, [])

protected def bind (x : Traced α) (f : α → Traced β) : Traced β := fun v =>
  let (a, before) := x v
  let (b, after) := f a v
  (b, before ++ after)

instance : Monad Traced where
  pure := Traced.pure
  bind := Traced.bind

/-- Logs an event if its level is kept. -/
def emit (e : Event) : Traced Unit := fun v => ((), if v.enables e.level then [e] else [])

def value (x : Traced α) (v : Verbosity) : α := (x v).1

def events (x : Traced α) (v : Verbosity) : List Event := (x v).2

@[simp] theorem value_pure (a : α) (v : Verbosity) : (pure a : Traced α).value v = a := rfl

@[simp] theorem value_bind (x : Traced α) (f : α → Traced β) (v : Verbosity) :
    (x >>= f).value v = (f (x.value v)).value v := rfl

@[simp] theorem value_emit (e : Event) (v : Verbosity) : (emit e).value v = () := rfl

@[simp] theorem events_pure (a : α) (v : Verbosity) : (pure a : Traced α).events v = [] := rfl

@[simp] theorem events_bind (x : Traced α) (f : α → Traced β) (v : Verbosity) :
    (x >>= f).events v = x.events v ++ (f (x.value v)).events v := rfl

@[simp] theorem events_emit (e : Event) (v : Verbosity) :
    (emit e).events v = if v.enables e.level then [e] else [] := rfl

end Traced
end OpticalAccess
