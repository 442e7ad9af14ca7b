import Redaction.Event

/-!
# Values with the events of their computation

`Logged α` is a value together with the events that were logged on the way to it, in order. The
log is output only: a computation can add to it but never read it, so dropping the events from a
computation leaves its value unchanged.
-/

namespace Redaction

/-- A value and the events logged while it was computed. -/
structure Logged (α : Type) where
  value : α
  events : List Event

namespace Logged

variable {α β : Type}

instance : Monad Logged where
  pure a := ⟨a, []⟩
  bind x f := ⟨(f x.value).value, x.events ++ (f x.value).events⟩

/-- Adds one event to the log. -/
def emit (e : Event) : Logged Unit := ⟨(), [e]⟩

@[simp] theorem value_pure (a : α) : (pure a : Logged α).value = a := rfl

@[simp] theorem events_pure (a : α) : (pure a : Logged α).events = [] := rfl

@[simp] theorem value_bind (x : Logged α) (f : α → Logged β) :
    (x >>= f).value = (f x.value).value := rfl

@[simp] theorem events_bind (x : Logged α) (f : α → Logged β) :
    (x >>= f).events = x.events ++ (f x.value).events := rfl

@[simp] theorem value_map (f : α → β) (x : Logged α) : (f <$> x).value = f x.value := rfl

@[simp] theorem events_map (f : α → β) (x : Logged α) : (f <$> x).events = x.events := by
  change x.events ++ [] = x.events
  simp

@[simp] theorem events_emit (e : Event) : (emit e).events = [e] := rfl

theorem ext {x y : Logged α} (hv : x.value = y.value) (he : x.events = y.events) : x = y := by
  cases x
  cases y
  simp_all

instance : LawfulMonad Logged :=
  LawfulMonad.mk' Logged
    (fun x => ext rfl (events_map id x))
    (fun x f => ext rfl (List.nil_append _))
    (fun x f g => ext rfl (List.append_assoc _ _ _))

end Logged

end Redaction
