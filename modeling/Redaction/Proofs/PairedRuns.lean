import Redaction.Proofs.Success

/-!
# Pairs of runs

A statement about what a computation must not depend on compares two runs of it. Two logged
computations are paired if they log the same events and their values stand in a given relation;
two computations that may fail are paired if, besides, they fail together and in the same way.

Pairing is kept by every way of composing computations, so a comparison of two large computations
comes down to comparing the places where they differ.
-/

namespace Redaction

variable {α β γ δ ε : Type}

/-- The computations log the same events and their values are related. -/
structure Logged.Paired (R : α → β → Prop) (x : Logged α) (y : Logged β) : Prop where
  events : x.events = y.events
  value : R x.value y.value

namespace Logged.Paired

variable {R : α → β → Prop} {S : γ → δ → Prop} {x : Logged α} {y : Logged β}

theorem pure {a : α} {b : β} (h : R a b) :
    Logged.Paired R (Pure.pure a : Logged α) (Pure.pure b) := ⟨rfl, h⟩

theorem bind {f : α → Logged γ} {g : β → Logged δ} (h : Logged.Paired R x y)
    (next : ∀ a b, R a b → Logged.Paired S (f a) (g b)) :
    Logged.Paired S (x >>= f) (y >>= g) := by
  have hnext := next _ _ h.value
  refine ⟨?_, hnext.value⟩
  rw [events_bind, events_bind, h.events, hnext.events]

theorem map {f : α → γ} {g : β → δ} (h : Logged.Paired R x y)
    (next : ∀ a b, R a b → S (f a) (g b)) : Logged.Paired S (f <$> x) (g <$> y) := by
  refine ⟨?_, next _ _ h.value⟩
  rw [events_map, events_map, h.events]

end Logged.Paired

/-- Both computations succeed with related results, or both fail in the same way. -/
inductive SameOutcome (R : α → β → Prop) : Except ε α → Except ε β → Prop where
  | ok {a : α} {b : β} (h : R a b) : SameOutcome R (.ok a) (.ok b)
  | error (e : ε) : SameOutcome R (.error e) (.error e)

namespace SameOutcome

variable {R : α → β → Prop} {S : γ → δ → Prop}

/-- An outcome is the same as itself, if results are related to themselves. -/
theorem refl {R : α → α → Prop} (h : ∀ a, R a a) (x : Except ε α) : SameOutcome R x x := by
  cases x with
  | ok a => exact .ok (h a)
  | error e => exact .error e

theorem map {f : α → γ} {g : β → δ} {x : Except ε α} {y : Except ε β} (h : SameOutcome R x y)
    (next : ∀ a b, R a b → S (f a) (g b)) : SameOutcome S (f <$> x) (g <$> y) := by
  cases h with
  | ok related => exact .ok (next _ _ related)
  | error e => exact .error e

end SameOutcome

/-- The computations log the same events and have the same outcome up to the relation. -/
def PairedRuns (R : α → β → Prop) (x : ExceptT ε Logged α) (y : ExceptT ε Logged β) : Prop :=
  Logged.Paired (SameOutcome R) x.run y.run

namespace PairedRuns

variable {R : α → β → Prop} {S : γ → δ → Prop}
variable {x : ExceptT ε Logged α} {y : ExceptT ε Logged β}

theorem pure {a : α} {b : β} (h : R a b) :
    PairedRuns R (Pure.pure a : ExceptT ε Logged α) (Pure.pure b) := ⟨rfl, .ok h⟩

theorem throw (e : ε) :
    PairedRuns R (MonadExcept.throw e : ExceptT ε Logged α) (MonadExcept.throw e) :=
  ⟨rfl, .error e⟩

/-- A logged computation that cannot fail, as one that may. -/
theorem lift {u : Logged α} {v : Logged β} (h : Logged.Paired R u v) :
    PairedRuns R (u : ExceptT ε Logged α) (v : ExceptT ε Logged β) :=
  h.map fun _ _ related => .ok related

/-- A computation that logs nothing, as a run. -/
theorem ofExcept {x : Except ε α} {y : Except ε β} (h : SameOutcome R x y) :
    PairedRuns R (x : ExceptT ε Logged α) (y : ExceptT ε Logged β) :=
  ⟨rfl, h⟩

theorem bind {f : α → ExceptT ε Logged γ} {g : β → ExceptT ε Logged δ} (h : PairedRuns R x y)
    (next : ∀ a b, R a b → PairedRuns S (f a) (g b)) : PairedRuns S (x >>= f) (y >>= g) := by
  refine Logged.Paired.bind h ?_
  intro a b outcome
  cases outcome with
  | ok related => exact next _ _ related
  | error e => exact .pure (.error e)

theorem map {f : α → γ} {g : β → δ} (h : PairedRuns R x y)
    (next : ∀ a b, R a b → S (f a) (g b)) : PairedRuns S (f <$> x) (g <$> y) := by
  rw [map_eq_pure_bind, map_eq_pure_bind]
  exact h.bind fun a b related => .pure (next a b related)

end PairedRuns

end Redaction
