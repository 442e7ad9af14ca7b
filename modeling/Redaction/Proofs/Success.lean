import Redaction.Logged

/-!
# Successful computations

A sequence of computations that may fail succeeds exactly if all of them do, each with the result
of the one before. For runs, which also log, success comes with a result and the events on the
way to it.
-/

namespace Redaction

variable {α β ε ε' : Type}

theorem bind_eq_ok {x : Except ε α} {f : α → Except ε β} {b : β} :
    x >>= f = .ok b ↔ ∃ a, x = .ok a ∧ f a = .ok b := by
  cases x <;> simp [bind, Except.bind]

theorem ok_bind (a : α) (f : α → Except ε β) : (.ok a : Except ε α) >>= f = f a := rfl

theorem error_bind (e : ε) (f : α → Except ε β) : (.error e : Except ε α) >>= f = .error e := rfl

theorem pure_eq_ok {a b : α} : (pure a : Except ε α) = .ok b ↔ a = b := by
  simp [pure, Except.pure]

theorem mapError_ok (a : α) (f : ε → ε') : (.ok a : Except ε α).mapError f = .ok a := rfl

theorem mapError_error (e : ε) (f : ε → ε') :
    (.error e : Except ε α).mapError f = .error (f e) := rfl

theorem mapError_eq_ok {x : Except ε α} {f : ε → ε'} {a : α} :
    x.mapError f = .ok a ↔ x = .ok a := by
  cases x with
  | ok b =>
      change (.ok b : Except ε' α) = .ok a ↔ (.ok b : Except ε α) = .ok a
      simp only [Except.ok.injEq]
  | error e =>
      constructor
      · intro h
        cases h
      · intro h
        cases h

/-- The computation succeeds exactly if `accepted` holds, and fails with exactly the errors that
`rejected` holds of. -/
structure Judged (x : Except ε α) (accepted : Prop) (rejected : ε → Prop) : Prop where
  ok : (∃ a, x = .ok a) ↔ accepted
  error (e : ε) : x = .error e ↔ rejected e

/-- Where every input is accepted or rejected, it is enough to know what either leads to. -/
theorem Judged.of_exhaustive {x : Except ε α} {accepted : Prop} {rejected : ε → Prop}
    (succeeds : accepted → ∃ a, x = .ok a) (fails : ∀ e, rejected e → x = .error e)
    (exhaustive : accepted ∨ ∃ e, rejected e) : Judged x accepted rejected := by
  refine ⟨⟨?_, succeeds⟩, fun e => ⟨?_, fails e⟩⟩
  · rintro ⟨a, ha⟩
    obtain haccepted | ⟨e, he⟩ := exhaustive
    · exact haccepted
    · rw [fails e he] at ha
      cases ha
  · intro hx
    obtain haccepted | ⟨e', he'⟩ := exhaustive
    · obtain ⟨a, ha⟩ := succeeds haccepted
      rw [ha] at hx
      cases hx
    · rw [fails e' he'] at hx
      cases hx
      exact he'

theorem Judged.exhaustive {x : Except ε α} {accepted : Prop} {rejected : ε → Prop}
    (h : Judged x accepted rejected) : accepted ∨ ∃ e, rejected e := by
  cases hx : x with
  | ok a => exact .inl (h.ok.1 ⟨a, hx⟩)
  | error e => exact .inr ⟨e, (h.error e).1 hx⟩

/-- A result is judged by being accepted. -/
theorem Judged.of_ok {a : α} {accepted : Prop} {rejected : ε → Prop} (haccepted : accepted)
    (hnone : ∀ e, ¬ rejected e) : Judged (.ok a) accepted rejected :=
  .of_exhaustive (fun _ => ⟨a, rfl⟩) (fun e he => absurd he (hnone e)) (.inl haccepted)

/-- An error is judged by being the only one that is rejected. -/
theorem Judged.of_error {e : ε} {accepted : Prop} {rejected : ε → Prop} (hrejected : rejected e)
    (hnot : ¬ accepted) (honly : ∀ other, rejected other → other = e) :
    Judged (.error e : Except ε α) accepted rejected :=
  .of_exhaustive (fun h => absurd h hnot) (fun other h => congrArg _ (honly other h).symm)
    (.inr ⟨e, hrejected⟩)

theorem Judged.congr {x : Except ε α} {accepted accepted' : Prop} {rejected rejected' : ε → Prop}
    (h : Judged x accepted rejected) (haccepted : accepted ↔ accepted')
    (hrejected : ∀ e, rejected e ↔ rejected' e) : Judged x accepted' rejected' :=
  ⟨h.ok.trans haccepted, fun e => (h.error e).trans (hrejected e)⟩

/-- Errors are rejected for the same causes after they are renamed. -/
theorem Judged.mapError {x : Except ε α} {accepted : Prop} {rejected : ε → Prop}
    (h : Judged x accepted rejected) {f : ε → ε'} :
    Judged (x.mapError f) accepted (fun e' => ∃ e, rejected e ∧ e' = f e) := by
  refine .of_exhaustive ?_ ?_ ?_
  · intro haccepted
    obtain ⟨a, rfl⟩ := h.ok.2 haccepted
    exact ⟨a, rfl⟩
  · rintro _ ⟨e, hrejected, rfl⟩
    rw [(h.error e).2 hrejected]
    rfl
  · obtain haccepted | ⟨e, hrejected⟩ := h.exhaustive
    · exact .inl haccepted
    · exact .inr ⟨f e, e, hrejected, rfl⟩

/-- What is accepted is not rejected. -/
theorem Judged.not_rejected {x : Except ε α} {accepted : Prop} {rejected : ε → Prop}
    (h : Judged x accepted rejected) (haccepted : accepted) (e : ε) : ¬ rejected e := by
  intro hrejected
  obtain ⟨a, ha⟩ := h.ok.2 haccepted
  rw [(h.error e).2 hrejected] at ha
  cases ha

/-- A sequence is accepted if both computations are, and rejected for what the first one is rejected
for, or else the second one. -/
theorem Judged.bind {x : Except ε α} {f : α → Except ε β} {accepted accepted' : Prop}
    {rejected rejected' : ε → Prop} (h : Judged x accepted rejected)
    (next : ∀ a, x = .ok a → Judged (f a) accepted' rejected') :
    Judged (x >>= f) (accepted ∧ accepted') (fun e => rejected e ∨ accepted ∧ rejected' e) := by
  refine .of_exhaustive ?_ ?_ ?_
  · rintro ⟨haccepted, haccepted'⟩
    obtain ⟨a, ha⟩ := h.ok.2 haccepted
    rw [ha]
    exact (next a ha).ok.2 haccepted'
  · rintro e (hrejected | ⟨haccepted, hrejected⟩)
    · rw [(h.error e).2 hrejected]
      rfl
    · obtain ⟨a, ha⟩ := h.ok.2 haccepted
      rw [ha]
      exact ((next a ha).error e).2 hrejected
  · obtain haccepted | ⟨e, hrejected⟩ := h.exhaustive
    · obtain ⟨a, ha⟩ := h.ok.2 haccepted
      obtain haccepted' | ⟨e, hrejected⟩ := (next a ha).exhaustive
      · exact .inl ⟨haccepted, haccepted'⟩
      · exact .inr ⟨e, .inr ⟨haccepted, hrejected⟩⟩
    · exact .inr ⟨e, .inl hrejected⟩

/-- What is computed from a result does not change whether there is one. -/
theorem Judged.bind_pure {x : Except ε α} {accepted : Prop} {rejected : ε → Prop}
    (h : Judged x accepted rejected) {f : α → β} :
    Judged (x >>= fun a => pure (f a)) accepted rejected := by
  refine .of_exhaustive ?_ ?_ h.exhaustive
  · intro haccepted
    obtain ⟨a, rfl⟩ := h.ok.2 haccepted
    exact ⟨f a, rfl⟩
  · intro e hrejected
    rw [(h.error e).2 hrejected]
    rfl

/-- The run succeeds with the result, and logs the events. -/
def Yields (x : ExceptT ε Logged α) (a : α) (events : List Event) : Prop :=
  x.run = ⟨.ok a, events⟩

namespace Yields

variable {x : ExceptT ε Logged α} {a : α} {events : List Event}

theorem pure (a : α) : Yields (Pure.pure a : ExceptT ε Logged α) a [] := rfl

/-- A logged computation that cannot fail, as one that may. -/
theorem lift (u : Logged α) : Yields (u : ExceptT ε Logged α) u.value u.events := by
  change (Except.ok <$> u : Logged (Except ε α)) = _
  exact Logged.ext rfl (Logged.events_map _ u)

theorem bind {f : α → ExceptT ε Logged β} {b : β} {more : List Event}
    (first : Yields x a events) (next : Yields (f a) b more) :
    Yields (x >>= f) b (events ++ more) := by
  have hrun : (x >>= f).run = x.run >>= ExceptT.bindCont f := rfl
  have hnext : ExceptT.bindCont f (.ok a) = ⟨.ok b, more⟩ := next
  rw [Yields, hrun, show x.run = _ from first]
  exact Logged.ext (by rw [Logged.value_bind, hnext]) (by rw [Logged.events_bind, hnext])

/-- A run has one result. -/
theorem unique {b : α} {others : List Event} (h : Yields x a events) (h' : Yields x b others) :
    a = b ∧ events = others := by
  have heq : (⟨.ok a, events⟩ : Logged (Except ε α)) = ⟨.ok b, others⟩ := h.symm.trans h'
  simpa using heq

theorem pure_iff {b : α} :
    Yields (Pure.pure a : ExceptT ε Logged α) b events ↔ b = a ∧ events = [] := by
  constructor
  · intro h
    obtain ⟨rfl, rfl⟩ := h.unique (pure a)
    exact ⟨rfl, rfl⟩
  · rintro ⟨rfl, rfl⟩
    exact pure b

/-- A computation that logs nothing, as a run. -/
theorem ofExcept_iff {x : Except ε α} :
    Yields (x : ExceptT ε Logged α) a events ↔ x = .ok a ∧ events = [] := by
  have hrun : (x : ExceptT ε Logged α).run = ⟨x, []⟩ := rfl
  rw [Yields, hrun, Logged.mk.injEq]
  exact and_congr_right' eq_comm

theorem bind_iff {f : α → ExceptT ε Logged β} {b : β} :
    Yields (x >>= f) b events ↔
      ∃ a first more, Yields x a first ∧ Yields (f a) b more ∧ events = first ++ more := by
  constructor
  · intro h
    have hrun : (x >>= f).run = x.run >>= ExceptT.bindCont f := rfl
    rw [Yields, hrun] at h
    have hvalue := congrArg Logged.value h
    have hevents := congrArg Logged.events h
    rw [Logged.value_bind] at hvalue
    rw [Logged.events_bind] at hevents
    cases hx : x.run.value with
    | error e =>
        rw [hx] at hvalue
        cases hvalue
    | ok a =>
        rw [hx] at hvalue hevents
        exact ⟨a, x.run.events, (f a).run.events, Logged.ext hx rfl, Logged.ext hvalue rfl,
          hevents.symm⟩
  · rintro ⟨a, first, more, hfirst, hnext, rfl⟩
    exact hfirst.bind hnext

theorem map_iff {f : α → β} {b : β} :
    Yields (f <$> x) b events ↔ ∃ a, Yields x a events ∧ f a = b := by
  rw [map_eq_pure_bind, bind_iff]
  constructor
  · rintro ⟨a, first, more, hfirst, hnext, rfl⟩
    obtain ⟨rfl, rfl⟩ := pure_iff.1 hnext
    exact ⟨a, by rwa [List.append_nil], rfl⟩
  · rintro ⟨a, h, rfl⟩
    exact ⟨a, events, [], h, pure (f a), (List.append_nil events).symm⟩

end Yields

end Redaction
