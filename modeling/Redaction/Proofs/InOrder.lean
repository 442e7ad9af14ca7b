import Redaction.Proofs.Success

/-!
# Checks in order

The members of a list are checked from left to right. Whether one is refused may depend on the
members before it, but not on those behind it, so the first one that is refused gives the fault.

There are two ways to check a list: every member passes a state on to the next one, which stands
for all that is known of the members so far, or every member has a result of its own, and the
results are put together.
-/

namespace Redaction

variable {α β γ σ ε : Type}

/-- The list is fit up to a member that is refused, with this fault. -/
def FirstRefused (fit : List α → Prop) (refused : List α → α → ε → Prop) (l : List α) (e : ε) :
    Prop :=
  ∃ before x after, l = before ++ x :: after ∧ fit before ∧ refused before x e

theorem not_firstRefused_nil {fit : List α → Prop} {refused : List α → α → ε → Prop} (e : ε) :
    ¬ FirstRefused fit refused [] e := by
  rintro ⟨before, x, after, hnil, _⟩
  simp at hnil

/-- The first member that is refused is the head, or it is found among the others. -/
theorem firstRefused_cons {fit : List α → Prop} {refused : List α → α → ε → Prop} {x : α}
    {l : List α} {e : ε} :
    FirstRefused fit refused (x :: l) e ↔ (fit [] ∧ refused [] x e) ∨
      FirstRefused (fun done => fit (x :: done)) (fun done => refused (x :: done)) l e := by
  constructor
  · rintro ⟨before, y, after, hl, hbefore, hy⟩
    cases before with
    | nil =>
        obtain ⟨rfl, rfl⟩ := List.cons_eq_cons.1 hl
        exact .inl ⟨hbefore, hy⟩
    | cons z before =>
        obtain ⟨rfl, rfl⟩ := List.cons_eq_cons.1 hl
        exact .inr ⟨before, y, after, rfl, hbefore, hy⟩
  · rintro (⟨hnil, hx⟩ | ⟨before, y, after, rfl, hbefore, hy⟩)
    · exact ⟨[], x, l, rfl, hnil, hx⟩
    · exact ⟨x :: before, y, after, rfl, hbefore, hy⟩

/-- Every member is as it should be, and so is every one in view of each before it. -/
structure Fit (alone : α → Prop) (behind : α → α → Prop) (l : List α) : Prop where
  alone : ∀ x ∈ l, alone x
  behind : l.Pairwise behind

theorem fit_nil {alone : α → Prop} {behind : α → α → Prop} : Fit alone behind [] :=
  ⟨fun _ h => absurd h List.not_mem_nil, .nil⟩

theorem fit_append_singleton {alone : α → Prop} {behind : α → α → Prop} {l : List α} {x : α} :
    Fit alone behind (l ++ [x]) ↔ Fit alone behind l ∧ alone x ∧ ∀ y ∈ l, behind y x := by
  constructor
  · rintro ⟨halone, hbehind⟩
    rw [List.forall_mem_append, List.forall_mem_singleton] at halone
    rw [List.pairwise_append] at hbehind
    refine ⟨⟨halone.1, hbehind.1⟩, halone.2, ?_⟩
    intro y hy
    exact hbehind.2.2 y hy x (List.mem_singleton_self x)
  · rintro ⟨⟨halone, hbehind⟩, hx, hnew⟩
    refine ⟨?_, ?_⟩
    · rw [List.forall_mem_append, List.forall_mem_singleton]
      exact ⟨halone, hx⟩
    · rw [List.pairwise_append]
      refine ⟨hbehind, List.pairwise_singleton _ _, ?_⟩
      intro y hy z hz
      obtain rfl := List.mem_singleton.1 hz
      exact hnew y hy

/-- A list of images is fit if the members are, by what is asked of their images. -/
theorem fit_map {f : γ → α} {alone : α → Prop} {behind : α → α → Prop} {l : List γ} :
    Fit alone behind (l.map f) ↔
      Fit (fun x => alone (f x)) (fun x y => behind (f x) (f y)) l := by
  constructor
  · rintro ⟨halone, hbehind⟩
    exact ⟨List.forall_mem_map.1 halone, List.pairwise_map.1 hbehind⟩
  · rintro ⟨halone, hbehind⟩
    exact ⟨List.forall_mem_map.2 halone, List.pairwise_map.2 hbehind⟩

/-- Whether a list is fit does not depend on its order, if no two members are fit in one order
only. -/
theorem Fit.of_perm {alone : α → Prop} {behind : α → α → Prop} {l l' : List α}
    (h : Fit alone behind l) (symm : ∀ {x y}, behind x y → behind y x) (same : l.Perm l') :
    Fit alone behind l' where
  alone x hx := h.alone x (same.mem_iff.2 hx)
  behind := (same.pairwise_iff symm).1 h.behind

section State

variable {run : σ → List α → Except ε σ} {step : σ → α → Except ε σ}
variable {knows : List α → σ → Prop} {fit : List α → Prop} {refused : List α → α → ε → Prop}

/-- What is needed of a check that passes a state on: the state says what matters of the members so
far, and with it every step decides about one more. -/
structure StepsThrough (run : σ → List α → Except ε σ) (step : σ → α → Except ε σ)
    (knows : List α → σ → Prop) (fit : List α → Prop) (refused : List α → α → ε → Prop) : Prop where
  nil : ∀ s, run s [] = .ok s
  cons : ∀ s x l, run s (x :: l) = step s x >>= fun next => run next l
  shorter : ∀ before x, fit (before ++ [x]) → fit before
  judged : ∀ before s x, knows before s → fit before →
    Judged (step s x) (fit (before ++ [x])) (refused before x)
  knows : ∀ before s x next, knows before s → step s x = .ok next → knows (before ++ [x]) next

theorem StepsThrough.fit_of_append (h : StepsThrough run step knows fit refused)
    {before after : List α} (hfit : fit (before ++ after)) : fit before := by
  induction after generalizing before with
  | nil => rwa [List.append_nil] at hfit
  | cons x after ih =>
      rw [List.append_cons] at hfit
      exact h.shorter before x (ih hfit)

/-- The state that further members lead to says what matters of them and of the ones before. -/
theorem StepsThrough.knows_append (h : StepsThrough run step knows fit refused)
    {before l : List α} {s last : σ} (hs : knows before s) (hrun : run s l = .ok last) :
    knows (before ++ l) last := by
  induction l generalizing before s with
  | nil =>
      rw [h.nil] at hrun
      cases hrun
      rwa [List.append_nil]
  | cons x l ih =>
      rw [h.cons] at hrun
      obtain ⟨next, hnext, hrest⟩ := bind_eq_ok.1 hrun
      rw [List.append_cons]
      exact ih (h.knows before s x next hs hnext) hrest

/-- Further members are accepted if the list is fit with them. -/
theorem StepsThrough.judged_append (h : StepsThrough run step knows fit refused) {before : List α}
    {s : σ} (hs : knows before s) (hfit : fit before) (l : List α) :
    Judged (run s l) (fit (before ++ l))
      (FirstRefused (fun done => fit (before ++ done)) (fun done => refused (before ++ done)) l) := by
  induction l generalizing before s with
  | nil =>
      rw [h.nil]
      exact .of_ok (by rwa [List.append_nil]) not_firstRefused_nil
  | cons x l ih =>
      have hnext : ∀ next, step s x = .ok next → Judged (run next l) (fit (before ++ x :: l))
          (FirstRefused (fun done => fit (before ++ x :: done))
            (fun done => refused (before ++ x :: done)) l) := by
        intro next hstep
        have hx := (h.judged before s x hs hfit).ok.1 ⟨next, hstep⟩
        simpa only [List.append_assoc, List.singleton_append] using
          ih (h.knows before s x next hs hstep) hx
      rw [h.cons]
      refine ((h.judged before s x hs hfit).bind hnext).congr ?_ ?_
      · -- The list up to `x` is fit if all of it is.
        refine and_iff_right_of_imp fun hall => ?_
        rw [List.append_cons] at hall
        exact h.fit_of_append hall
      · intro e
        rw [firstRefused_cons, List.append_nil, and_iff_right hfit]
        refine or_congr_right (and_iff_right_of_imp ?_)
        rintro ⟨done, y, after, _, hdone, _⟩
        rw [List.append_cons] at hdone
        exact h.fit_of_append hdone

/-- The state at the end says what matters of all members. -/
theorem StepsThrough.knows_of_eq_ok (h : StepsThrough run step knows fit refused) {l : List α}
    {s last : σ} (hs : knows [] s) (hrun : run s l = .ok last) : knows l last :=
  h.knows_append hs hrun

/-- The check accepts what is fit, and reports the first member that is refused. -/
theorem StepsThrough.judged_run (h : StepsThrough run step knows fit refused) {s : σ}
    (hs : knows [] s) (hfit : fit []) (l : List α) :
    Judged (run s l) (fit l) (FirstRefused fit refused l) :=
  h.judged_append hs hfit l

/-- Members that leave every state as it is need not be checked. -/
theorem StepsThrough.run_filter (h : StepsThrough run step knows fit refused) {counts : α → Bool}
    (idle : ∀ s x, counts x = false → step s x = .ok s) (s : σ) (l : List α) :
    run s (l.filter counts) = run s l := by
  induction l generalizing s with
  | nil => rfl
  | cons x l ih =>
      by_cases hx : counts x = true
      · rw [List.filter_cons_of_pos hx, h.cons, h.cons]
        exact congrArg _ (funext ih)
      · rw [List.filter_cons_of_neg hx, h.cons, idle s x (by simpa using hx), ok_bind, ih]

end State

section Results

variable {accepted : α → Prop} {refused : α → ε → Prop}

/-- The first member that is refused, where every member is judged by itself. -/
abbrev FirstRefusedOf (accepted : α → Prop) (refused : α → ε → Prop) : List α → ε → Prop :=
  FirstRefused (fun l => ∀ x ∈ l, accepted x) fun _ => refused

theorem judged_nil {result : β} :
    Judged (.ok result : Except ε β) (∀ x ∈ ([] : List α), accepted x)
      (FirstRefusedOf accepted refused []) :=
  .of_ok (fun _ hx => absurd hx List.not_mem_nil) not_firstRefused_nil

/-- One more member is checked before the others are. -/
theorem Judged.cons {x : α} {l : List α} {first : Except ε β} {others : Except ε γ} {δ : Type}
    {join : β → γ → δ} (hfirst : Judged first (accepted x) (refused x))
    (hothers : Judged others (∀ y ∈ l, accepted y) (FirstRefusedOf accepted refused l)) :
    Judged (do let b ← first; let c ← others; return join b c) (∀ y ∈ x :: l, accepted y)
      (FirstRefusedOf accepted refused (x :: l)) := by
  refine (hfirst.bind fun b _ => hothers.bind_pure).congr List.forall_mem_cons.symm ?_
  intro e
  constructor
  · rintro (hx | ⟨hx, before, y, after, rfl, hbefore, hy⟩)
    · exact ⟨[], x, l, rfl, fun y hy => absurd hy List.not_mem_nil, hx⟩
    · exact ⟨x :: before, y, after, rfl, List.forall_mem_cons.2 ⟨hx, hbefore⟩, hy⟩
  · intro h
    obtain ⟨_, hx⟩ | ⟨before, y, after, rfl, hbefore, hy⟩ := firstRefused_cons.1 h
    · exact .inl hx
    · obtain ⟨hx, hbefore⟩ := List.forall_mem_cons.1 hbefore
      exact .inr ⟨hx, before, y, after, rfl, hbefore, hy⟩

end Results

end Redaction
