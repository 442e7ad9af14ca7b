import Redaction.Proofs.Composite.Growth

/-!
# Revealing in stages

A composite is revealed under a policy by putting the value of every segment that the policy allows
in its place, as plain text. Rendering under the policy is the same as revealing first and hiding
all that is left, so a policy decides about each part alone. What one policy reveals may be revealed
before another one is asked: both together reveal what either of them does, in whichever order.

With sets of names this says that a set reveals what its members do, and a larger set never less
than a smaller one. What no name in the set reveals is the marker, or the placeholder where there is
no marker, and plain text is what it is.
-/

namespace Redaction

/-- The part with the value in place of its segment, if the policy allows that. -/
def Part.reveal (policy : Policy) : Part → Part
  | .text t => .text t
  | .segment s => if policy.allows s then .text s.value else .segment s

/-- The composite with the values in place of the segments that the policy allows. -/
def Composite.reveal (policy : Policy) (c : Composite) : Composite :=
  ⟨c.parts.map (Part.reveal policy)⟩

/-- The texts that the parts of a composite contribute, in order. -/
def Composite.texts (c : Composite) (marker : Option String) (policy : Policy) : List String :=
  c.parts.map (Part.render marker policy)

/-- What a part contributes while the segments of these names are revealed. -/
inductive Part.Shown (marker : Option String) (names : List String) : Part → String → Prop where
  | text (t : String) : Shown marker names (.text t) t
  | value {s : Segment} (listed : s.name ∈ names) : Shown marker names (.segment s) s.value
  | marker {s : Segment} {m : String} (unlisted : s.name ∉ names) (given : marker = some m) :
      Shown marker names (.segment s) m
  | placeholder {s : Segment} (unlisted : s.name ∉ names) (noMarker : marker = none) :
      Shown marker names (.segment s) s.placeholder

/-- The policy allows what the first or the second policy allows. -/
def Policy.Unites (policy first second : Policy) : Prop :=
  ∀ s, policy.allows s = (first.allows s || second.allows s)

namespace Policy

variable {policy first second : Policy}

theorem Unites.symm (h : policy.Unites first second) : policy.Unites second first := by
  intro s
  rw [h s, Bool.or_comm]

theorem unites_nothing (policy : Policy) : policy.Unites policy .nothing := by
  intro s
  rw [allows_nothing, Bool.or_false]

theorem unites_ofNames_append (A B : List String) :
    (ofNames (A ++ B)).Unites (ofNames A) (ofNames B) := by
  intro s
  simp only [allows_ofNames, List.mem_append, Bool.decide_or]

end Policy

section Stages

variable {policy first second : Policy}

/-- A part that the first policy has revealed is shown under the second one as under both. -/
theorem Part.render_reveal (h : policy.Unites first second) (marker : Option String) (p : Part) :
    (p.reveal first).render marker second = p.render marker policy := by
  cases p with
  | text t => rfl
  | segment s =>
      have hs := h s
      by_cases hfirst : first.allows s = true
      · rw [hfirst, Bool.true_or] at hs
        rw [Part.reveal, if_pos hfirst]
        exact (Segment.render_of_allows hs marker).symm
      · rw [Bool.not_eq_true] at hfirst
        rw [hfirst, Bool.false_or] at hs
        rw [Part.reveal, hfirst, if_neg Bool.false_ne_true]
        change s.render marker second = s.render marker policy
        simp only [Segment.render, hs]

theorem Part.reveal_reveal (h : policy.Unites first second) (p : Part) :
    (p.reveal first).reveal second = p.reveal policy := by
  cases p with
  | text t => rfl
  | segment s =>
      have hs := h s
      by_cases hfirst : first.allows s = true
      · rw [hfirst, Bool.true_or] at hs
        rw [Part.reveal, if_pos hfirst, Part.reveal, Part.reveal, if_pos hs]
      · rw [Bool.not_eq_true] at hfirst
        rw [hfirst, Bool.false_or] at hs
        rw [Part.reveal, hfirst, if_neg Bool.false_ne_true, Part.reveal, Part.reveal, hs]

namespace Composite

variable (c : Composite) (marker : Option String)

/-- Revealing under one policy and rendering under another one is rendering under both. -/
theorem render_reveal (h : policy.Unites first second) :
    (c.reveal first).render marker second = c.render marker policy := by
  rw [render_eq_join, render_eq_join, reveal, List.map_map]
  exact congrArg String.join (List.map_congr_left fun p _ => p.render_reveal h marker)

theorem reveal_reveal (h : policy.Unites first second) :
    (c.reveal first).reveal second = c.reveal policy := by
  rw [reveal, reveal, reveal, List.map_map]
  exact congrArg Composite.mk (List.map_congr_left fun p _ => p.reveal_reveal h)

end Composite

end Stages

section Names

variable {marker : Option String} {names : List String}

theorem Part.shown_render (p : Part) : p.Shown marker names (p.render marker (.ofNames names)) := by
  cases p with
  | text t => exact .text t
  | segment s =>
      change Part.Shown marker names (.segment s) (s.render marker (.ofNames names))
      simp only [Segment.render, Policy.allows_ofNames]
      split
      next listed => exact .value (of_decide_eq_true listed)
      next unlisted =>
        have unlisted : s.name ∉ names := fun listed => unlisted (decide_eq_true listed)
        cases marker with
        | none => exact .placeholder unlisted rfl
        | some m => exact .marker unlisted rfl

theorem Composite.forall₂_shown (c : Composite) :
    List.Forall₂ (Part.Shown marker names) c.parts (c.texts marker (.ofNames names)) := by
  rw [Composite.texts, List.forall₂_map_right_iff, List.forall₂_same]
  exact fun p _ => p.shown_render

theorem Composite.texts_of_listed {c : Composite} {i : Nat} {s : Segment}
    (here : c.parts[i]? = some (.segment s)) (listed : s.name ∈ names) :
    (c.texts marker (.ofNames names))[i]? = some s.value := by
  have hallowed : (Policy.ofNames names).allows s = true := by simpa using listed
  rw [Composite.texts, List.getElem?_map, here, Option.map_some, Part.render,
    Segment.render_of_allows hallowed]

/-- Two sets of names show the same at a part, unless it is a segment that one of them lists. -/
theorem Composite.texts_eq_or_listed (c : Composite) (marker : Option String) (A B : List String)
    (i : Nat) :
    (c.texts marker (.ofNames A))[i]? = (c.texts marker (.ofNames B))[i]? ∨
      ∃ s, c.parts[i]? = some (.segment s) ∧ ¬ (s.name ∈ A ↔ s.name ∈ B) := by
  rw [Composite.texts, Composite.texts, List.getElem?_map, List.getElem?_map]
  cases hpart : c.parts[i]? with
  | none => exact .inl rfl
  | some p =>
      cases p with
      | text t => exact .inl rfl
      | segment s =>
          by_cases same : s.name ∈ A ↔ s.name ∈ B
          · refine .inl ?_
            simp only [Option.map_some, Part.render, Segment.render, Policy.allows_ofNames, same]
          · exact .inr ⟨s, rfl, same⟩

end Names

/-- Rendering under a policy is rendering what the policy has revealed while nothing else is. The
names of two lists may be revealed together or one list after the other, in either order. Every part
contributes a text of its own: plain text itself, a segment of a listed name its value, and any
other segment the marker, or its placeholder if there is no marker. With more names listed, what was
shown is shown still, and texts differ only where a segment is newly revealed. -/
theorem revealed_alone_and_in_stages :
    (∀ (c : Composite) (marker : Option String) (policy : Policy),
      c.render marker policy = (c.reveal policy).render marker .nothing) ∧
    (∀ (c : Composite) (marker : Option String) (A B : List String),
      c.render marker (.ofNames (A ++ B)) = (c.reveal (.ofNames A)).render marker (.ofNames B) ∧
      c.render marker (.ofNames (A ++ B)) = (c.reveal (.ofNames B)).render marker (.ofNames A) ∧
      c.reveal (.ofNames (A ++ B)) = (c.reveal (.ofNames A)).reveal (.ofNames B)) ∧
    (∀ (c : Composite) (marker : Option String) (names : List String),
      c.render marker (.ofNames names) = String.join (c.texts marker (.ofNames names)) ∧
      List.Forall₂ (Part.Shown marker names) c.parts (c.texts marker (.ofNames names))) ∧
    (∀ (c : Composite) (marker : Option String) (A B : List String), (∀ name ∈ A, name ∈ B) →
      (∀ (i : Nat) (s : Segment), c.parts[i]? = some (.segment s) → s.name ∈ A →
        (c.texts marker (.ofNames A))[i]? = some s.value ∧
        (c.texts marker (.ofNames B))[i]? = some s.value) ∧
      ∀ i : Nat, (c.texts marker (.ofNames A))[i]? ≠ (c.texts marker (.ofNames B))[i]? →
        ∃ s : Segment, c.parts[i]? = some (.segment s) ∧ s.name ∉ A ∧ s.name ∈ B ∧
          (c.texts marker (.ofNames B))[i]? = some s.value) := by
  refine ⟨?_, ?_, fun c marker names => ⟨c.render_eq_join marker _, c.forall₂_shown⟩, ?_⟩
  · intro c marker policy
    exact (c.render_reveal marker policy.unites_nothing).symm
  · intro c marker A B
    have hunites := Policy.unites_ofNames_append A B
    exact ⟨(c.render_reveal marker hunites).symm, (c.render_reveal marker hunites.symm).symm,
      (c.reveal_reveal hunites).symm⟩
  · intro c marker A B more
    refine ⟨?_, ?_⟩
    · intro i s here listed
      exact ⟨Composite.texts_of_listed here listed,
        Composite.texts_of_listed here (more s.name listed)⟩
    · intro i differ
      obtain ⟨s, here, hlisted⟩ := (c.texts_eq_or_listed marker A B i).resolve_left differ
      have hA : s.name ∉ A := fun listed => hlisted (iff_of_true listed (more s.name listed))
      have hB : s.name ∈ B := by
        by_contra unlisted
        exact hlisted (iff_of_false hA unlisted)
      exact ⟨s, here, hA, hB, Composite.texts_of_listed here hB⟩

/-- The user is shown before the host is asked for, and a text that looks like the marker stays
where it is. -/
theorem user_shown_before_host :
    let line : Composite := ⟨[.text "*", .segment ⟨"eve", "user", false⟩, .text "@",
      .segment ⟨"db1", "host", true⟩]⟩
    line.render (some "*") (.ofNames ["user", "host"]) =
      (⟨[.text "*", .text "eve", .text "@", .segment ⟨"db1", "host", true⟩]⟩ : Composite).render
        (some "*") (.ofNames ["host"]) ∧
    (line.texts (some "*") (.ofNames ["user", "host"]))[1]? = some "eve" := by
  intro line
  obtain ⟨-, hstages, -, hmore⟩ := revealed_alone_and_in_stages
  constructor
  · exact (hstages line (some "*") ["user"] ["host"]).1
  · have hlisted := (hmore line (some "*") ["user"] ["user", "host"] (by simp)).1
    exact (hlisted 1 ⟨"eve", "user", false⟩ rfl (by simp)).2

end Redaction
