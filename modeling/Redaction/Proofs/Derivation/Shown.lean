import Redaction.Proofs.Derivation.Scoping
import Redaction.Proofs.Derivation.Statements

/-!
# What is read is shown

Which entity an expression reads is settled by the names in scope. A run shows what this entity
holds when the expression is formatted: at the push itself, or where the segment was bound that is
pushed. So a field that is not captured is shown with its own value, and in place of one that is
captured stands the inspection of the segment or of the composite that its name has come to mean.
-/

namespace Redaction.Derivation

variable {arm : Arm} {testing : Bool} {labels : List String} {values : List Value}
variable {c : Composite} {events : List Event} {i : Nat} {e : Entity} {mode : Template.Mode}

/-- The part at an index has the text in this mode of what the entity held at a position before the
push. -/
def Arm.Shows (arm : Arm) (testing : Bool) (labels : List String) (values : List Value)
    (c : Composite) (i : Nat) (e : Entity) (mode : Template.Mode) : Prop :=
  ∃ position < arm.body.length, position ≤ arm.pushAt i ∧ ∃ memory before content part,
    Yields (arm.runTo testing labels values position) memory before ∧
    memory.content? e = some content ∧ c.parts[i]? = some part ∧
    content.format? testing mode = some part.plain

/-- The segment of a binding is still there when it is pushed. -/
theorem Arm.exists_bound {position : Nat} {b : Binding} {memory : Memory}
    (binding : arm.bindings[position]? = some b) (inside : arm.pushAt i ≤ arm.body.length)
    (hrun : Yields (arm.runTo testing labels values (arm.pushAt i)) memory events) :
    ∃ before first text, Yields (arm.runTo testing labels values position) before first ∧
      before.format (arm.resolve? labels position) testing b.field b.mode = .ok text ∧
      memory.segments[position]? = some (b.segment text) := by
  have hlt := (List.getElem?_eq_some_iff.1 binding).1
  have hle : position + 1 ≤ arm.pushAt i := by
    rw [Arm.pushAt]
    omega
  obtain ⟨after, _, hafter, hprefix, -⟩ := Arm.exists_runTo_of_le hle inside hrun
  obtain ⟨before, first, _, hbefore, hstep, -⟩ := (Arm.runTo_succ_iff (.bind binding)).1 hafter
  obtain ⟨text, htext, rfl, -⟩ := Statement.run_bind_iff.1 hstep
  refine ⟨before, first, text, hbefore, htext, ?_⟩
  have hlength : before.segments.length = position := by
    rw [(Arm.lengths_of_runTo (by omega) hbefore).1]
    omega
  obtain ⟨others, hothers⟩ := hprefix
  rw [← hothers, List.append_assoc, ← hlength, List.getElem?_append_right (Nat.le_refl _),
    Nat.sub_self]
  rfl

/-- Where a field is shown, this is with its own value. -/
theorem Arm.Shows.own {index : Nat} (h : arm.Shows testing labels values c i (.field index) mode) :
    ∃ v part, values[index]? = some v ∧ c.parts[i]? = some part ∧ part.plain = v.format mode := by
  obtain ⟨position, inside, -, memory, before, content, part, hbefore, hcontent, hc, hformat⟩ := h
  rw [Memory.content?, Arm.values_of_runTo (Nat.le_of_lt inside) hbefore,
    Option.map_eq_some_iff] at hcontent
  obtain ⟨v, hvalue, rfl⟩ := hcontent
  rw [Content.format?, Option.some.injEq] at hformat
  exact ⟨v, part, hvalue, hc, hformat.symm⟩

/-- What is read at a push is shown there. -/
theorem Arm.Reads.shows (h : arm.Reads labels i e mode)
    (hrun : Yields (arm.run testing labels values) c events) :
    arm.Shows testing labels values c i e mode := by
  have inside : ∀ {p}, arm.pushes[i]? = some p → arm.pushAt i < arm.body.length := fun push =>
    (List.getElem?_eq_some_iff.1 (Arm.getElem?_body_iff.2 (.push push))).1
  cases h with
  | direct push reads =>
      obtain ⟨memory, before, part, hbefore, hpart, hc⟩ := Arm.exists_part push hrun
      obtain ⟨text, htext, rfl⟩ := Memory.part_field_iff.1 hpart
      obtain ⟨content, hcontent, hformat⟩ := Memory.content_of_format reads htext
      exact ⟨_, inside push, Nat.le_refl _, memory, before, content, _, hbefore, hcontent, hc,
        hformat⟩
  | @shared _ position b _ push clones binding reads =>
      obtain ⟨memory, before, part, hbefore, hpart, hc⟩ := Arm.exists_part push hrun
      obtain ⟨earlier, first, text, hearlier, htext, hsegment⟩ :=
        Arm.exists_bound binding (Nat.le_of_lt (inside push)) hbefore
      rw [Memory.part_segment clones hsegment] at hpart
      obtain rfl := Except.ok.inj hpart
      obtain ⟨content, hcontent, hformat⟩ := Memory.content_of_format reads htext
      have hle : position ≤ arm.pushAt i := by
        have hlt := (List.getElem?_eq_some_iff.1 binding).1
        rw [Arm.pushAt]
        omega
      exact ⟨position, Nat.lt_of_le_of_lt hle (inside push), hle, earlier, first, content, _,
        hearlier, hcontent, hc, hformat⟩

/-- Wherever the template of a derived type refers to a field, a run shows one thing, which is the
field if and only if the field is not captured, and then its own value is shown. -/
theorem shows_field_unless_captured {d : Declaration} {derivation : Derivation}
    {variant : Option String} {attributes : List Attribute} {fields : Fields}
    (accepted : ofDeclaration d = .ok derivation)
    (shape : d.shape? variant = some (attributes, fields)) :
    ∃ pieces, ∃ arm ∈ derivation.arms, Templated attributes pieces ∧
      ∀ testing values, compose d derivation ⟨variant, values⟩ testing =
          some (arm.run testing fields.labels values) ∧
        ∀ composite events, Yields (arm.run testing fields.labels values) composite events →
          ∀ i use, fields.RefersAt pieces i use →
            ∃ e, (e = .field use.1 ↔ ¬ fields.Captured pieces use) ∧
              arm.Shows testing fields.labels values composite i e use.2 ∧
              (¬ fields.Captured pieces use → ∃ v part, values[use.1]? = some v ∧
                composite.parts[i]? = some part ∧ part.plain = v.format use.2) := by
  obtain ⟨b, pieces, hbelongs, hmem, hcompose⟩ := compose_of_accepted accepted shape
  obtain ⟨path, harm⟩ := hbelongs.arm
  refine ⟨pieces, b.arm, hmem, hbelongs.template, fun testing values => ?_⟩
  refine ⟨hcompose testing values, fun composite events hrun i use refers => ?_⟩
  have hscoped : b.arm.ScopedFor fields pieces := by
    rw [harm]
    exact Reference.scopedFor hbelongs.references
  obtain ⟨e, hreads, hfield⟩ := hscoped.reads i use refers
  have hshows := ((hreads e use.2).2 ⟨rfl, rfl⟩).shows hrun
  refine ⟨e, hfield, hshows, fun free => ?_⟩
  rw [hfield.2 free] at hshows
  exact hshows.own

end Redaction.Derivation
