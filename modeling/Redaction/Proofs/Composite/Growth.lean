import Mathlib.Algebra.Ring.Nat
import Mathlib.Logic.Relation
import Redaction.Proofs.Similarity

/-!
# How composites grow

However an operand is added to a composite, the parts that are there stay in front and the parts of
the operand follow them, as many as the operand counts. So adding is associative, and the composite
without parts is neutral.

A composite remembers where one text ends and the next begins, but no rendering shows it: cutting a
text in two, joining two neighbours, or putting an empty text anywhere changes the parts and no
text that is made of them.
-/

namespace Redaction

namespace Composite

theorem ext_parts {c d : Composite} (h : c.parts = d.parts) : c = d := by
  cases c
  cases d
  exact congrArg Composite.mk h

/-- The composite has grown by the addend: what was there comes first and is unchanged, and then
come the parts of the addend, as many as it counts. -/
structure GrownBy (c : Composite) (x : Addend) (grown : Composite) : Prop where
  kept : grown.parts.take c.parts.length = c.parts
  added : grown.parts.drop c.parts.length = x.parts
  length : grown.parts.length = c.parts.length + x.count

theorem GrownBy.of_parts {c grown : Composite} {x : Addend}
    (h : grown.parts = c.parts ++ x.parts) : c.GrownBy x grown where
  kept := by rw [h, List.take_left]
  added := by rw [h, List.drop_left]
  length := by rw [h, List.length_append, x.length_parts]

theorem grownBy_concat (c : Composite) (x : Addend) : c.GrownBy x (c.concat x) :=
  .of_parts (parts_concat c x)

theorem grownBy_extend (c : Composite) (x : Addend) : c.GrownBy x (c.extend x) :=
  .of_parts (parts_extend c x)

theorem grownBy_add (c : Composite) (x : Addend) : c.GrownBy x (c + x) :=
  .of_parts (parts_add c x)

theorem grownBy_push (c : Composite) (p : Part) : c.GrownBy (.part p) (c.push p) :=
  .of_parts (parts_push c p)

/-- The counts of the operands add up. -/
theorem length_ofAddends (xs : List Addend) :
    (ofAddends xs).parts.length = (xs.map Addend.count).sum := by
  have hcounts : xs.map (fun x => x.parts.length) = xs.map Addend.count :=
    List.map_congr_left fun x _ => x.length_parts
  rw [parts_ofAddends, List.length_flatMap, hcounts]

theorem concat_assoc (a b : Composite) (x : Addend) :
    (a.concat b).concat x = a.concat (b.concat x) :=
  ext_parts (List.append_assoc a.parts b.parts x.parts)

theorem empty_concat (c : Composite) : empty.concat c = c := ext_parts (List.nil_append c.parts)

theorem concat_empty (c : Composite) : c.concat empty = c := ext_parts (List.append_nil c.parts)

/-- The text of a composite under any marker and policy is the texts of its parts in order. -/
theorem render_eq_join (c : Composite) (marker : Option String) (policy : Policy) :
    c.render marker policy = String.join (c.parts.map (Part.render marker policy)) := rfl

end Composite

/-- The second list of parts differs from the first by one text that is cut in two, or by one empty
text that is put in. -/
inductive Part.Recut : List Part → List Part → Prop where
  | cut (before after : List Part) (s t : String) :
      Recut (before ++ .text (s ++ t) :: after) (before ++ .text s :: .text t :: after)
  | insert (before after : List Part) : Recut (before ++ after) (before ++ .text "" :: after)

namespace Part.Recut

variable {ps qs : List Part}

theorem renderParts_eq (h : Part.Recut ps qs) (marker : Option String) (policy : Policy) :
    renderParts ps marker policy = renderParts qs marker policy := by
  cases h with
  | cut before after s t =>
      simp only [renderParts_append, renderParts_cons, Part.render, String.append_assoc]
  | insert before after =>
      simp only [renderParts_append, renderParts_cons, Part.render, String.empty_append]

theorem plain_eq (h : Part.Recut ps qs) :
    String.join (ps.map Part.plain) = String.join (qs.map Part.plain) := by
  cases h with
  | cut before after s t => simp [Part.plain, String.append_assoc]
  | insert before after => simp [Part.plain]

end Part.Recut

/-- Lists of parts that differ in the borders between texts, and in empty texts, only. -/
def Part.SameButCuts : List Part → List Part → Prop := Relation.EqvGen Part.Recut

/-- What no cut changes is the same for parts that differ in cuts only. -/
theorem Part.SameButCuts.eq_of_recut {α : Type} {f : List Part → α}
    (step : ∀ ps qs, Part.Recut ps qs → f ps = f qs) {ps qs : List Part}
    (h : Part.SameButCuts ps qs) : f ps = f qs := by
  induction h with
  | rel ps qs h => exact step ps qs h
  | refl ps => rfl
  | symm ps qs _ ih => exact ih.symm
  | trans ps qs rs _ _ ih ih' => exact ih.trans ih'

/-- Composites that differ in cuts only have the same renderings under all options. -/
theorem Composite.sameUnder_of_sameButCuts {c d : Composite}
    (h : Part.SameButCuts c.parts d.parts) (o : Options) : c.SameUnder o d := by
  have hparts : renderParts c.parts o.marker o.policy = renderParts d.parts o.marker o.policy :=
    h.eq_of_recut fun _ _ recut => recut.renderParts_eq o.marker o.policy
  exact .of_renderParts hparts

theorem Composite.plain_eq_of_sameButCuts {c d : Composite}
    (h : Part.SameButCuts c.parts d.parts) : c.plain = d.plain :=
  h.eq_of_recut fun _ _ recut => recut.plain_eq

end Redaction
