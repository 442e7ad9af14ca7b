import Redaction.Spec

/-!
# Composable values

Whatever makes a composite can be rendered through it. Composites render themselves; a segment
renders as the composite of nothing else, and so does any value that says no more than which
composite it makes.
-/

namespace Redaction

/-- Values that make a composite, with their renderings. -/
class Composable (α : Type) where
  toComposite : α → Composite
  render : α → Option String → Policy → String := fun a marker policy =>
    (toComposite a).render marker policy
  renderWith : α → Options → String := fun a o => (toComposite a).renderWith o
  renderSpec : α → String → Logged (Except Spec.Error String) := fun a spec =>
    (toComposite a).renderSpec spec

instance : Composable Composite where
  toComposite c := c
  render := Composite.render
  renderWith := Composite.renderWith
  renderSpec := Composite.renderSpec

instance : Composable Segment where
  toComposite := Segment.toComposite

end Redaction
