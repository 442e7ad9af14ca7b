import Redaction.Composite
import Redaction.Options
import Redaction.Text.JsonString

/-!
# Rendering

A composite renders part by part. Plain text is copied whatever the policy and the marker are. A
segment that the policy allows shows its value; any other segment shows the marker, or its own
placeholder where there is no marker.

Everything that leaves the program goes through this one function. The default text of a composite
reveals nothing and has no marker; a `View` carries options with it. Serialization writes the same
text as a JSON string, and structured logging passes it on under a key.
-/

namespace Redaction

/-- The text that a segment contributes. -/
def Segment.render (s : Segment) (marker : Option String) (policy : Policy) : String :=
  if policy.allows s then s.value
  else
    match marker with
    | some m => m
    | none => s.placeholder

/-- The text that a part contributes. -/
def Part.render (marker : Option String) (policy : Policy) : Part → String
  | .text t => t
  | .segment s => s.render marker policy

/-- The texts of the parts, one after another. -/
def renderParts (parts : List Part) (marker : Option String) (policy : Policy) : String :=
  String.join (parts.map (Part.render marker policy))

namespace Composite

/-- The text of a composite under a marker and a policy. -/
def render (c : Composite) (marker : Option String) (policy : Policy) : String :=
  renderParts c.parts marker policy

/-- The text of a composite under options. -/
def renderWith (c : Composite) (o : Options) : String := c.render o.marker o.policy

/-- The default text: nothing is revealed and there is no marker. -/
def display (c : Composite) : String := renderParts c.parts none .nothing

/-- The text of addends without building their composite first. -/
def join (xs : List Addend) (marker : Option String) (policy : Policy) : String :=
  (ofAddends xs).render marker policy

/-- The default text as a JSON string. -/
def serialize (c : Composite) : String := Text.jsonString c.display

/-- The key and text under which structured logging passes a composite on. -/
def logEntry (c : Composite) (key : String) : String × String := (key, c.display)

end Composite

namespace Segment

/-- A segment renders like the composite of nothing else. -/
def toComposite (s : Segment) : Composite := .ofAddend s

/-- The default text of a segment is its placeholder. -/
def display (s : Segment) : String := s.placeholder

/-- The default text as a JSON string. -/
def serialize (s : Segment) : String := Text.jsonString s.display

/-- The key and text under which structured logging passes a segment on. -/
def logEntry (s : Segment) (key : String) : String × String := (key, s.display)

end Segment

/-- The parts of a composite together with the options under which they are shown. -/
structure View where
  parts : List Part
  options : Options

/-- A composite seen through options. -/
def Composite.view (c : Composite) (o : Options) : View := ⟨c.parts, o⟩

namespace View

/-- The text of a view. -/
def display (v : View) : String := renderParts v.parts v.options.marker v.options.policy

/-- The text of a view as a JSON string. -/
def serialize (v : View) : String := Text.jsonString v.display

/-- The key and text under which structured logging passes a view on. -/
def logEntry (v : View) (key : String) : String × String := (key, v.display)

open Text in
/-- The inspection of a view shows placeholders, whatever its options reveal. -/
def inspect (v : View) : Inspection :=
  .record "Rendered"
    [("parts", .list (v.parts.map (·.inspectWith Segment.inspect))),
      ("options", v.options.inspect)]

end View

/-- Where the policy allows a segment, its value shows and the marker does not count. -/
theorem Segment.render_of_allows {s : Segment} {policy : Policy} (h : policy.allows s = true)
    (marker : Option String) : s.render marker policy = s.value := by
  simp [Segment.render, h]

@[simp] theorem renderParts_nil (marker : Option String) (policy : Policy) :
    renderParts [] marker policy = "" := by
  simp [renderParts]

@[simp] theorem renderParts_cons (p : Part) (ps : List Part) (marker : Option String)
    (policy : Policy) :
    renderParts (p :: ps) marker policy = p.render marker policy ++ renderParts ps marker policy := by
  simp [renderParts]

@[simp] theorem renderParts_append (ps qs : List Part) (marker : Option String)
    (policy : Policy) :
    renderParts (ps ++ qs) marker policy =
      renderParts ps marker policy ++ renderParts qs marker policy := by
  simp [renderParts]

end Redaction
