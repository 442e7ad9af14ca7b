import Redaction.Segment

/-!
# Segments written out

A form writes a segment out as data: its value, its name if it has one, and whether the name stays
out of the placeholder. Building the segment is what logs the warning about its name.
-/

namespace Redaction

/-- A segment written out. A name that is given may be empty. -/
structure SegmentForm where
  value : String
  name : Option String := none
  hidden : Bool := false
  deriving DecidableEq, Repr

/-- Builds the segment that the form writes out. -/
def SegmentForm.build (form : SegmentForm) : Logged Segment := do
  let segment ←
    match form.name with
    | none => pure (Segment.anonymous form.value)
    | some name => Segment.named form.value name
  return segment.hideNameIf form.hidden

/-- The segment that a form writes out, apart from the warning about its name. A form without a
name writes out the segment with the empty one. -/
@[simp] theorem SegmentForm.value_build (form : SegmentForm) :
    form.build.value = ⟨form.value, form.name.getD "", form.hidden⟩ := by
  obtain ⟨value, name, hidden⟩ := form
  cases name with
  | none => exact Segment.hideNameIf_mk value "" hidden
  | some name =>
      change (Segment.named value name).value.hideNameIf hidden = ⟨value, name, hidden⟩
      rw [Segment.value_named, Segment.hideNameIf_mk]

end Redaction
