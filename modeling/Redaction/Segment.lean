import Redaction.Identifier
import Redaction.Logged
import Redaction.Text.Inspection
import Redaction.Text.TitleCase

/-!
# Protected segments

A segment holds a sensitive value under a name. It renders as a placeholder unless a policy
reveals it; the placeholder shows the name in title case, or nothing but the fact of the redaction
when the segment has no name or keeps it hidden.

A name may be any text. One that is not an identifier cannot be listed in a format spec, so
building a segment under it logs a warning. A segment without a name is built silently.
-/

namespace Redaction

/-- A sensitive value, the name under which policies reveal it (empty for none), and whether the
placeholder keeps that name to itself. -/
structure Segment where
  value : String
  name : String
  nameHidden : Bool
  deriving DecidableEq, Repr

namespace Segment

/-- A segment without a name. -/
def anonymous (value : String) : Segment := ⟨value, "", false⟩

/-- The advice about the name: there is one when the name is neither empty nor an identifier. -/
def nameWarning? (s : Segment) : Option NameWarning :=
  if s.name = "" ∨ isIdentifier s.name then none else some ⟨s.name⟩

/-- A segment under a name. Advice about the name is logged. -/
def named (value name : String) : Logged Segment :=
  let segment : Segment := ⟨value, name, false⟩
  match segment.nameWarning? with
  | none => pure segment
  | some warning => do
    Logged.emit (.unlistableName warning)
    pure segment

/-- Keeps the name out of the placeholder; policies still go by it. -/
def hideName (s : Segment) : Segment := { s with nameHidden := true }

/-- The segment with its name kept out of the placeholder if `hidden` says so. -/
def hideNameIf (hidden : Bool) (s : Segment) : Segment := if hidden then s.hideName else s

/-- What stands in for the value of a hidden segment. It does not depend on the value. -/
def placeholder (s : Segment) : String :=
  if s.name = "" ∨ s.nameHidden then "<Redacted>"
  else "<Redacted " ++ Text.titleCase s.name ++ ">"

open Text in
/-- The inspection of a segment, with `value` in the place of its value. -/
def inspectWith (value : Inspection) (s : Segment) : Inspection :=
  .record "ProtectedSegment"
    [("value", value), ("name", .text s.name), ("hide_name", .flag s.nameHidden)]

/-- Inspection shows the placeholder and not the value. -/
def inspect (s : Segment) : Text.Inspection := s.inspectWith (.verbatim s.placeholder)

/-- The inspection for tests, which shows the value. -/
def inspectRevealed (s : Segment) : Text.Inspection := s.inspectWith (.text s.value)

@[simp] theorem value_named (value name : String) :
    (named value name).value = ⟨value, name, false⟩ := by
  dsimp only [named]
  split <;> rfl

/-- Building a segment logs its advice about the name and nothing else. -/
theorem events_named (value name : String) :
    (named value name).events =
      ((named value name).value.nameWarning?.toList.map Event.unlistableName) := by
  rw [value_named]
  dsimp only [named]
  split <;> rename_i h <;> simp [h]

@[simp] theorem value_hideName (s : Segment) : s.hideName.value = s.value := rfl

@[simp] theorem name_hideName (s : Segment) : s.hideName.name = s.name := rfl

@[simp] theorem nameHidden_hideName (s : Segment) : s.hideName.nameHidden = true := rfl

@[simp] theorem value_hideNameIf (hidden : Bool) (s : Segment) :
    (s.hideNameIf hidden).value = s.value := by
  cases hidden <;> rfl

@[simp] theorem name_hideNameIf (hidden : Bool) (s : Segment) :
    (s.hideNameIf hidden).name = s.name := by
  cases hidden <;> rfl

@[simp] theorem hideNameIf_mk (value name : String) (hidden : Bool) :
    (⟨value, name, false⟩ : Segment).hideNameIf hidden = ⟨value, name, hidden⟩ := by
  cases hidden <;> rfl

/-- A segment under a name carries a warning exactly when the name is no identifier. -/
theorem nameWarning?_isSome_iff {s : Segment} (named : s.name ≠ "") :
    s.nameWarning?.isSome = true ↔ ¬ isIdentifier s.name = true := by
  by_cases identifier : isIdentifier s.name = true
  · simp [Segment.nameWarning?, identifier]
  · simp [Segment.nameWarning?, identifier, named]

theorem nameWarning?_eq_none {s : Segment} (unnamed : s.name = "") :
    s.nameWarning? = none := by
  simp [Segment.nameWarning?, unnamed]

end Segment

end Redaction
