import Redaction.Segment

/-!
# Composites

A composite is a sequence of parts, each plain text or a protected segment. It grows at the end:
whatever is added contributes its parts in order after those already there, and those stay as they
are. Neighbouring texts are not merged, so a composite remembers how it was put together even
where no rendering can tell.

An `Addend` is anything that can be added. `concat` joins the parts at once, `extend` adds them
one after another; `+` is `extend`.
-/

namespace Redaction

/-- One element of a composite. -/
inductive Part where
  | text (text : String)
  | segment (segment : Segment)
  deriving DecidableEq, Repr

/-- A sequence of plain texts and protected segments. -/
structure Composite where
  parts : List Part
  deriving DecidableEq, Repr

/-- What can be added to a composite. -/
inductive Addend where
  | text (text : String)
  | segment (segment : Segment)
  | part (part : Part)
  | composite (composite : Composite)
  deriving DecidableEq, Repr

namespace Part

/-- The segment of a protected part. -/
def segment? : Part → Option Segment
  | .text _ => none
  | .segment s => some s

/-- The text itself, or the value of the segment. -/
def plain : Part → String
  | .text t => t
  | .segment s => s.value

open Text in
/-- The inspection of a part, given the inspection of segments. -/
def inspectWith (segment : Segment → Inspection) : Part → Inspection
  | .text t => .call "Text" [.text t]
  | .segment s => .call "Protected" [segment s]

end Part

namespace Addend

instance : Coe String Addend := ⟨.text⟩

instance : Coe Segment Addend := ⟨.segment⟩

instance : Coe Part Addend := ⟨.part⟩

instance : Coe Composite Addend := ⟨.composite⟩

/-- The parts that an addend contributes, in order. Texts and segments are one part each, the
empty text too. -/
def parts : Addend → List Part
  | .text t => [.text t]
  | .segment s => [.segment s]
  | .part p => [p]
  | .composite c => c.parts

/-- The number of parts that an addend contributes. -/
def count : Addend → Nat
  | .text _ => 1
  | .segment _ => 1
  | .part _ => 1
  | .composite c => c.parts.length

theorem length_parts (x : Addend) : x.parts.length = x.count := by
  cases x <;> rfl

end Addend

namespace Composite

/-- The composite without parts. -/
def empty : Composite := ⟨[]⟩

/-- One more part at the end. -/
def push (c : Composite) (p : Part) : Composite := ⟨c.parts ++ [p]⟩

/-- The parts of a composite followed by those of an addend. -/
def concat (c : Composite) (x : Addend) : Composite := ⟨c.parts ++ x.parts⟩

/-- The composite with the parts of an addend pushed one after another. -/
def extend (c : Composite) (x : Addend) : Composite := x.parts.foldl push c

/-- The composite of everything that the addends contribute. -/
def ofAddends (xs : List Addend) : Composite := xs.foldl extend empty

/-- The composite of a single addend. -/
def ofAddend (x : Addend) : Composite := ofAddends [x]

/-- A text at the end: protected under the name, with the name hidden or shown, or plain when the
name is empty. -/
def append (c : Composite) (text name : String) (hidden : Bool) : Logged Composite :=
  if name = "" then pure (c.push (.text text))
  else do
    let segment ← Segment.named text name
    pure (c.push (.segment (segment.hideNameIf hidden)))

instance : HAdd Composite Addend Composite := ⟨extend⟩

instance : HAdd Segment Addend Composite := ⟨fun s x => (ofAddend s).concat x⟩

instance : HAdd String Addend Composite := ⟨fun t x => ofAddend t + x⟩

/-- The protected segments of a composite, in order. -/
def segments (c : Composite) : List Segment := c.parts.filterMap Part.segment?

/-- The text with every value revealed. -/
def plain (c : Composite) : String := String.join (c.parts.map Part.plain)

open Text in
/-- The inspection of a composite, given the inspection of segments. -/
def inspectWith (segment : Segment → Inspection) (c : Composite) : Inspection :=
  .record "Composite" [("parts", .list (c.parts.map (·.inspectWith segment)))]

/-- Inspection shows placeholders and no values. -/
def inspect (c : Composite) : Text.Inspection := c.inspectWith Segment.inspect

/-- The inspection for tests, which shows the values. -/
def inspectRevealed (c : Composite) : Text.Inspection := c.inspectWith Segment.inspectRevealed

@[simp] theorem parts_empty : empty.parts = [] := rfl

@[simp] theorem parts_push (c : Composite) (p : Part) : (c.push p).parts = c.parts ++ [p] := rfl

@[simp] theorem parts_concat (c : Composite) (x : Addend) :
    (c.concat x).parts = c.parts ++ x.parts := rfl

theorem parts_foldl_push (ps : List Part) (c : Composite) :
    (ps.foldl push c).parts = c.parts ++ ps := by
  induction ps generalizing c with
  | nil => simp
  | cons p ps ih => simp [ih]

@[simp] theorem parts_extend (c : Composite) (x : Addend) :
    (c.extend x).parts = c.parts ++ x.parts := parts_foldl_push x.parts c

@[simp] theorem parts_add (c : Composite) (x : Addend) : (c + x).parts = c.parts ++ x.parts :=
  parts_extend c x

theorem parts_foldl_extend (xs : List Addend) (c : Composite) :
    (xs.foldl extend c).parts = c.parts ++ xs.flatMap Addend.parts := by
  induction xs generalizing c with
  | nil => simp
  | cons x xs ih => simp [ih]

@[simp] theorem parts_ofAddends (xs : List Addend) :
    (ofAddends xs).parts = xs.flatMap Addend.parts := by
  simp [ofAddends, parts_foldl_extend]

@[simp] theorem parts_ofAddend (x : Addend) : (ofAddend x).parts = x.parts := by
  simp [ofAddend]

@[simp] theorem parts_segment_add (s : Segment) (x : Addend) :
    (s + x).parts = .segment s :: x.parts := by
  change ((ofAddend (.segment s)).concat x).parts = _
  rw [parts_concat, parts_ofAddend]
  rfl

@[simp] theorem parts_text_add (t : String) (x : Addend) : (t + x).parts = .text t :: x.parts := by
  change (ofAddend (.text t) + x).parts = _
  rw [parts_add, parts_ofAddend]
  rfl

/-- Appending adds one part: a segment under a name, and a text without one. A text has no name
that could be hidden. -/
@[simp] theorem parts_append (c : Composite) (text name : String) (hidden : Bool) :
    (c.append text name hidden).value.parts =
      c.parts ++ [if name = "" then .text text else .segment ⟨text, name, hidden⟩] := by
  rw [append]
  by_cases unnamed : name = ""
  · rw [if_pos unnamed, if_pos unnamed]
    rfl
  · rw [if_neg unnamed, if_neg unnamed, Logged.value_bind, Segment.value_named,
      Logged.value_pure, Segment.hideNameIf_mk, parts_push]

end Composite

end Redaction
