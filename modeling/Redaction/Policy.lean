import Redaction.NameSet
import Redaction.Segment

/-!
# Reveal policies

A policy decides for one segment at a time whether its value may be shown. It can reveal nothing,
everything, the segments whose name is in a set, or the segments that pass a test; the test may
look at the whole segment, its value included. What stands in for a hidden value is no part of the
decision.
-/

namespace Redaction

/-- The decision which segments show their values. -/
inductive Policy where
  | nothing
  | everything
  | names (set : NameSet)
  | predicate (test : Segment → Bool)

namespace Policy

/-- The segment may show its value. A hidden name counts as much as any other, and a segment
without a name is revealed only by a set that holds the empty text. -/
def allows : Policy → Segment → Bool
  | .nothing, _ => false
  | .everything, _ => true
  | .names set, s => decide (s.name ∈ set)
  | .predicate test, s => test s

/-- The policy that reveals the segments with any of the names. -/
def ofNames (names : List String) : Policy := .names (NameSet.ofList names)

open Text in
/-- The inspection of a policy. A test has no text of its own. -/
def inspect : Policy → Inspection
  | .nothing => .verbatim "Nothing"
  | .everything => .verbatim "Everything"
  | .names set => .call "Names" [.set (set.toList.map .text)]
  | .predicate _ => .verbatim "Predicate(..)"

@[simp] theorem allows_nothing (s : Segment) : nothing.allows s = false := rfl

@[simp] theorem allows_everything (s : Segment) : everything.allows s = true := rfl

@[simp] theorem allows_names (set : NameSet) (s : Segment) :
    (names set).allows s = decide (s.name ∈ set) := rfl

@[simp] theorem allows_ofNames (names : List String) (s : Segment) :
    (ofNames names).allows s = decide (s.name ∈ names) := by
  simp [ofNames]

end Policy

end Redaction
