import Redaction.Policy

/-!
# Render options

A marker and a policy together decide how a composite renders. The marker, if there is one, stands
in for every hidden segment; without a marker each hidden segment shows its own placeholder. The
empty text is a marker too: it hides that anything was there.
-/

namespace Redaction

/-- The marker for hidden segments and the policy that says which are hidden. -/
structure Options where
  marker : Option String := none
  policy : Policy := .nothing

namespace Options

/-- Uses the marker for every hidden segment. -/
def withMarker (o : Options) (marker : String) : Options := { o with marker := some marker }

/-- Replaces the policy. -/
def withPolicy (o : Options) (policy : Policy) : Options := { o with policy := policy }

/-- Reveals exactly the segments with any of the names. -/
def allowNames (o : Options) (names : List String) : Options := o.withPolicy (.ofNames names)

open Text in
/-- The inspection of options. -/
def inspect (o : Options) : Inspection :=
  .record "RenderOptions"
    [("marker", .optional (o.marker.map .text)), ("allow", o.policy.inspect)]

end Options

end Redaction
