import Redaction.Spec

/-!
# Options written out

A form writes render options out as data: as a format spec, or as settings made one after another
on options that hide everything and have no marker. A later setting replaces an earlier one of the
same kind; markers and policies do not disturb each other. Only a format spec can be rejected.
-/

namespace Redaction

/-- One setting of render options. -/
inductive Setting where
  | marker (marker : String)
  | names (names : List String)
  | policy (policy : Policy)

/-- Render options written out. -/
inductive OptionsForm where
  | spec (spec : String)
  | settings (settings : List Setting)

/-- Makes one setting. -/
def Setting.apply (o : Options) : Setting → Options
  | .marker m => o.withMarker m
  | .names ns => o.allowNames ns
  | .policy p => o.withPolicy p

/-- The options that the form writes out, unless its format spec is rejected. -/
def OptionsForm.read : OptionsForm → Logged (Except Spec.Error Options)
  | .spec s => Spec.read s
  | .settings calls => pure (.ok (calls.foldl Setting.apply {}))

end Redaction
