/-!
# Runs of a case mapping

The characters that a case mapping changes come in runs: every character of the run, or every
other one where capital and small letters alternate, lies at the same distance from its image.
-/

namespace Redaction.Text

/-- The code points `first`, `first + step`, … up to `last`; the first one goes to `image` and
the others keep its distance. -/
structure CaseRun where
  first : Nat
  last : Nat
  step : Nat
  image : Nat
  deriving DecidableEq, Repr

namespace CaseRun

/-- The image of a code point of the run. -/
def imageOf? (r : CaseRun) (n : Nat) : Option Nat :=
  if r.first ≤ n ∧ n ≤ r.last ∧ (n - r.first) % r.step = 0 then
    some (r.image + (n - r.first))
  else
    none

/-- The image of a code point under an ascending list of runs. The search stops at the first run
that ends at or after the code point. -/
def find? : List CaseRun → Nat → Option Nat
  | [], _ => none
  | r :: rs, n => if n ≤ r.last then r.imageOf? n else find? rs n

end CaseRun

end Redaction.Text
