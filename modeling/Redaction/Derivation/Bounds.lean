import Redaction.Derivation.Slot

/-!
# Bounds of type parameters

Formatting a field needs its type to be formattable. Every type parameter that occurs in the type
of a field in use gets a bound for the mode in which the field is used. Bounds that are declared
stay in front; defaults are dropped, because only the declaration may have them.
-/

namespace Redaction.Derivation

namespace Bounds

/-- The bound that a mode of formatting needs. -/
def bound : Template.Mode → String
  | .display => "::core::fmt::Display"
  | .debug => "::core::fmt::Debug"

/-- The names that the field of a reference mentions, if it is formatted in the given mode. -/
def mentions (mode : Template.Mode) : Reference → List String
  | .literal _ => []
  | .field _ slot m => if m = mode then slot.type.mentions else []

/-- A parameter with the bounds that references need. -/
def extend (references : List Reference) : Parameter → Parameter
  | .type name bounds _ =>
    let needed := [Template.Mode.display, .debug].filter fun mode =>
      decide (name ∈ references.flatMap (mentions mode))
    .type name (bounds ++ needed.map bound) none
  | .constant text _ => .constant text none
  | .lifetime text => .lifetime text

end Bounds

end Redaction.Derivation
