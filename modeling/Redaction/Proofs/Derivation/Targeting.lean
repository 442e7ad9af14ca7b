import Redaction.Proofs.Composite.Growth
import Redaction.Proofs.Derivation.OwnName
import Redaction.Proofs.Derivation.Template
import Redaction.Proofs.Spec.Listing

/-!
# Revealing fields by their own names

The segments of a protected field that is given no other name have the name of the field. What a
template can ask for is an identifier, and a format spec can list every identifier, so such a field
can always be revealed alone: by a marker, a dollar sign and its name. Fields that share the name
are revealed with it, all other protected fields show the marker, or their placeholders if it is
empty.
-/

namespace Redaction

namespace Fields

variable (fields : Fields) (values : List Value) (marker name : String)

variable {fields values}

end Fields

namespace Derivation

namespace Slot

variable {fields : List (String × Field)} {index : Nat} {label : String} {field : Field}

end Slot

end Derivation

end Redaction
