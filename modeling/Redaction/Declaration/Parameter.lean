/-!
# Generic parameters

A generic parameter is a lifetime, a constant or a type. A type parameter has bounds. Constants and
types may have a default.
-/

namespace Redaction

/-- A generic parameter of a declaration. Bounds are kept in settled form and without spaces. The
text of a constant is its name and its type. -/
inductive Parameter where
  | lifetime (text : String)
  | constant (text : String) (default : Option String)
  | type (name : String) (bounds : List String) (default : Option String)
  deriving DecidableEq, Repr

end Redaction
