import Redaction.Attribute
import Redaction.Declaration.Parameter
import Redaction.Declaration.TypeTerm

/-!
# Type declarations

A derivation starts from the declaration of a type: a structure with fields, an enumeration with
variants that have fields, or a union. Fields have names or stand in a tuple. Attributes are kept
as written; what they mean is up to the derivation.
-/

namespace Redaction

/-- The type and the attributes of a field. -/
structure Field where
  type : TypeTerm := .named "String"
  attributes : List Attribute := []

/-- The fields of a structure or variant, in order. -/
inductive Fields where
  | named (fields : List (String × Field))
  | tuple (fields : List Field)
  | unit

/-- A variant of an enumeration. -/
structure Variant where
  name : String
  attributes : List Attribute
  fields : Fields

/-- What is declared. The fields of a union play no part. -/
inductive Declaration.Body where
  | structure (fields : Fields)
  | enumeration (variants : List Variant)
  | union

/-- The declaration of a type. -/
structure Declaration where
  name : String
  attributes : List Attribute
  parameters : List Parameter
  body : Declaration.Body

namespace Fields

/-- The names of the fields as they are written; fields of a tuple have none. -/
def labels : Fields → List String
  | .named fields => fields.map (·.1)
  | .tuple _ => []
  | .unit => []

end Fields

end Redaction
