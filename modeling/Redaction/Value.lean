import Redaction.Template
import Redaction.Text.Quoted

/-!
# Values of fields

The fields of a value hold texts, whole numbers and truth values, and, where they are only
inspected, optional values and lists. A text is displayed as it is and inspected in quotes; numbers
and truth values look the same both ways, and so do optional values and lists, which have no other
form than the inspected one. A value of any other type says itself how it is displayed and how it
is inspected, and nothing else of it matters here.
-/

namespace Redaction

/-- The value of a field. -/
inductive Value where
  | text (s : String)
  | integer (n : Int)
  | flag (b : Bool)
  | absent
  | present (v : Value)
  | list (vs : List Value)
  | foreign (displayed inspected : String)
  deriving Repr

namespace Value

mutual

/-- The value as it is inspected. -/
def debug : Value → String
  | .text s => Text.quoted s
  | .integer n => toString n
  | .flag b => if b then "true" else "false"
  | .absent => "None"
  | .present v => "Some(" ++ v.debug ++ ")"
  | .list vs => "[" ++ ", ".intercalate (debugAll vs) ++ "]"
  | .foreign _ inspected => inspected

/-- The values of a list as they are inspected. -/
def debugAll : List Value → List String
  | [] => []
  | v :: vs => v.debug :: debugAll vs

end

/-- The value as it is displayed. -/
def display : Value → String
  | .text s => s
  | .foreign displayed _ => displayed
  | v => v.debug

/-- The value in a mode of formatting. -/
def format (v : Value) : Template.Mode → String
  | .display => v.display
  | .debug => v.debug

end Value

end Redaction
