import Redaction.Attribute
import Redaction.Text.Trim

/-!
# Templates in documentation

A declaration or variant without a template of its own takes its documentation for one. Every line
of documentation is an attribute `doc` with a text; blanks in front of a line and around the whole
are no part of the template.
-/

namespace Redaction.Doc

/-- The text of a line of documentation, without the blanks in front of it. -/
def line? (a : Attribute) : Option (List Char) :=
  match a.form with
  | .value (.text value) => if a.path = "doc" then some (Text.trimStart value.toList) else none
  | _ => none

/-- The lines of documentation among the attributes. -/
def lines (attributes : List Attribute) : List (List Char) := attributes.filterMap line?

/-- The template that the documentation makes, if there is any documentation. -/
def template? (attributes : List Attribute) : Option String :=
  match lines attributes with
  | [] => none
  | ls => some (String.ofList (Text.trim (['\n'].intercalate ls)))

end Redaction.Doc
