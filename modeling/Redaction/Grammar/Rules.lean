import Redaction.Declaration.TypeTerm
import Redaction.Grammar.Copying

/-!
# The rules that refer to each other

Types, bounds, computations, patterns and bodies contain each other. The modules of this grammar
say what each of them is made of, given the rules for what is inside; `Rules` holds these rules.
The grammar itself takes the rules to a finite depth, and brackets nest no deeper than a text is
long. Only types and bounds are asked for from outside; the other rules are there for what stands
inside of these.
-/

namespace Redaction

/-- The rules of the grammar, each a copier. -/
structure Rules where
  /-- A type. A plus sign may go on to further bounds, or not. -/
  type (plus : Bool) : Copying TypeTerm
  /-- A bound. -/
  bound : Copying Unit
  /-- A computation. Braces after a path may hold the fields of a value, or not. -/
  computation (fields : Bool) : Copying Unit
  /-- A computation that ends with its block where it can. -/
  unit : Copying Unit
  /-- A pattern. Alternatives may follow, or not. -/
  pattern (alternatives : Bool) : Copying Unit
  /-- What stands in the braces of a block. -/
  body : Copying Unit

namespace Rules

/-- At depth zero everything is copied as it is. -/
def none : Rules where
  type _ := do
    Copying.copyRest
    return .other
  bound := Copying.copyRest
  computation _ := Copying.copyRest
  unit := Copying.copyRest
  pattern _ := Copying.copyRest
  body := Copying.copyRest

/-- A block. -/
def block (rules : Rules) : Copying Unit := Copying.inside rules.body

end Rules

end Redaction
