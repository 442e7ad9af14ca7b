/-!
# Types of fields

The type of a field matters only for the type parameters that occur in it. A type is a path with
generic arguments, or is built from other types. Arguments that are lifetimes or constants are
terms too, and mention nothing; types of functions, pointers and trait objects are not taken apart.
-/

namespace Redaction

/-- Where a path starts: at a name in scope, at the root, or inside a type in angles. -/
inductive TypeTerm.Start where
  | scope
  | root
  | type
  deriving DecidableEq, Repr

/-- A type, or another generic argument of a type. -/
inductive TypeTerm where
  | path (start : TypeTerm.Start) (names : List String) (args : List TypeTerm)
  | reference (target : TypeTerm)
  | paren (inner : TypeTerm)
  | slice (element : TypeTerm)
  | array (element : TypeTerm)
  | tuple (elements : List TypeTerm)
  | lifetime (name : String)
  | constant
  | other
  deriving Repr

namespace TypeTerm

/-- A name without generic arguments. -/
def named (name : String) : TypeTerm := .path .scope [name] []

/-- A name with generic arguments. -/
def applied (name : String) (args : List TypeTerm) : TypeTerm := .path .scope [name] args

/-- The marker type, whose arguments are never formatted. -/
def phantom : String := "PhantomData"

mutual

/-- The names that a type mentions where formatting it would format a value of that type: the last
word of every path, inside arguments, references and parentheses, but not inside the marker type.
Slices, arrays and tuples are not looked into. -/
def mentions : TypeTerm → List String
  | .path _ names args =>
    match names.getLast? with
    | none => []
    | some last => if last = phantom then [] else mentionsAll args ++ [last]
  | .reference target => mentions target
  | .paren inner => mentions inner
  | .slice _ => []
  | .array _ => []
  | .tuple _ => []
  | .lifetime _ => []
  | .constant => []
  | .other => []

/-- The names that the terms of a list mention. -/
def mentionsAll : List TypeTerm → List String
  | [] => []
  | t :: ts => mentions t ++ mentionsAll ts

end

end TypeTerm

end Redaction
