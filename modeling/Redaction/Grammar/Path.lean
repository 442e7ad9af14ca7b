import Redaction.Grammar.Attribute

/-!
# Paths and their arguments

A path is made of names with double colons between them. It may start at the root, or inside a
type that stands in angles. A name may have generic arguments in angles: directly after the name
in a type, after a double colon in a computation, where an angle alone would compare.

Settled form: lifetimes come first among the arguments, and every argument but the last is followed
by a comma; a last one that has moved forward leaves a comma behind. A name that is applied to types
in parentheses has neither a double colon nor empty angles in front of them.
-/

namespace Redaction.Grammar

open Copying

/-- A path: where it starts, its names, and the generic arguments of the last one, if it has any. -/
structure Path where
  start : TypeTerm.Start
  names : List String
  arguments : Option (List TypeTerm)

namespace Path

/-- The type that a path names. -/
def term (p : Path) : TypeTerm := .path p.start p.names (p.arguments.getD [])

end Path

/-- Bounds with plus signs between them come next: something that can open one. -/
def nextBound : Copying Bool := do
  let opens := fun p : Phrase =>
    p.isLifetime || p.word?.any (· ∉ ["as", "where"]) || p.isMark '?' || p.isMark '~' ||
      p.isBracket '(' || p.isBracket '['
  return (← next opens) || (← nextMarks "::")

/-- Bounds with plus signs between them, possibly none. -/
def bounds (rules : Rules) : Copying Unit :=
  repeated do
    unless ← nextBound do return false
    rules.bound
    copyMarks "+"

/-- A constant as it stands among generic arguments: written out, or computed in braces. -/
def constantArgument (rules : Rules) : Copying Bool := do
  if ← next (·.isBracket '\x7b') then
    rules.block
    return true
  if (← next (·.isMark '-')) && (← ahead 1 (·.isNumber)) then
    copy 2
    return true
  copyIf (·.isConstant)

/-- The lifetime that comes next, by its name. -/
def nextLifetime : Copying (Option String) := do
  match ← remaining with
  | .single ⟨.lifetime name, _, _⟩ :: _ => return some name
  | _ => return none

/-- A generic argument, and whether it is a lifetime. Arguments about associated types say what
the type equals or what bounds it; they are no terms. -/
def argument (rules : Rules) : Copying (Bool × Option TypeTerm) := do
  if let some name ← nextLifetime then
    unless ← ahead 1 (·.isMark '+') do
      copy 1
      return (true, some (.lifetime name))
  if ← constantArgument rules then return (false, some .constant)
  let term ← rules.type true
  if ← copyMarks "=" then
    unless ← constantArgument rules do discard <| rules.type true
    return (false, none)
  if ← copyMarks ":" then
    bounds rules
    return (false, none)
  return (false, some term)

/-- Generic arguments in angles. -/
def arguments (rules : Rules) : Copying (List TypeTerm) :=
  return (← angles (argument rules)).filterMap id

/-- Types in parentheses come next, after a double colon or directly. -/
def applies (ps : List Phrase) : Bool :=
  ps.head?.any (·.isBracket '(') ||
    (Phrase.beginWith [':', ':'] ps && ps[2]?.any (·.isBracket '('))

/-- The number of phrases in empty angles in front of types in parentheses. -/
def emptyAngles (ps : List Phrase) : Nat :=
  let colons := if Phrase.beginWith [':', ':'] ps then 2 else 0
  match ps.drop colons with
  | opening :: closing :: rest =>
    if opening.isMark '<' && closing.isMark '>' && applies rest then colons + 2 else 0
  | _ => 0

/-- A name of a path with its generic arguments. -/
def segment (rules : Rules) (computed : Bool) : Copying (String × Option (List TypeTerm)) := do
  let name := ((← remaining).head?.bind (·.word?)).getD ""
  copy 1
  if computed then
    unless (← nextMarks "::") && (← ahead 2 (·.isMark '<')) do return (name, none)
    copy 2
    return (name, some (← arguments rules))
  let empty := emptyAngles (← remaining)
  if empty > 0 then
    skip empty
    return (name, none)
  if (← nextMarks "::") && (← ahead 2 (·.isMark '<')) then
    copy 2
    return (name, some (← arguments rules))
  if (← nextMarks "<") && !(← nextMarks "<=") then
    return (name, some (← arguments rules))
  return (name, none)

/-- The names that continue a path. -/
def continued (rules : Rules) (computed : Bool) : Nat → Path → Copying Path
  | 0, path => return path
  | n + 1, path => do
    unless (← nextMarks "::") && !(← ahead 2 (·.isBracket '(')) do return path
    copy 2
    let (name, arguments) ← segment rules computed
    continued rules computed n { path with names := path.names ++ [name], arguments := arguments }

/-- Goes on with a path. -/
def continue? (rules : Rules) (computed : Bool) (path : Path) : Copying Path := do
  continued rules computed (← remaining).length path

/-- A path that does not start inside a type. -/
def plainPath (rules : Rules) (computed : Bool) : Copying Path := do
  let start ← if ← copyMarks "::" then pure TypeTerm.Start.root else pure .scope
  let (name, arguments) ← segment rules computed
  continue? rules computed ⟨start, [name], arguments⟩

/-- A path. One that starts inside a type may say which trait the names belong to. -/
def path (rules : Rules) (computed : Bool) : Copying Path := do
  unless ← next (·.isMark '<') do return ← plainPath rules computed
  copy 1
  discard <| rules.type true
  if ← copyWord "as" then discard <| plainPath rules false
  discard <| copyMarks ">"
  continue? rules computed ⟨.type, [], none⟩

/-- Types in parentheses that a name is applied to, and the type of the result, if there is one.
Tells whether names may go on after them. -/
def application (rules : Rules) : Copying Bool := do
  if ← nextMarks "::" then skip 2
  inside (betweenCommas (discard <| rules.type true))
  unless ← copyMarks "->" do return true
  match ← rules.type false with
  | .paren _ => return true
  | _ => return false

/-- Something is called by name with an exclamation mark. What it is given in brackets is its own
affair and is copied as it is. -/
def nextInvocation : Copying Bool :=
  return (← next (·.isMark '!')) && (← ahead 1 (·.isAnyBracket))

end Redaction.Grammar
