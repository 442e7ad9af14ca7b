import Redaction.Grammar.Bound

/-!
# Types

A type is a path with generic arguments, or is built from other types by references, pointers,
brackets or parentheses, or is the type of a function or of everything that meets some bounds.
Reading a type gives the term that it makes; types that the term does not take apart are `other`.

Settled form: a function that takes itself under the name `self` and may change it is copied as it
is, and so are bounds after a star.
-/

namespace Redaction.Grammar

open Copying

/-- Bounds that go on where a plus sign does, if it may. -/
def furtherBounds (rules : Rules) (plus : Bool) : Copying Unit := do
  if plus then
    if ← copyMarks "+" then bounds rules

/-- Bounds of a type, at least one. -/
def typeBounds (rules : Rules) (plus : Bool) : Copying Unit := do
  rules.bound
  furtherBounds rules plus

/-- The argument of a function type: a type, with a name or without one. -/
def functionArgument (rules : Rules) : Copying Unit := do
  attributes rules
  if (← nextWord "mut") && (← ahead 1 (·.isWord "self")) then
    asWritten do
      copy 2
      if ← copyMarks ":" then discard <| rules.type true
    return
  if (← next (·.word?.isSome)) && (← ahead 1 (·.isMark ':')) && !(Phrase.beginWith [':', ':']
      (← remaining).tail) then
    copy 2
  unless ← copyMarks "..." do discard <| rules.type true

/-- The type of a function. -/
def functionType (rules : Rules) : Copying Unit := do
  copyWhile fun p => !p.isWord "fn" && !p.isAnyBracket
  copy 1
  inside (betweenCommas (functionArgument rules))
  if ← copyMarks "->" then discard <| rules.type false

/-- Types that a path is applied to in parentheses; names may go on after them. -/
def applications (rules : Rules) : Nat → Path → Copying Path
  | 0, path => return path
  | n + 1, path => do
    unless path.arguments.isNone && applies (← remaining) do return path
    let applied := { path with arguments := some [] }
    unless ← application rules do return applied
    applications rules n (← continue? rules false applied)

/-- A type that begins with a path. -/
def pathType (rules : Rules) (plus bounded : Bool) : Copying TypeTerm := do
  let path ← path rules false
  if ← nextInvocation then
    copy 2
    return .other
  let path ← applications rules (← remaining).length path
  if bounded || (plus && (← nextMarks "+")) then
    furtherBounds rules plus
    return .other
  return path.term

/-- What stands in parentheses, and whether commas divide it. -/
def parenthesized (rules : Rules) : Copying (List TypeTerm × Bool) := do
  if ← atEnd then return ([], true)
  if ← next fun p => p.isLifetime || p.isMark '?' then
    bounds rules
    return ([.other], false)
  let first ← rules.type true
  let rec others : Nat → Copying (List TypeTerm)
    | 0 => return []
    | n + 1 => do
      discard <| copyMarks ","
      if ← atEnd then return []
      return (← rules.type true) :: (← others n)
  if ← nextMarks "," then return (first :: (← others (← remaining).length), true)
  return ([first], false)

/-- A type that begins with a parenthesis. -/
def parenthesizedType (rules : Rules) (plus : Bool) : Copying TypeTerm := do
  let (terms, isTuple) ← inside (parenthesized rules)
  if plus && (← nextMarks "+") then
    furtherBounds rules plus
    return .other
  match terms, isTuple with
  | [term], false => return .paren term
  | terms, _ => return .tuple terms

/-- A type that begins with a bracket. -/
def bracketedType (rules : Rules) : Copying TypeTerm :=
  inside do
    let element ← rules.type true
    unless ← copyMarks ";" do return .slice element
    rules.computation true
    return .array element

/-- The words that open the type of a function. -/
def functionWords : List String := ["fn", "unsafe", "extern"]

/-- A type. -/
def type (rules : Rules) (plus : Bool) : Copying TypeTerm := do
  let bounded ← nextBinder
  if bounded then binder rules
  if ← next (·.isBracket '(') then return ← parenthesizedType rules plus
  if ← next (·.isBracket '[') then return ← bracketedType rules
  if ← next (·.isMark '*') then
    copy 2
    discard <| rules.type false
    return .other
  if ← copyMarks "&" then
    discard <| copyIf (·.isLifetime)
    discard <| copyWord "mut"
    return .reference (← rules.type false)
  if ← next (·.isLifetime) then
    typeBounds rules plus
    return .other
  if ← next (·.word?.any (· ∈ functionWords)) then
    functionType rules
    return .other
  if ← nextWord "dyn" then
    copy 1
    let starred ← nextMarks "*"
    settledIf do
      discard <| copyMarks "*"
      typeBounds rules plus
      return !starred
    return .other
  if ← copyWord "impl" then
    typeBounds rules plus
    return .other
  if (← nextWord "builtin") && (← ahead 1 (·.isMark '#')) then
    copy 4
    return .other
  if (← nextMarks "!") || (← nextWord "_") then
    copy 1
    return .other
  if (← next (·.word?.isSome)) || (← next (·.isMark '<')) || (← nextMarks "::") then
    return ← pathType rules plus bounded
  return .other

end Redaction.Grammar
