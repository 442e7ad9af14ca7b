import Redaction.Grammar.Path

/-!
# Bounds

A bound is a lifetime or a trait, possibly in parentheses. A question mark relaxes a bound, and
lifetimes may be introduced for it after the word `for`. A bound may also list the parameters that
it captures.

Settled form: the question mark stands in front of the lifetimes, and a lifetime has a colon only
if bounds follow it. A bound that holds for constants alone has no settled form.
-/

namespace Redaction.Grammar

open Copying

/-- Lifetimes with plus signs between them. -/
def lifetimeBounds : Copying Unit :=
  repeated do
    unless ← copyIf (·.isLifetime) do return false
    copyMarks "+"

/-- A lifetime that is introduced, with its bounds. -/
def lifetimeParameter : Copying Unit := do
  copy 1
  if ← next (·.isMark ':') then
    if ← ahead 1 (·.isLifetime) then
      copy 1
      lifetimeBounds
    else skip 1

/-- A colon and the bounds behind it. A colon without bounds is left out. Tells whether there is a
colon. -/
def optionalBounds (rules : Rules) : Copying Bool := do
  unless ← nextMarks ":" do return false
  skip 1
  let (_, text) ← captured (bounds rules)
  unless text = "" do write (":" ++ text)
  return true

/-- A generic parameter, and whether it is a lifetime. -/
def parameter (rules : Rules) : Copying (Bool × Unit) := do
  attributes rules
  if ← next (·.isLifetime) then
    lifetimeParameter
    return (true, ())
  if ← copyWord "const" then
    copy 1
    if ← copyMarks ":" then discard <| rules.type true
    if ← copyMarks "=" then
      unless ← constantArgument rules do discard <| rules.type true
    return (false, ())
  copy 1
  discard <| optionalBounds rules
  if ← copyMarks "=" then discard <| rules.type true
  return (false, ())

/-- Parameters, lifetimes as a rule, that are introduced after the word `for`. -/
def binder (rules : Rules) : Copying Unit := do
  copy 2
  repeated do
    let before := (← remaining).length
    if (← atEnd) || (← nextMarks ">") then return false
    discard <| parameter rules
    discard <| copyMarks ","
    return (← remaining).length < before
  discard <| copyMarks ">"

/-- Lifetimes are introduced next. -/
def nextBinder : Copying Bool := return (← nextWord "for") && (← ahead 1 (·.isMark '<'))

/-- A trait with what may stand in front of it, and whether it has a settled form. -/
def traitBound (rules : Rules) : Copying Bool := do
  let (_, lifetimes) ← captured do if ← nextBinder then binder rules
  let forConstants ← next fun p => p.isBracket '[' || p.isWord "const" || p.isMark '~'
  discard <| copyMarks "~"
  unless ← copyIf (·.isBracket '[') do discard <| copyWord "const"
  let relaxed ← copyMarks "?"
  write lifetimes
  if relaxed && (← nextBinder) then binder rules
  let path ← plainPath rules false
  if path.arguments.isNone && applies (← remaining) then discard <| application rules
  return !forConstants

/-- A parameter that a bound captures. -/
def capturedParameter : Copying (Bool × Unit) := do
  let isLifetime ← next (·.isLifetime)
  copy 1
  return (isLifetime, ())

/-- A bound. -/
def bound (rules : Rules) : Copying Unit := do
  if ← copyIf (·.isLifetime) then return
  if (← nextWord "use") && (← ahead 1 (·.isMark '<')) then
    copy 1
    discard <| angles capturedParameter
    return
  settledIf do
    if ← next (·.isBracket '(') then inside (traitBound rules) else traitBound rules

end Redaction.Grammar
