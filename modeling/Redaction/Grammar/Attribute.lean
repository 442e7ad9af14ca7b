import Redaction.Grammar.Rules

/-!
# Attributes inside a declaration

An attribute stands in brackets after a hash sign, with an exclamation mark in between if it is
about what is around it. What it lists is copied as it is; what stands after an equals sign is a
computation.
-/

namespace Redaction.Grammar

open Copying

/-- What stands in the brackets of an attribute. -/
def attributeText (rules : Rules) : Copying Unit := do
  copyWhile fun p => p.word?.isSome || p.isMark ':'
  if ← copyMarks "=" then rules.computation true
  copyRest

/-- An attribute comes next that is about what follows. -/
def nextAttribute : Copying Bool := return (← next (·.isMark '#')) && (← ahead 1 (·.isBracket '['))

/-- An attribute comes next that is about what is around it. -/
def nextInnerAttribute : Copying Bool :=
  return (← nextMarks "#!") && (← ahead 2 (·.isBracket '['))

/-- Attributes of what follows. -/
def attributes (rules : Rules) : Copying Unit :=
  repeated do
    unless ← nextAttribute do return false
    copy 1
    inside (attributeText rules)
    return true

/-- Attributes of what is around them. -/
def innerAttributes (rules : Rules) : Copying Unit :=
  repeated do
    unless ← nextInnerAttribute do return false
    copy 2
    inside (attributeText rules)
    return true

end Redaction.Grammar
