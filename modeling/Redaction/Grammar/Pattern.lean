import Redaction.Grammar.Type
import Redaction.Lexeme.Numeral

/-!
# Patterns

A pattern is a name that is bound, a constant, a range, or a path with patterns for what it holds.
Alternatives stand between upright bars.

Settled form: a range that includes its end is written with an equals sign, not with a third point,
and a position is written as a plain decimal numeral. A pattern in a box is copied as it is.
-/

namespace Redaction.Grammar

open Copying

/-- A position of a tuple, or several with points between them. -/
def position : Copying Unit := do
  let spelling := Phrase.textAll ((← remaining).take 1)
  skip 1
  write (Numeral.plain spelling)

/-- A member of a value: its name or its position. -/
def member : Copying Unit := do
  if ← next (·.isNumber) then position else copy 1

/-- The members behind a point. A position may end with the point of the next member. -/
def members : Copying Unit :=
  repeated do
    let leads ← next fun p => p.isNumber && p.text.endsWith "."
    member
    return leads

/-- The end of a range, if there is one. -/
def rangeEnd (rules : Rules) : Copying Unit := do
  if (← nextWord "const") && (← ahead 1 (·.isBracket '\x7b')) then
    copy 1
    rules.block
  else if ← copyMarks "-" then copy 1
  else if ← copyIf (·.isConstant) then return
  else if (← next fun p => p.isMark '<' || p.word?.any fun w => w ≠ "if" && w ≠ "in") ||
      (← nextMarks "::") then
    discard <| path rules true

/-- What makes a range of the pattern in front of it. -/
def rangeTail (rules : Rules) : Copying Unit := do
  if ← nextMarks "..." then
    skip 3
    write "..="
    rangeEnd rules
  else if ← copyOneOf ["..=", ".."] then rangeEnd rules

/-- What a name that is bound must match. -/
def boundPattern (rules : Rules) : Copying Unit := do
  if ← copyMarks "@" then rules.pattern false

/-- A pattern for a field, with the name of the field. -/
def fieldPattern (rules : Rules) : Copying Unit := do
  attributes rules
  if ← copyMarks ".." then return
  copyWhile fun p => p.isWord "box" || p.isWord "ref" || p.isWord "mut"
  member
  if ← copyMarks ":" then rules.pattern true

/-- A pattern that begins with a path. -/
def pathPattern (rules : Rules) : Copying Unit := do
  discard <| path rules true
  if ← nextInvocation then copy 2
  else if ← next (·.isBracket '\x7b') then inside (betweenCommas (fieldPattern rules))
  else if ← next (·.isBracket '(') then inside (betweenCommas (rules.pattern true))
  else
    boundPattern rules
    rangeTail rules

/-- A pattern without alternatives. -/
def onePattern (rules : Rules) : Copying Unit := do
  attributes rules
  if ← copyMarks "&" then
    discard <| copyWord "mut"
    rules.pattern false
  else if (← nextWord "const") && (← ahead 1 (·.isBracket '\x7b')) then
    copy 1
    rules.block
    rangeTail rules
  else if ← next fun p => p.isMark '-' || p.isConstant then
    discard <| copyMarks "-"
    copy 1
    rangeTail rules
  else if ← nextMarks ".." then rangeTail rules
  else if ← next (·.isAnyBracket) then inside (betweenCommas (rules.pattern true))
  else if ← nextWord "box" then
    asWritten do
      copy 1
      rules.pattern false
  else if ← next fun p => p.isWord "ref" || p.isWord "mut" then
    copyWhile fun p => p.isWord "ref" || p.isWord "mut"
    copy 1
    boundPattern rules
  else if (← next (·.word?.isSome)) || (← next (·.isMark '<')) || (← nextMarks "::") then
    pathPattern rules

/-- A pattern. -/
def pattern (rules : Rules) (alternatives : Bool) : Copying Unit := do
  if alternatives then discard <| copyMarks "|"
  onePattern rules
  if alternatives then
    repeated do
      unless (← nextMarks "|") && !(← nextMarks "||") && !(← nextMarks "|=") do return false
      copy 1
      onePattern rules
      return true

end Redaction.Grammar
