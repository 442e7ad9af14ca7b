import Redaction.Grammar.Item

/-!
# Statements and blocks

A block holds statements: items, bindings, and computations with or without a semicolon. A
computation that ends with its block needs none, and so what follows it begins anew.
-/

namespace Redaction.Grammar

open Copying

/-- The words that open an item whatever follows. -/
def itemWords : List String :=
  ["pub", "extern", "use", "fn", "mod", "type", "struct", "enum", "trait", "impl", "macro"]

/-- The number of phrases in names with double colons between them that phrases begin with. -/
def namesLength : List Phrase → Nat
  | p :: q :: r :: rest =>
    if !p.isModuleName then 0
    else if Phrase.beginWith [':', ':'] [q, r] then 3 + namesLength rest
    else 1
  | p :: _ => if p.isModuleName then 1 else 0
  | [] => 0

/-- The number of phrases in the path without arguments that phrases begin with. -/
def pathLength (ps : List Phrase) : Nat :=
  if Phrase.beginWith [':', ':'] ps then 2 + namesLength (ps.drop 2) else namesLength ps

/-- What is called by name defines something under the name behind the exclamation mark. -/
def beginsDefinition (ps : List Phrase) : Bool :=
  match ps.drop (pathLength ps) with
  | p :: q :: _ => pathLength ps > 0 && p.isMark '!' && (q.isName || q.isWord "try")
  | _ => false

/-- What is called by name is given braces and stands as a statement of its own. -/
def beginsInvocation (ps : List Phrase) : Bool :=
  match ps.drop (pathLength ps) with
  | p :: q :: rest =>
    pathLength ps > 0 && p.isMark '!' && q.isBracket '\x7b' &&
      !rest.head?.any (·.isMark '?') &&
      (!rest.head?.any (·.isMark '.') || Phrase.beginWith ['.', '.'] rest)
  | _ => false

/-- Phrases begin with an item. -/
def beginsItem (ps : List Phrase) : Bool :=
  let word n := (ps[n]?.bind (·.word?)).getD ""
  let isName n := ps[n]?.any (·.isName)
  let isBrace n := ps[n]?.any (·.isBracket '\x7b')
  let isBar n := ps[n]?.any (·.isMark '|')
  match word 0 with
  | "static" => word 1 == "mut" || isName 1
  | "const" =>
    !(isBrace 1 || isBar 1 || word 1 == "static" || word 1 == "move" ||
      (word 1 == "async" && word 2 ∉ ["unsafe", "extern", "fn"]))
  | "unsafe" => !isBrace 1
  | "async" => word 1 ∈ ["unsafe", "extern", "fn"]
  | "union" => isName 1
  | "auto" => word 1 == "trait"
  | "default" => word 1 ∈ ["unsafe", "impl"]
  | w => w ∈ itemWords || beginsDefinition ps

/-- A binding of names to what a pattern finds. -/
def letStatement (rules : Rules) : Copying Unit := do
  copy 1
  rules.pattern false
  if ← copyMarks ":" then discard <| rules.type true
  if ← copyMarks "=" then rules.computation true
  if ← copyWord "else" then rules.block

/-- A statement, and whether it has a settled form. -/
def statement (rules : Rules) : Copying Bool := do
  computationAttributes rules
  let ps ← remaining
  if beginsInvocation ps then copy (pathLength ps + 2)
  else if ps.head?.any (·.isWord "let") then letStatement rules
  else if beginsItem ps then return ← item rules ps.length
  else unit rules
  discard <| copyMarks ";"
  return true

/-- What stands in the braces of a block. -/
def body (rules : Rules) : Copying Unit := do
  innerAttributes rules
  toEnd do
    unless ← copyMarks ";" do settledIf (statement rules)

end Redaction.Grammar
