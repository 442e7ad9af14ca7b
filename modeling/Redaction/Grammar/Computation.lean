import Redaction.Grammar.Pattern

/-!
# Computations

A computation alternates between operands and operators. Which operator binds tighter does not
matter for how it is copied; what matters is where an operand is due, because there an angle opens
a path, an upright bar opens a function without a name, and a brace opens a block. Behind an
operand the same marks compare, combine and end the computation.

After the points of a range an operand may come or not. Conditions and subjects of a choice end in
front of a brace, so no brace can follow a path there, except in what a word like `return` gives
back.
-/

namespace Redaction.Grammar

open Copying

/-- Where a computation stands. -/
inductive Position where
  | operand
  | optional
  | operator
  deriving DecidableEq, Repr

/-- Computations between commas or semicolons. -/
def computations (rules : Rules) : Copying Unit :=
  toEnd do
    rules.computation true
    discard <| copyIf fun p => p.isMark ',' || p.isMark ';'

/-- The fields of a value. -/
def fieldValue (rules : Rules) : Copying Unit := do
  attributes rules
  if ← nextMarks ".." then
    copy 2
    rules.computation true
  else
    member
    if ← copyMarks ":" then rules.computation true

/-- A choice between blocks by conditions. -/
def conditional (rules : Rules) : Copying Unit :=
  repeated do
    unless ← copyWord "if" do return false
    rules.computation false
    rules.block
    unless ← copyWord "else" do return false
    if ← nextWord "if" then return true
    rules.block
    return false

/-- The parameters and the result of a function without a name. Its body is due if the result has
no type; otherwise the body is a block. -/
def lambda (rules : Rules) : Copying Position := do
  copy 1
  repeated do
    if (← nextMarks "|") || (← atEnd) then return false
    let (_, preceding) ← captured (attributes rules)
    let boxed ← nextWord "box"
    let (_, pattern) ← captured (rules.pattern false)
    unless boxed && !(← nextMarks ":") do write preceding
    write pattern
    if ← copyMarks ":" then discard <| rules.type true
    discard <| copyMarks ","
    return true
  copy 1
  unless ← copyMarks "->" do return .operand
  discard <| rules.type true
  rules.block
  return .operator

/-- What an operand that begins with a path goes on with. -/
def pathOperand (rules : Rules) (fields : Bool) : Copying Position := do
  discard <| path rules true
  if ← nextInvocation then copy 2
  else if fields && (← next (·.isBracket '\x7b')) then inside (betweenCommas (fieldValue rules))
  return .operator

/-- A brace comes so many phrases ahead. -/
def braceAhead (n : Nat) : Copying Bool := ahead n (·.isBracket '\x7b')

/-- A choice between patterns. -/
def selection (rules : Rules) : Copying Unit := do
  copy 1
  rules.computation false
  inside do
    innerAttributes rules
    toEnd do
      attributes rules
      rules.pattern true
      if ← copyWord "if" then rules.computation true
      discard <| copyMarks "=>"
      rules.unit
      discard <| copyMarks ","

/-- A loop over what a computation yields. -/
def iteration (rules : Rules) : Copying Unit := do
  copy 1
  rules.pattern true
  discard <| copyWord "in"
  rules.computation false
  rules.block

/-- Lifetimes are introduced next, and no loop begins. -/
def nextOpenBinder : Copying Bool := do
  return (← nextBinder) && (← ahead 2 fun p => p.isLifetime || p.isMark '>')

/-- The words in front of a function without a name, and those that ask for an operand. -/
def leadingWords : List String := ["async", "move", "static", "const", "mut"]

/-- The words after which a computation may come or not. -/
def breakingWords : List String := ["return", "yield", "break"]

/-- An operand that begins with a word. -/
def wordOperand (rules : Rules) (fields : Bool) (word : String) :
    Copying Position := do
  if word ∈ ["async", "const", "unsafe", "try", "loop"] && (← braceAhead 1) then
    copy 1
    rules.block
    return .operator
  if word = "async" && (← ahead 1 (·.isWord "move")) && (← braceAhead 2) then
    copy 2
    rules.block
    return .operator
  if ← nextOpenBinder then
    binder rules
    return .operand
  if word ∈ leadingWords then
    copy 1
    return .operand
  if word ∈ breakingWords then
    copy 1
    if word = "break" then discard <| copyIf (·.isLifetime)
    unless word = "break" && !fields && (← braceAhead 0) do rules.computation true
    return .operator
  match word with
  | "if" =>
    conditional rules
    return .operator
  | "while" =>
    copy 1
    rules.computation false
    rules.block
    return .operator
  | "for" =>
    iteration rules
    return .operator
  | "match" =>
    selection rules
    return .operator
  | "let" =>
    copy 1
    rules.pattern true
    discard <| copyMarks "="
    return .operand
  | "continue" =>
    copy 1
    discard <| copyIf (·.isLifetime)
    return .operator
  | "become" =>
    asWritten do
      copy 1
      rules.computation true
    return .operator
  | "builtin" =>
    if ← ahead 1 (·.isMark '#') then
      copy 4
      return .operator
    pathOperand rules fields
  | _ => pathOperand rules fields

/-- The marks that end a computation wherever they stand. -/
def endsComputation (p : Phrase) : Bool :=
  p.isMark ',' || p.isMark ';' || p.isMark ':' || p.isMark '@' || p.isMark '$'

/-- The words that stand between operands or behind all of them. -/
def innerWords : List String := ["as", "else", "in"]

/-- An operand or what leads to one, and what is due then; nothing if the computation ends. -/
def operand (rules : Rules) (fields optional : Bool) :
    Copying (Option Position) := do
  if ← nextAttribute then
    attributes rules
    return some .operand
  if ← nextMarks "::" then return some (← pathOperand rules fields)
  if (← atEnd) || (← nextMarks "=>") || (← next endsComputation) then return none
  if ← next (·.isLifetime) then
    copy 2
    return some .operand
  if (← next (·.isConstant)) then
    copy 1
    return some .operator
  if ← next (·.isBracket '\x7b') then
    if optional && !fields then return none
    rules.block
    return some .operator
  if ← next (·.isAnyBracket) then
    inside (computations rules)
    return some .operator
  if let some word := (← remaining).head?.bind (·.word?) then
    if optional && word = "as" then
      copy 1
      discard <| rules.type false
      return some .operator
    if word ∈ innerWords then return none
    return some (← wordOperand rules fields word)
  if (← nextMarks "<") && !(← nextMarks "<=") && !(← nextMarks "<<=") then
    return some (← pathOperand rules fields)
  if (← nextMarks "|") && !(← nextMarks "|=") then return some (← lambda rules)
  if ← copyOneOf ["..=", ".."] then return some .optional
  if (← nextMarks "&") && (← ahead 1 (·.isWord "raw")) &&
      (← ahead 2 fun p => p.isWord "mut" || p.isWord "const") then
    copy 3
    return some .operand
  copy 1
  return some .operand

/-- What follows an operand, and what is due then; nothing if the computation ends. -/
def operator (rules : Rules) : Copying (Option Position) := do
  if ← next fun p => p.isBracket '(' || p.isBracket '[' then
    inside (computations rules)
    return some .operator
  if ← copyOneOf ["..=", ".."] then return some .optional
  if ← copyMarks "." then
    members
    if (← nextMarks "::") && (← ahead 2 (·.isMark '<')) then
      copy 2
      discard <| arguments rules
    return some .operator
  if ← copyMarks "?" then return some .operator
  if ← copyWord "as" then
    discard <| rules.type false
    return some .operator
  if (← atEnd) || (← nextMarks "=>") || (← nextMarks "->") || (← next endsComputation) ||
      (← nextMarks "#") then
    return none
  if ← copyOneOf ["||", "<<"] then return some .operand
  if ← next fun p => !p.isAnyBracket && !p.isLifetime && !p.isConstant && p.word?.isNone then
    copy 1
    return some .operand
  return none

/-- Goes on with a computation. -/
def computing (rules : Rules) (fields : Bool) : Nat → Position → Copying Unit
  | 0, _ => return
  | n + 1, position => do
    let due ←
      match position with
      | .operand => operand rules fields false
      | .optional => operand rules fields true
      | .operator => operator rules
    if let some position := due then computing rules fields n position

/-- A computation. -/
def computation (rules : Rules) (fields : Bool) : Copying Unit := do
  computing rules fields (← remaining).length .operand

/-- The words that open a computation that ends with a block. -/
def blockWords : List String := ["if", "while", "loop", "match"]

/-- A computation comes next that needs no semicolon behind it to be a statement. -/
def nextBlock : Copying Bool := do
  if ← next fun p => p.isBracket '\x7b' || p.isLifetime then return true
  if ← next (·.word?.any (· ∈ blockWords)) then return true
  if (← next (·.word?.any (· ∈ ["try", "unsafe", "const"]))) && (← braceAhead 1) then return true
  return (← nextWord "for") && !(← nextOpenBinder)

/-- Phrases begin with a computation that is copied as it is, and nothing is applied to it. -/
def beginsUnsettled (ps : List Phrase) : Bool :=
  match ps with
  | p :: q :: rest =>
    p.isWord "become" ||
      (p.isWord "builtin" && q.isMark '#' &&
        !(rest.drop 2).head?.any fun p =>
          p.isMark '.' || p.isMark '?' || p.isBracket '(' || p.isBracket '[')
  | _ => false

/-- The attributes of what ends with its block where it can. Those of a computation that is copied
as it is are left out. -/
def computationAttributes (rules : Rules) : Copying Unit := do
  let (_, text) ← captured (attributes rules)
  unless beginsUnsettled (← remaining) do write text

/-- A computation that ends with its block where it can: as a statement, or behind an arrow. -/
def unit (rules : Rules) : Copying Unit := do
  computationAttributes rules
  let due ←
    if ← nextBlock then
      if ← next (·.isLifetime) then copy 2
      discard <| operand rules true false
      pure <| if ((← nextMarks ".") && !(← nextMarks "..")) || (← nextMarks "?") then
        some Position.operator else none
    else pure (some .operand)
  if let some position := due then
    computing rules true (← remaining).length position

end Redaction.Grammar
