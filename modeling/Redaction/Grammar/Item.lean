import Redaction.Grammar.Computation

/-!
# Items

A block may declare functions, types, traits and constants, and give implementations. Items have
generic parameters and conditions on them after the word `where`.

Settled form: parameters that are lifetimes come first; empty angles, colons without bounds and
conditions without any are left out, and so is what says who sees a variant. An argument that is a
type alone gets a low line for its name. Items that leave something open which others give, and
those that only some places allow, are copied as they are.
-/

namespace Redaction.Grammar

open Copying

/-! ## Parameters and conditions -/

/-- Generic parameters, if there are angles for them, and whether there are. -/
def parameters (rules : Rules) : Copying Bool := do
  unless ← nextMarks "<" do return false
  let ps ← readAngles (parameter rules)
  unless ps.isEmpty do write ("<" ++ arranged ps ++ ">")
  return true

/-- A condition on parameters. -/
def condition (rules : Rules) : Copying Unit := do
  if (← next (·.isLifetime)) && (← ahead 1 (·.isMark ':')) then
    copy 2
    lifetimeBounds
  else
    if ← nextBinder then binder rules
    discard <| rules.type true
    if ← copyMarks ":" then bounds rules

/-- The marks and brackets that end conditions. -/
def endsConditions (p : Phrase) : Bool :=
  p.isBracket '\x7b' || p.isMark ',' || p.isMark ';' || p.isMark '='

/-- Conditions, if there is a word for them, and whether there is. -/
def conditions (rules : Rules) : Copying Bool := do
  unless ← nextWord "where" do return false
  skip 1
  let (_, text) ← captured do
    repeated do
      if (← atEnd) || (← next endsConditions) then return false
      condition rules
      copyMarks ","
  unless text = "" do write ("where" ++ text)
  return true

/-- Who sees what follows, and whether it is said. -/
def visibility : Copying Bool := do
  unless ← copyWord "pub" do return false
  let narrowing := fun p : Phrase =>
    match p with
    | .bracket '(' [q] => q.isWord "crate" || q.isWord "self" || q.isWord "super"
    | .bracket '(' (q :: _) => q.isWord "in"
    | _ => false
  discard <| copyIf narrowing
  return true

/-! ## Functions -/

/-- The words in front of a function. -/
def functionQualifiers : List String := ["const", "async", "unsafe", "safe", "extern"]

/-- Phrases begin with a function: the word for it, behind its qualifiers. -/
def beginsFunction (ps : List Phrase) : Bool :=
  (ps.dropWhile fun p => p.word?.any (· ∈ functionQualifiers) ||
    (p.isConstant && p.word?.isNone)).head?.any (·.isWord "fn")

/-- The value that a method belongs to, given to it under the name `self`. -/
def beginsReceiver (ps : List Phrase) : Bool :=
  let unreferenced :=
    match ps with
    | p :: q :: rest => if p.isMark '&' then if q.isLifetime then rest else q :: rest else ps
    | ps => ps
  match unreferenced with
  | p :: q :: rest =>
    if p.isWord "mut" then q.isWord "self"
    else p.isWord "self" && !Phrase.beginWith [':', ':'] (q :: rest)
  | [p] => p.isWord "self"
  | [] => false

/-- An argument of a function. -/
def functionParameter (rules : Rules) : Copying Unit := do
  attributes rules
  if ← copyMarks "..." then return
  if beginsReceiver (← remaining) then
    copyWhile fun p => !p.isMark ':' && !p.isMark ','
  else if (← next (·.isName)) && (← ahead 1 (·.isMark '<')) then
    write "_:"
    discard <| rules.type true
    return
  else rules.pattern false
  if ← copyMarks ":" then
    unless ← copyMarks "..." do discard <| rules.type true

/-- A function up to its body. -/
def signature (rules : Rules) : Copying Unit := do
  copyWhile fun p => !p.isWord "fn"
  copy 2
  discard <| parameters rules
  inside (betweenCommas (functionParameter rules))
  if ← copyMarks "->" then discard <| rules.type true
  discard <| conditions rules

/-- A function, and whether it has a body. -/
def function (rules : Rules) : Copying Bool := do
  signature rules
  if ← copyMarks ";" then return false
  rules.block
  return true

/-! ## Types, fields and constants -/

/-- A field with its name. -/
def namedField (rules : Rules) : Copying Unit := do
  attributes rules
  discard visibility
  copy 1
  discard <| copyMarks ":"
  if (← next fun p => p.isWord "struct" || p.isWord "union") && (← braceAhead 1) then copy 2
  else discard <| rules.type true

/-- A field without a name. -/
def tupleField (rules : Rules) : Copying Unit := do
  attributes rules
  discard visibility
  discard <| rules.type true

/-- Fields in braces or in parentheses, if there are any. -/
def fields (rules : Rules) : Copying Unit := do
  if ← braceAhead 0 then inside (betweenCommas (namedField rules))
  else if ← next (·.isBracket '(') then inside (betweenCommas (tupleField rules))

/-- A structure or union. -/
def recordItem (rules : Rules) : Copying Unit := do
  copy 2
  discard <| parameters rules
  discard <| conditions rules
  fields rules
  discard <| conditions rules
  discard <| copyMarks ";"

/-- A variant. Who sees it is left out. -/
def variant (rules : Rules) : Copying Unit := do
  attributes rules
  discard <| captured visibility
  copy 1
  fields rules
  if ← copyMarks "=" then rules.computation true

/-- An enumeration. -/
def enumeration (rules : Rules) : Copying Unit := do
  copy 2
  discard <| parameters rules
  discard <| conditions rules
  inside (betweenCommas (variant rules))

/-- A named constant, and whether it has parameters or conditions, and a value. -/
def constant (rules : Rules) : Copying (Bool × Bool) := do
  copy 2
  let general ← parameters rules
  if ← copyMarks ":" then discard <| rules.type true
  let valued ← copyMarks "="
  if valued then rules.computation true
  let conditional ← conditions rules
  discard <| copyMarks ";"
  return (general || conditional, valued)

/-- A variable that lasts, and whether it has a type, and a value. -/
def static (rules : Rules) : Copying (Bool × Bool) := do
  copy 1
  discard <| copyWord "mut"
  copy 1
  let typed ← copyMarks ":"
  if typed then discard <| rules.type true
  let valued ← copyMarks "="
  if valued then rules.computation true
  discard <| copyMarks ";"
  return (typed, valued)

/-- A name for a type, and whether it has bounds, and a definition. -/
def typeAlias (rules : Rules) : Copying (Bool × Bool) := do
  copy 2
  discard <| parameters rules
  let bounded ← optionalBounds rules
  discard <| conditions rules
  let defined ← copyMarks "="
  if defined then discard <| rules.type true
  discard <| conditions rules
  discard <| copyMarks ";"
  return (bounded, defined)

/-- An invocation that stands for items. -/
def invocation : Copying Unit := do
  let braced := fun p : Phrase => p.isBracket '\x7b'
  copyWhile (!·.isAnyBracket)
  unless ← copyIf braced do
    copy 1
    discard <| copyMarks ";"

/-! ## Items in braces -/

/-- Items in braces; each tells whether it has a settled form. -/
def items (rules : Rules) (item : Copying Bool) : Copying Unit :=
  inside do
    innerAttributes rules
    toEnd do
      settledIf do
        attributes rules
        item

/-- An item that a trait asks for. -/
def traitItem (rules : Rules) : Copying Bool := do
  let visible ← visibility
  let replaceable ← copyWord "default"
  let settled := !visible && !replaceable
  if beginsFunction (← remaining) then
    discard <| function rules
    return settled
  if ← nextWord "const" then
    let (general, _) ← constant rules
    return settled && !general
  if ← nextWord "type" then
    discard <| typeAlias rules
    return settled
  invocation
  return true

/-- An item of an implementation. -/
def implementedItem (rules : Rules) : Copying Bool := do
  discard visibility
  unless ← ahead 1 (·.isMark '!') do discard <| copyWord "default"
  if beginsFunction (← remaining) then return ← function rules
  if ← nextWord "const" then
    let (general, valued) ← constant rules
    return !general && valued
  if ← nextWord "type" then
    let (bounded, defined) ← typeAlias rules
    return !bounded && defined
  invocation
  return true

/-- An item that is defined elsewhere. -/
def foreignItem (rules : Rules) : Copying Bool := do
  discard visibility
  if beginsFunction (← remaining) then
    let isSafe := ((← remaining).takeWhile (!·.isWord "fn")).any (·.isWord "safe")
    let hasBody ← function rules
    return !hasBody && !isSafe
  let qualified ← copyIf fun p => p.isWord "safe" || p.isWord "unsafe"
  if ← nextWord "static" then
    let (_, valued) ← static rules
    return !qualified && !valued
  if ← nextWord "type" then
    let (bounded, defined) ← typeAlias rules
    return !bounded && !defined
  invocation
  return true

/-! ## Traits and implementations -/

/-- A trait, or another name for bounds. -/
def trait (rules : Rules) : Copying Unit := do
  copyWhile fun p => !p.isWord "trait"
  copy 2
  discard <| parameters rules
  if ← copyMarks "=" then
    bounds rules
    discard <| conditions rules
    discard <| copyMarks ";"
  else
    discard <| optionalBounds rules
    discard <| conditions rules
    items rules (traitItem rules)

/-- The angles behind the word of an implementation hold parameters, and no path begins there. -/
def beginsParameters (ps : List Phrase) : Bool :=
  match ps with
  | opening :: p :: rest =>
    opening.isMark '<' &&
      (p.isMark '>' || p.isMark '#' || p.isWord "const" ||
        ((p.isLifetime || p.word?.isSome) &&
          (rest.head?.any (fun q => q.isMark '>' || q.isMark ',' || q.isMark '=') ||
            (Phrase.beginWith [':'] rest && !Phrase.beginWith [':', ':'] rest))))
  | _ => false

/-- An implementation, and whether it has a settled form: for constants alone, or for something
that no path names, it has none. -/
def implementation (rules : Rules) : Copying Bool := do
  copyWhile fun p => !p.isWord "impl"
  copy 1
  if beginsParameters (← remaining) then discard <| parameters rules
  discard <| copyMarks "?"
  let forConstants ← copyWord "const"
  unless ← braceAhead 1 do discard <| copyMarks "!"
  let trait ← rules.type true
  let named :=
    match trait with
    | .path .type _ _ => false
    | .path .. => true
    | _ => false
  let ofTrait ← copyWord "for"
  if ofTrait then discard <| rules.type true
  discard <| conditions rules
  items rules (implementedItem rules)
  return !forConstants && (named || !ofTrait)

/-! ## All kinds of items -/

/-- The rest of an item that is copied as it is up to a semicolon. -/
def upToSemicolon : Copying Unit := do
  copyWhile (!·.isMark ';')
  copy 1

/-- The phrase behind a text is the brace of items that are defined elsewhere. -/
def beginsForeign (ps : List Phrase) : Bool :=
  let unqualified := ps.dropWhile (·.isWord "unsafe")
  match unqualified with
  | p :: q :: rest =>
    p.isWord "extern" &&
      (q.isBracket '\x7b' || (q.isConstant && rest.head?.any (·.isBracket '\x7b')))
  | _ => false

/-- Behind words like `unsafe` and `auto` stands the given word. -/
def begins (word : String) (ps : List Phrase) : Bool :=
  (ps.dropWhile fun p => p.word?.any (· ∈ ["unsafe", "auto", "default"])).head?.any (·.isWord word)

/-- An item in braces or in a block, after its attributes, and whether it has a settled form. -/
def item (rules : Rules) : Nat → Copying Bool
  | 0 => return false
  | n + 1 => do
    let visible ← visibility
    let ps ← remaining
    if beginsFunction ps then return ← function rules
    if beginsForeign ps then
      copyWhile (!·.isAnyBracket)
      items rules (foreignItem rules)
      return true
    if begins "trait" ps then
      trait rules
      return true
    if begins "impl" ps then
      let settled ← implementation rules
      return settled && !visible
    if begins "mod" ps then
      copyWhile fun p => !p.isBracket '\x7b' && !p.isMark ';'
      unless ← copyMarks ";" do items rules (item rules n)
      return true
    match (ps.head?.bind (·.word?)).getD "" with
    | "const" =>
      let (general, valued) ← constant rules
      return !general && valued
    | "static" =>
      let (typed, valued) ← static rules
      return typed && valued
    | "type" =>
      let (bounded, defined) ← typeAlias rules
      return !bounded && defined
    | "struct" =>
      recordItem rules
      return true
    | "union" =>
      recordItem rules
      return true
    | "enum" =>
      enumeration rules
      return true
    | "use" =>
      upToSemicolon
      return true
    | "extern" =>
      upToSemicolon
      return true
    | "macro" =>
      copyWhile (!·.isBracket '\x7b')
      copy 1
      return false
    | _ =>
      invocation
      return true

end Redaction.Grammar
