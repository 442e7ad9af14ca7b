import Redaction.Declaration.Parameter
import Redaction.Grammar.Statement

/-!
# The grammar of declarations

A declaration comes with texts for the types of its fields and for its generic parameters. Here they
become the terms that a derivation starts from: `TypeTerm.ofLexemes` gives the type of a field, as
far as it matters which parameters it mentions, and `Parameter.ofText` gives a parameter with its
bounds, which the derivation repeats in settled form. That is all the grammar is for. It reaches
down to computations, patterns and items because the length of an array and the value of a constant
argument may be any block, and the form of such a block is part of the bound that is repeated.
What is proved about derivations is proved about every declaration, whatever text it was read from.

Types and parameters are read from the phrases of a text by the rules of the grammar, taken to a
depth that the text cannot exceed: every rule that is used inside another one has at least one
lexeme less before it.
-/

namespace Redaction

namespace Rules

/-- The rules that are one level deeper. -/
def deeper (rules : Rules) : Rules where
  type := Grammar.type rules
  bound := Grammar.bound rules
  computation fields := Grammar.computation rules fields
  unit := Grammar.unit rules
  pattern := Grammar.pattern rules
  body := Grammar.body rules

/-- The rules to a depth. -/
def upTo : Nat → Rules
  | 0 => none
  | n + 1 => (upTo n).deeper

end Rules

/-- Runs a copier, given the rules, on the phrases that lexemes make. -/
def Copying.read {α : Type} (copier : Rules → Copying α) (lexemes : List Lexeme) : α :=
  ((copier (Rules.upTo (lexemes.length + 2))).run ⟨Phrase.ofLexemes lexemes, ""⟩).1

/-- The type that lexemes make. -/
def TypeTerm.ofLexemes (lexemes : List Lexeme) : TypeTerm :=
  Copying.read (fun rules => rules.type true) lexemes

namespace Parameter

open Grammar Copying

/-- What a copier writes, without spaces. -/
def unspaced (copier : Copying Unit) : Copying String := do
  let (_, text) ← captured copier
  return String.ofList (text.toList.filter (· ≠ ' '))

/-- The bounds with plus signs between them, at most so many. -/
def readBounds (rules : Rules) : Nat → Copying (List String)
  | 0 => return []
  | n + 1 => do
    unless ← nextBound do return []
    let bound ← unspaced rules.bound
    discard <| copyMarks "+"
    return bound :: (← readBounds rules n)

/-- The default of a generic parameter, if there is one. -/
def readDefault (copier : Copying Unit) : Copying (Option String) := do
  if ← copyMarks "=" then some <$> unspaced copier else return none

/-- The name of a constant and its type. -/
def readConstant (rules : Rules) : Copying String :=
  unspaced do
    copy 1
    if ← copyMarks ":" then discard <| rules.type true

/-- A generic parameter. -/
def read (rules : Rules) : Copying Parameter := do
  attributes rules
  if ← next (·.isLifetime) then return .lifetime (← unspaced copyRest)
  if ← nextWord "const" then
    skip 1
    let text ← readConstant rules
    return .constant ("const " ++ text) (← readDefault copyRest)
  let name ← unspaced (copy 1)
  let bounds ← if ← copyMarks ":" then readBounds rules (← remaining).length else pure []
  return .type name bounds (← readDefault (discard <| rules.type true))

/-- The parameter that is written so. -/
def ofText (s : String) : Parameter := Copying.read read (Lexeme.ofText s)

end Parameter

end Redaction
