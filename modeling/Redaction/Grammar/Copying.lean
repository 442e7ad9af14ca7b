import Redaction.Phrase

/-!
# Copying phrases

What stands in a declaration is copied from left to right into a settled form: what can be written
in more than one way is written in one. A copier takes phrases from what remains and adds to what
has been written; it may also say something about what it has read.

Copiers are total. Where phrases do not make sense a copier stops early, and whoever called it
copies on. Loops are bounded by the number of phrases that remain, since every turn takes one.
-/

namespace Redaction

/-- What remains to be copied and what has been written. -/
structure Copy where
  rest : List Phrase
  written : String := ""

/-- A computation that copies phrases. -/
abbrev Copying := StateM Copy

namespace Copying

/-! ## Looking ahead -/

/-- What remains. -/
def remaining : Copying (List Phrase) := return (← get).rest

/-- Nothing remains. -/
def atEnd : Copying Bool := return (← get).rest.isEmpty

/-- The phrase that is `n` phrases ahead has the property. -/
def ahead (n : Nat) (has : Phrase → Bool) : Copying Bool := return (← get).rest[n]?.any has

/-- The next phrase has the property. -/
def next (has : Phrase → Bool) : Copying Bool := ahead 0 has

/-- The given marks come next, joined to each other. -/
def nextMarks (marks : String) : Copying Bool :=
  return Phrase.beginWith marks.toList (← get).rest

/-- The given word comes next. -/
def nextWord (w : String) : Copying Bool := next (·.isWord w)

/-! ## Taking and writing -/

/-- Writes a text that was not there. -/
def write (s : String) : Copying Unit := modify fun c => { c with written := c.written ++ s }

/-- Leaves out so many phrases. -/
def skip (n : Nat) : Copying Unit := modify fun c => { c with rest := c.rest.drop n }

/-- Copies so many phrases as they are. -/
def copy (n : Nat) : Copying Unit :=
  modify fun c =>
    { rest := c.rest.drop n, written := c.written ++ Phrase.textAll (c.rest.take n) }

/-- Copies all that remains as it is. -/
def copyRest : Copying Unit := do copy (← remaining).length

/-- Copies the next phrase if it has the property, and tells whether it does. -/
def copyIf (has : Phrase → Bool) : Copying Bool := do
  if ← next has then
    copy 1
    return true
  return false

/-- Copies the given marks if they come next, and tells whether they do. -/
def copyMarks (marks : String) : Copying Bool := do
  if ← nextMarks marks then
    copy marks.length
    return true
  return false

/-- Copies the first of the given marks that come next, and tells whether there are any. -/
def copyOneOf : List String → Copying Bool
  | [] => return false
  | marks :: others => do if ← copyMarks marks then return true else copyOneOf others

/-- Copies the given word if it comes next, and tells whether it does. -/
def copyWord (w : String) : Copying Bool := copyIf (·.isWord w)

/-- Copies the next phrase as it is while it has the property. -/
def copyWhile (has : Phrase → Bool) : Copying Unit := do
  copy ((← remaining).takeWhile has).length

/-! ## Copiers from copiers -/

/-- Runs a copier inside the brackets that come next. What it leaves there is copied as it is. -/
def inside {α : Type} (copier : Copying α) : Copying α := do
  match ← get with
  | ⟨.bracket opening inner :: rest, written⟩ =>
    let (a, c) := copier.run ⟨inner, written ++ String.singleton opening⟩
    set (Copy.mk rest
      (c.written ++ Phrase.textAll c.rest ++ String.singleton (Phrase.closing opening)))
    return a
  | _ => return (copier.run ⟨[], ""⟩).1

/-- Runs a copier and gives what it has written, instead of writing it. -/
def captured {α : Type} (copier : Copying α) : Copying (α × String) := do
  let ⟨rest, written⟩ ← get
  let (a, c) := copier.run ⟨rest, ""⟩
  set (Copy.mk c.rest written)
  return (a, c.written)

/-- Runs a copier that tells whether what it has read has a settled form. If not, all that it has
taken is copied as it is. -/
def settledIf (copier : Copying Bool) : Copying Unit := do
  let before ← get
  let settled ← copier
  unless settled do
    modify fun c =>
      { c with
        written :=
          before.written ++
            Phrase.textAll (before.rest.take (before.rest.length - c.rest.length)) }

/-- Copies as it is what a copier takes. -/
def asWritten (copier : Copying Unit) : Copying Unit :=
  settledIf do
    copier
    return false

/-- Runs a copier at most so many times, as long as it asks for it. -/
def turns : Nat → Copying Bool → Copying Unit
  | 0, _ => return
  | n + 1, copier => do if ← copier then turns n copier

/-- Runs a copier as long as it asks for it. -/
def repeated (copier : Copying Bool) : Copying Unit := do turns (← remaining).length copier

/-- Runs a copier until nothing remains. A phrase that it does not take is copied as it is. -/
def toEnd (copier : Copying Unit) : Copying Unit := do
  repeated do
    let before ← remaining
    if before.isEmpty then return false
    copier
    if (← remaining).length = before.length then copy 1
    return true

/-- Runs a copier on what stands between the commas. -/
def betweenCommas (copier : Copying Unit) : Copying Unit :=
  toEnd do
    unless ← next (·.isMark ',') do copier
    discard <| copyMarks ","

/-! ## Pieces between angles -/

/-- What stands between angles up to a comma: what it says, how it is written, whether it is a
lifetime, and whether a comma follows it. -/
structure Piece (α : Type) where
  value : α
  text : String
  isLifetime : Bool
  comma : Bool

/-- The pieces up to the closing angle, at most so many. A piece tells whether it is a lifetime. -/
def pieces {α : Type} (piece : Copying (Bool × α)) : Nat → Copying (List (Piece α))
  | 0 => return []
  | n + 1 => do
    if (← atEnd) || (← nextMarks ">") then return []
    let ((isLifetime, value), text) ← captured piece
    let comma ← nextMarks ","
    let others ← if comma then skip 1 *> pieces piece n else pure []
    return ⟨value, text, isLifetime, comma⟩ :: others

/-- Pieces one after another. A comma is put in where the piece before has none of its own. -/
def joined : List (String × Bool) → String
  | [] => ""
  | [(text, comma)] => if comma then text ++ "," else text
  | (text, _) :: rest => text ++ "," ++ joined rest

/-- Pieces in settled order: lifetimes come first, each with the comma that follows it. -/
def arranged {α : Type} (ps : List (Piece α)) : String :=
  joined ((ps.filter (·.isLifetime) ++ ps.filter (!·.isLifetime)).map fun p => (p.text, p.comma))

/-- Reads a pair of angles and gives its pieces, without writing them. -/
def readAngles {α : Type} (piece : Copying (Bool × α)) : Copying (List (Piece α)) := do
  skip 1
  let ps ← pieces piece (← remaining).length
  skip 1
  return ps

/-- Copies a pair of angles with its pieces in settled order, and gives what they say. -/
def angles {α : Type} (piece : Copying (Bool × α)) : Copying (List α) := do
  let ps ← readAngles piece
  write ("<" ++ arranged ps ++ ">")
  return ps.map (·.value)

end Copying

end Redaction
