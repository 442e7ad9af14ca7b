import Redaction.Token

/-!
# Attributes

An attribute stands at a type declaration, at one of its variants or at a field. It has a path and
one of three forms: the path alone, a list of tokens in parentheses, or a value after an equals
sign. Attributes with a path that nobody asks for are ignored.

A list is read item by item. An item is an option, which is a word or a longer path, and whatever
else stands before the next comma; a comma after the last item is allowed.
-/

namespace Redaction

/-- What follows the path of an attribute. -/
inductive Attribute.Form where
  | bare
  | list (tokens : List Token)
  | value (literal : Token)
  deriving DecidableEq, Repr

/-- An attribute with its path as written. -/
structure Attribute where
  path : String
  form : Attribute.Form
  deriving DecidableEq, Repr

namespace Attribute

/-- Why a list cannot be read. Some faults are worded differently where the list ends. -/
inductive ListFault where
  | literalItem
  | strangeItem
  | missingItem
  | missingWord (atEnd : Bool)
  | missingComma
  | missingEquals
  | missingText (atEnd : Bool)
  deriving DecidableEq, Repr

/-- The wording of a fault at the end of a list. -/
def ListFault.worded (atEnd : Bool) (expectation : String) : String :=
  if atEnd then "unexpected end of input, " ++ expectation else expectation

/-- The wording of a fault. -/
def ListFault.message : ListFault → String
  | .literalItem => "unexpected literal in nested attribute, expected ident"
  | .strangeItem => "unexpected token in nested attribute, expected ident"
  | .missingItem => worded true "expected nested attribute"
  | .missingWord atEnd => worded atEnd "expected ident"
  | .missingComma => "expected `,`"
  | .missingEquals => "expected `=`"
  | .missingText atEnd => worded atEnd "expected string literal"

/-- An item of a list: its option, absent when the option is not a single word, the tokens after
the option, and whether the list ends with them. -/
structure Item where
  option : Option String
  rest : List Token
  atEnd : Bool
  deriving DecidableEq, Repr

/-- The tokens between the commas, each with whether the list ends there. Nothing follows a comma
at the end, and nothing stands in an empty list. -/
def chunks : List (List Token) → List (List Token × Bool)
  | [] => []
  | [chunk] => if chunk = [] then [] else [(chunk, true)]
  | chunk :: rest => (chunk, false) :: chunks rest

/-- The tokens after the words that continue a path. -/
def pathRest (atEnd : Bool) : List Token → Except ListFault (List Token)
  | .pathMark :: .word _ :: rest => pathRest atEnd rest
  | .pathMark :: rest => .error (.missingWord (atEnd && rest.isEmpty))
  | rest => .ok rest

/-- The fault of an item that does not begin with a word. -/
def strangeStart : List Token → ListFault
  | .text _ :: _ => .literalItem
  | .number :: _ => .literalItem
  | .constant :: _ => .literalItem
  | .mark '-' :: .number :: _ => .literalItem
  | _ => .strangeItem

/-- The item that the tokens between two commas make. -/
def readItem (tokens : List Token) (atEnd : Bool) : Except ListFault Item :=
  match tokens with
  | .word _ :: .pathMark :: rest => do
    let rest ← pathRest atEnd (.pathMark :: rest)
    return ⟨none, rest, atEnd⟩
  | .word w :: rest => .ok ⟨some w, rest, atEnd⟩
  | .pathMark :: .word _ :: rest => do
    let rest ← pathRest atEnd rest
    return ⟨none, rest, atEnd⟩
  | .pathMark :: rest =>
    .error (if atEnd && rest.isEmpty then .missingItem else strangeStart rest)
  | tokens => .error (strangeStart tokens)

/-- Reads the items of a list from left to right. Each item goes to `take` as soon as its option
is read, so the first fault counts, be it of the list or of an option. -/
def foldItems {σ ε : Type} (inject : ListFault → ε) (take : σ → Item → Except ε σ) :
    σ → List (List Token × Bool) → Except ε σ
  | state, [] => .ok state
  | state, (tokens, atEnd) :: rest =>
    match readItem tokens atEnd with
    | .error fault => .error (inject fault)
    | .ok item =>
      match take state item with
      | .error fault => .error fault
      | .ok state => foldItems inject take state rest

/-- Reads a list of tokens item by item. -/
def readList {σ ε : Type} (inject : ListFault → ε) (take : σ → Item → Except ε σ) (state : σ)
    (tokens : List Token) : Except ε σ :=
  foldItems inject take state (chunks (tokens.splitOn (.mark ',')))

end Attribute

end Redaction
