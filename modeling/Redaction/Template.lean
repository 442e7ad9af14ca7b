import Redaction.Text.Cut
import Redaction.Text.Trim

/-!
# Templates

A template is text with placeholders in braces. A placeholder refers to a field by name or by
position, and asks for the display or, after `:?`, for the inspection of the field. A placeholder
without an argument takes the next position; only such placeholders count. A brace that is meant
as text is doubled.

Reading goes from left to right and stops at the first fault. The reader first splits the template
into tokens, each a character of text or a placeholder, and then joins neighbouring characters
into literals and numbers the placeholders without an argument.
-/

namespace Redaction.Template

/-- How a field is turned into text. -/
inductive Mode where
  | display
  | debug
  deriving DecidableEq, Repr

/-- How a placeholder refers to a field. -/
inductive Key where
  | named (name : String)
  | index (index : Nat)
  deriving DecidableEq, Repr

/-- A stretch of text, or a field in its place. -/
inductive Piece where
  | literal (text : String)
  | field (key : Key) (mode : Mode)
  deriving DecidableEq, Repr

/-- Why a text is no template. -/
inductive Error where
  | unmatchedOpen
  | unmatchedClose
  | unsupportedSpec (spec : String)
  | indexOutOfRange
  | unsupportedPlaceholder (argument : String)
  deriving DecidableEq, Repr

/-- The wording of a fault. -/
def Error.message : Error → String
  | .unmatchedOpen => "unmatched `\x7b` in template"
  | .unmatchedClose => "unmatched `\x7d` in template"
  | .unsupportedSpec spec =>
    "unsupported format spec `" ++ spec ++ "` in template; only `?` is allowed"
  | .indexOutOfRange => "invalid index"
  | .unsupportedPlaceholder argument => "unsupported template placeholder `" ++ argument ++ "`"

/-- The argument of a placeholder: none, so that it takes the next position, or a key. -/
inductive Argument where
  | next
  | key (key : Key)
  deriving DecidableEq, Repr

/-- A character of text, or a placeholder. -/
inductive Token where
  | char (c : Char)
  | placeholder (argument : Argument) (mode : Mode)
  deriving DecidableEq, Repr

/-- A name that a placeholder may hold: an ASCII letter or a low line, then ASCII letters, digits
and low lines. -/
def isFieldName : List Char → Bool
  | [] => false
  | c :: cs => (c == '_' || c.isAlpha) && cs.all fun d => d == '_' || d.isAlphanum

/-- Positions are below this bound. -/
def indexBound : Nat := UInt64.size

/-- The mode that is written after the colon. -/
def readMode (spec : List Char) : Except Error Mode :=
  if spec = [] then .ok .display
  else if spec = ['?'] then .ok .debug
  else .error (.unsupportedSpec (String.ofList spec))

/-- The argument that is written before the colon, without surrounding blanks. -/
def readArgument (argument : List Char) : Except Error Argument :=
  if argument = [] then .ok .next
  else if argument.all Char.isDigit then
    let index := Nat.ofDigitChars 10 argument 0
    if index < indexBound then .ok (.key (.index index)) else .error .indexOutOfRange
  else if isFieldName argument then .ok (.key (.named (String.ofList argument)))
  else .error (.unsupportedPlaceholder (String.ofList argument))

/-- The two sides of the first colon between the braces; without a colon the second one is
empty. -/
def splitInside (inside : List Char) : List Char × List Char :=
  (Text.cut ':' inside).getD (inside, [])

/-- The placeholder with the given text between its braces. A bad mode is reported before a bad
argument. -/
def readPlaceholder (inside : List Char) : Except Error Token := do
  let mode ← readMode (splitInside inside).2
  let argument ← readArgument (Text.trim (splitInside inside).1)
  return .placeholder argument mode

/-- Where the reader stands: in text, just after an opening brace, between the braces of a
placeholder with the characters read there last to first, or just after a closing brace. -/
inductive Position where
  | text
  | opened
  | inside (read : List Char)
  | closed
  deriving DecidableEq, Repr

/-- The tokens of a template from a position on. -/
def scan : Position → List Char → Except Error (List Token)
  | .text, [] => .ok []
  | .text, c :: cs =>
    if c = '{' then scan .opened cs
    else if c = '}' then scan .closed cs
    else do
      let tokens ← scan .text cs
      return .char c :: tokens
  | .opened, [] => .error .unmatchedOpen
  | .opened, c :: cs =>
    if c = '{' then do
      let tokens ← scan .text cs
      return .char '{' :: tokens
    else if c = '}' then do
      let token ← readPlaceholder []
      let tokens ← scan .text cs
      return token :: tokens
    else scan (.inside [c]) cs
  | .inside _, [] => .error .unmatchedOpen
  | .inside read, c :: cs =>
    if c = '}' then do
      let token ← readPlaceholder read.reverse
      let tokens ← scan .text cs
      return token :: tokens
    else scan (.inside (c :: read)) cs
  | .closed, [] => .error .unmatchedClose
  | .closed, c :: cs =>
    if c = '}' then do
      let tokens ← scan .text cs
      return .char '}' :: tokens
    else .error .unmatchedClose

/-- A literal of the characters read so far, last to first, in front of further pieces; no
characters make no literal. -/
def flush (read : List Char) (pieces : List Piece) : List Piece :=
  if read = [] then pieces else .literal (String.ofList read.reverse) :: pieces

/-- The pieces that tokens make, when `next` is the position of the next placeholder without an
argument and `read` holds the characters of the literal under way, last to first. -/
def assemble (next : Nat) (read : List Char) : List Token → List Piece
  | [] => flush read []
  | .char c :: tokens => assemble next (c :: read) tokens
  | .placeholder .next mode :: tokens =>
    flush read (.field (.index next) mode :: assemble (next + 1) [] tokens)
  | .placeholder (.key key) mode :: tokens =>
    flush read (.field key mode :: assemble next [] tokens)

/-- The pieces of a template. -/
def parse (template : String) : Except Error (List Piece) := do
  let tokens ← scan .text template.toList
  return assemble 0 [] tokens

end Redaction.Template
