/-!
# Comments

A comment goes to the end of its line or stands between `/*` and `*/`; the latter may hold others
of its kind. Three slashes, or a slash and two stars, open documentation of what follows; an
exclamation mark in third place opens documentation of what is around it. One more slash or star
makes it an ordinary comment again, and so does a comment that ends with its own opening.
-/

namespace Redaction

/-- A comment: ordinary, or documentation of what follows or of what is around it. -/
inductive Comment where
  | ordinary
  | outer (text : String)
  | inner (text : String)
  deriving DecidableEq, Repr

namespace Comment

/-- What a comment says that goes to the end of its line, and the rest of the text from there. -/
def line (cs : List Char) : List Char × List Char :=
  (cs.takeWhile (· ≠ '\n'), cs.dropWhile (· ≠ '\n'))

/-- A line without the carriage return at its end. -/
def withoutReturn (cs : List Char) : String :=
  String.ofList (if cs.getLast? = some '\r' then cs.dropLast else cs)

/-- What a comment says up to its closing mark, and the rest of the text after it. `depth` is the
number of comments inside it that are open. -/
def block (depth : Nat) : List Char → Option (List Char × List Char)
  | [] => none
  | '/' :: '*' :: cs => (block (depth + 1) cs).map fun (said, rest) => ('/' :: '*' :: said, rest)
  | '*' :: '/' :: cs =>
    if depth = 0 then some ([], cs)
    else (block (depth - 1) cs).map fun (said, rest) => ('*' :: '/' :: said, rest)
  | c :: cs => (block depth cs).map fun (said, rest) => (c :: said, rest)

/-- The comment that a text after two slashes makes, and the rest of the text. -/
def readLine : List Char → Comment × List Char
  | '!' :: cs => (.inner (withoutReturn (line cs).1), (line cs).2)
  | '/' :: '/' :: cs => (.ordinary, (line cs).2)
  | '/' :: cs => (.outer (withoutReturn (line cs).1), (line cs).2)
  | cs => (.ordinary, (line cs).2)

/-- The comment that a text after a slash and a star makes, and the rest of the text. -/
def readBlock (cs : List Char) : Option (Comment × List Char) :=
  (block 0 cs).map fun (said, rest) =>
    match cs with
    | '!' :: _ => (.inner (String.ofList said.tail), rest)
    | '*' :: '*' :: _ => (.ordinary, rest)
    | '*' :: '/' :: _ => (.ordinary, rest)
    | '*' :: _ => (.outer (String.ofList said.tail), rest)
    | _ => (.ordinary, rest)

/-- The comment that a text begins with, and the rest of the text. -/
def read : List Char → Option (Comment × List Char)
  | '/' :: '/' :: cs => some (readLine cs)
  | '/' :: '*' :: cs => readBlock cs
  | _ => none

end Comment

end Redaction
