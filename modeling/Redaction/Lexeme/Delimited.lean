import Redaction.Identifier
import Redaction.Token

/-!
# Texts and characters between quotes

A text stands between double quotes, a character between single ones. In a plain text a backslash
opens an escape: a letter, two hexadecimal digits after `x`, the digits of a code point in braces
after `u`, or the end of a line, which is left out together with the blanks that follow. A line may
end with a carriage return, which is not part of the text. In a raw text, after `r` and any number
of hash signs, every character stands for itself up to a quote with as many hash signs.

The letters `b` and `c` before a text or character make it a constant of another kind. A word
directly after the closing quote is a suffix and says nothing about the value.
-/

namespace Redaction.Delimited

/-- Where the reader of a plain text stands: between characters, after a backslash, inside an
escape, or on the blanks after the end of a line that is left out. -/
inductive Position where
  | between
  | escape
  | high
  | low (first : Nat)
  | codePoint (value : Nat)
  | fold
  deriving DecidableEq, Repr

/-- The value of a hexadecimal digit. -/
def digitValue (c : Char) : Nat :=
  if c.isDigit then c.toNat - '0'.toNat
  else if c.isUpper then c.toNat - 'A'.toNat + 10
  else c.toNat - 'a'.toNat + 10

/-- The character that a letter after a backslash stands for. -/
def unescape : Char → Char
  | 'n' => '\n'
  | 'r' => '\r'
  | 't' => '\t'
  | '0' => '\x00'
  | c => c

/-- A blank that is left out after the end of a line. -/
def isFolded (c : Char) : Bool := c ∈ [' ', '\t', '\n', '\r']

namespace Position

/-- The reader may meet the closing quote here. -/
def closes : Position → Bool
  | .between => true
  | .fold => true
  | _ => false

/-- The characters that are read and the position after a character between escapes. -/
def stepBetween (c : Char) : List Char × Position :=
  if c = '\\' then ([], .escape)
  else if c = '\r' then ([], .between)
  else ([c], .between)

/-- The characters that are read and the position after a character after a backslash. -/
def stepEscape (c : Char) : List Char × Position :=
  if c = 'x' then ([], .high)
  else if c = 'u' then ([], .codePoint 0)
  else if c = '\n' ∨ c = '\r' then ([], .fold)
  else ([unescape c], .between)

/-- The characters that are read and the position after a character. -/
def step : Position → Char → List Char × Position
  | .between, c => stepBetween c
  | .escape, c => stepEscape c
  | .high, c => ([], .low (digitValue c))
  | .low first, c => ([Char.ofNat (16 * first + digitValue c)], .between)
  | .codePoint value, c =>
    if c = '}' then ([Char.ofNat value], .between)
    else if c = '{' ∨ c = '_' then ([], .codePoint value)
    else ([], .codePoint (16 * value + digitValue c))
  | .fold, c => if isFolded c then ([], .fold) else stepBetween c

end Position

/-- What is read up to the closing quote, and the rest of the text after it. -/
def plain (quote : Char) (position : Position) : List Char → Option (List Char × List Char)
  | [] => none
  | c :: cs =>
    if c = quote ∧ position.closes then some ([], cs)
    else
      (plain quote (position.step c).2 cs).map fun (read, rest) =>
        ((position.step c).1 ++ read, rest)

/-- What is read up to a quote with as many hash signs, and the rest of the text after them. -/
def rawFrom (hashes : Nat) : List Char → Option (List Char × List Char)
  | [] => none
  | c :: cs =>
    if c = '"' ∧ cs.take hashes = List.replicate hashes '#' then some ([], cs.drop hashes)
    else (rawFrom hashes cs).map fun (read, rest) => (c :: read, rest)

/-- What a raw text says of which the letter has been read, and the rest after it. -/
def raw (cs : List Char) : Option (List Char × List Char) :=
  match cs.dropWhile (· = '#') with
  | '"' :: rest => rawFrom (cs.takeWhile (· = '#')).length rest
  | _ => none

/-- A character of which the opening quote has been read, and the rest after it. -/
def character : List Char → Option (List Char × List Char)
  | '\\' :: cs => plain '\'' .escape cs
  | c :: '\'' :: rest => some ([c], rest)
  | _ => none

/-- The rest of a text after a suffix. -/
def afterSuffix : List Char → List Char
  | [] => []
  | c :: cs => if Identifier.opens c then cs.dropWhile Identifier.isContinue else c :: cs

/-- A text, if it is one, as a token. -/
def asText (found : Option (List Char × List Char)) : Option (Token × List Char) :=
  found.map fun (read, rest) => (.text (String.ofList read), afterSuffix rest)

/-- A constant of another kind, if it is one, as a token. -/
def asConstant (found : Option (List Char × List Char)) : Option (Token × List Char) :=
  found.map fun (_, rest) => (.constant, afterSuffix rest)

/-- The text or constant between quotes that a text begins with, and the rest of the text. -/
def read : List Char → Option (Token × List Char)
  | '"' :: cs => asText (plain '"' .between cs)
  | '\'' :: cs => asConstant (character cs)
  | 'r' :: cs => asText (raw cs)
  | 'b' :: '"' :: cs => asConstant (plain '"' .between cs)
  | 'b' :: '\'' :: cs => asConstant (character cs)
  | 'b' :: 'r' :: cs => asConstant (raw cs)
  | 'c' :: '"' :: cs => asConstant (plain '"' .between cs)
  | 'c' :: 'r' :: cs => asConstant (raw cs)
  | _ => none

end Redaction.Delimited
