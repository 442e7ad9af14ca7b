import Redaction.Lexeme.Delimited

/-!
# Numerals

A numeral is a digit and whatever continues an identifier after it: more digits, low lines, the
letter of a base, a suffix. Decimal digits may be followed by a point and a fraction, but not where
the point begins a range or leads to a name. The letter of an exponent at the end may be followed
by a sign and its digits.

A position in a tuple is a numeral too, or several with points between them; `plain` writes it with
decimal digits alone.
-/

namespace Redaction.Numeral

/-- The characters are decimal digits and low lines. -/
def isDecimal (cs : List Char) : Bool := cs.all fun c => c.isDigit || c == '_'

/-- The characters are decimal digits and the letter of an exponent. -/
def opensExponent (cs : List Char) : Bool :=
  (cs.getLast? == some 'e' || cs.getLast? == some 'E') && isDecimal cs.dropLast

/-- A sign and the digits of an exponent stand here. -/
def isSigned : List Char → Bool
  | sign :: cs =>
    (sign == '+' || sign == '-') && (cs.dropWhile (· == '_')).head?.any Char.isDigit
  | [] => false

/-- A point stands here that belongs to the number. -/
def isPoint : List Char → Bool
  | '.' :: cs => !cs.head?.any fun c => c == '.' || Identifier.opens c
  | _ => false

/-- The rest of a text after digits that may open an exponent. -/
def afterDigits (cs : List Char) : List Char :=
  let rest := cs.dropWhile Identifier.isContinue
  if opensExponent (cs.takeWhile Identifier.isContinue) && isSigned rest then
    rest.tail.dropWhile Identifier.isContinue
  else rest

/-- The rest of a text after the numeral that it begins with. -/
def rest (cs : List Char) : List Char :=
  let after := cs.dropWhile Identifier.isContinue
  if isDecimal (cs.takeWhile Identifier.isContinue) && isPoint after then afterDigits after.tail
  else afterDigits cs

/-- The value of digits in a base. Low lines are passed over. -/
def valueIn (base : Nat) (cs : List Char) : Nat :=
  (cs.filter (· ≠ '_')).foldl (fun value c => value * base + Delimited.digitValue c) 0

/-- The value of a numeral with the letter of its base. -/
def value : List Char → Nat
  | '0' :: 'x' :: cs => valueIn 16 cs
  | '0' :: 'o' :: cs => valueIn 8 cs
  | '0' :: 'b' :: cs => valueIn 2 cs
  | cs => valueIn 10 cs

/-- A whole number as a plain decimal numeral. -/
def plainPiece (cs : List Char) : List Char :=
  if cs.isEmpty then [] else Nat.toDigits 10 (value cs)

/-- Whole numbers with points between them as plain decimal numerals. -/
def plain (s : String) : String :=
  String.ofList (['.'].intercalate ((s.toList.splitOn '.').map plainPiece))

end Redaction.Numeral
