import Redaction.Lexeme.Comment
import Redaction.Lexeme.Delimited
import Redaction.Lexeme.Numeral
import Redaction.Text.Blank
import Redaction.Text.Quoted

/-!
# Lexemes

A lexeme is a token together with the way it is written. Blanks and ordinary comments stand between
lexemes and are left out; the two marks that set the direction of writing count as blank.
Documentation is short for an attribute `doc` with a text, and reads as the lexemes of one.

A text is read from left to right, and every step takes at least one character. Any text can be
read: what nothing else accounts for is a mark. A mark is a single character. It is joined to the
next one when nothing stands between them; what joined marks mean together depends on where they
stand, so they are put together later.

The names, paths and types of a declaration are given as texts and read as lexemes, and tokens of
attributes are lexemes without the way they are written. The grammar of declarations goes on from
here, and it writes bounds again as their lexemes were written.
-/

namespace Redaction

/-- A token as it is written, and whether it is a mark that is joined to the next one. -/
structure Lexeme where
  token : Token
  spelling : String
  joined : Bool := false
  deriving DecidableEq, Repr

namespace Lexeme

/-- A character that may stand between lexemes: a blank, or one of the two marks that set the
direction of writing. -/
def isGap (c : Char) : Bool := Text.isBlank c || c == '\u200E' || c == '\u200F'

/-- What a text begins with, up to the rest of it. -/
def spellingUpTo (rest cs : List Char) : String := String.ofList (cs.take (cs.length - rest.length))

/-- A mark. -/
def mark (c : Char) : Lexeme := ⟨.mark c, String.singleton c, false⟩

/-- A word. -/
def word (spelling : String) : Lexeme := ⟨.word spelling, spelling, false⟩

/-- Documentation as it stands between quotes. A null character is written out where an octal digit
follows, so that the two are not taken for one escape. -/
def quotedCharacters : List Char → List Char
  | [] => []
  | c :: cs =>
    (if c = '\x00' ∧ cs.head?.any fun d => '0' ≤ d && d ≤ '7' then ['\\', 'x', '0', '0']
      else Text.quotedChar c) ++ quotedCharacters cs

/-- The attribute that documentation is short for, without the sign that opens it. -/
def documentation (text : String) : List Lexeme :=
  [mark '[', word "doc", mark '=',
    ⟨.text text, String.ofList ('"' :: quotedCharacters text.toList ++ ['"']), false⟩, mark ']']

/-- The lexemes that a comment stands for. -/
def ofComment : Comment → List Lexeme
  | .ordinary => []
  | .outer text => mark '#' :: documentation text
  | .inner text => mark '#' :: mark '!' :: documentation text

/-- The rest of a text after the word that it begins with, if it begins with one. -/
def afterWord : List Char → Option (List Char)
  | 'r' :: '#' :: c :: cs =>
    if Identifier.opens c then some (cs.dropWhile Identifier.isContinue)
    else some ('#' :: c :: cs)
  | c :: cs => if Identifier.opens c then some (cs.dropWhile Identifier.isContinue) else none
  | [] => none

/-- The word that a text begins with, and the rest of the text. -/
def readWord (cs : List Char) : Option (Lexeme × List Char) :=
  (afterWord cs).map fun rest => (word (spellingUpTo rest cs), rest)

/-- A mark that may be joined to the one in front of it. -/
def isJoining (c : Char) : Bool := c ∈ "~!@#$%^&*-=+|;:,<.>/?'".toList

/-- A mark in front of this text is joined to it: another mark follows, and no comment. -/
def joins (cs : List Char) : Bool := cs.head?.any isJoining && (Comment.read cs).isNone

/-- The mark or lifetime that a text begins with, and the rest of the text. -/
def readMark (c : Char) (cs : List Char) : Lexeme × List Char :=
  match c, afterWord cs with
  | '\'', some rest => (⟨.lifetime (spellingUpTo rest cs), spellingUpTo rest (c :: cs), false⟩, rest)
  | c, _ => (⟨.mark c, String.singleton c, joins cs⟩, cs)

/-- What stands for a constant that could not be read. It is taken for a constant. -/
def lostConstant : String := "(/*ERROR*/)"

/-- The lexeme that a text begins with, where neither a blank nor a comment stands, and the rest of
the text. -/
def readLexeme (c : Char) (cs : List Char) : Lexeme × List Char :=
  match Delimited.read (c :: cs) with
  | some (token, rest) => (⟨token, spellingUpTo rest (c :: cs), false⟩, rest)
  | none =>
    if c.isDigit then
      (⟨.number, spellingUpTo (Numeral.rest (c :: cs)) (c :: cs), false⟩, Numeral.rest (c :: cs))
    else if lostConstant.toList.isPrefixOf (c :: cs) then
      (⟨.constant, lostConstant, false⟩, (c :: cs).drop lostConstant.length)
    else (readWord (c :: cs)).getD (readMark c cs)

/-- The lexemes that the front of a text stands for, and the rest of the text. -/
def next (c : Char) (cs : List Char) : List Lexeme × List Char :=
  if isGap c then ([], cs)
  else
    match Comment.read (c :: cs) with
    | some (comment, rest) => (ofComment comment, rest)
    | none => ([(readLexeme c cs).1], (readLexeme c cs).2)

/-- The lexemes of a text, read in so many steps at most. -/
def read : Nat → List Char → List Lexeme
  | _, [] => []
  | 0, _ => []
  | n + 1, c :: cs => (next c cs).1 ++ read n (next c cs).2

/-- The characters of a text after a byte order mark. -/
def afterOrderMark : List Char → List Char
  | [] => []
  | c :: cs => if c == '\uFEFF' then cs else c :: cs

/-- The lexemes of a text. A byte order mark in front is no part of it. -/
def ofText (s : String) : List Lexeme := read s.toList.length (afterOrderMark s.toList)

/-- What lexemes are spelled like with nothing between them. -/
def spelled (lexemes : List Lexeme) : String := String.join (lexemes.map (·.spelling))

end Lexeme

namespace Token

/-- The tokens of lexemes. Two colons that are joined make one mark. -/
def ofLexemes : List Lexeme → List Token
  | ⟨.mark ':', _, true⟩ :: ⟨.mark ':', _, _⟩ :: rest => .pathMark :: ofLexemes rest
  | l :: rest => l.token :: ofLexemes rest
  | [] => []

/-- The tokens of a text. -/
def ofText (s : String) : List Token := ofLexemes (Lexeme.ofText s)

end Token

end Redaction
