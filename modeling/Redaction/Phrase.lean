import Redaction.Lexeme

/-!
# Phrases

A phrase is a lexeme, or a pair of brackets with the phrases between them. Parentheses, brackets
and braces pair up in every text that can be read. Angles do not: they also compare, so whether an
angle opens anything depends on what stands around it. The grammar of declarations reads phrases,
so that it never looks for the end of a bracket.
-/

namespace Redaction

/-- A lexeme, or a pair of brackets with what it encloses. -/
inductive Phrase where
  | single (l : Lexeme)
  | bracket (opening : Char) (inner : List Phrase)

namespace Phrase

/-! ## Reading -/

/-- A pair of brackets that is not yet closed, with the phrases in it so far. -/
structure Level where
  opening : Char
  inner : List Phrase := []

/-- Adds a phrase to a level. -/
def Level.add (level : Level) (p : Phrase) : Level := { level with inner := level.inner ++ [p] }

/-- Closes the innermost level. The outermost one stays open. -/
def close (inner : Level) : List Level → Level × List Level
  | [] => (inner, [])
  | outer :: rest => (outer.add (.bracket inner.opening inner.inner), rest)

/-- The innermost level and the levels around it after one more lexeme. -/
def step (levels : Level × List Level) (l : Lexeme) : Level × List Level :=
  match l.token with
  | .mark c =>
    if c ∈ ['(', '[', '{'] then ({ opening := c }, levels.1 :: levels.2)
    else if c ∈ [')', ']', '}'] then close levels.1 levels.2
    else (levels.1.add (.single l), levels.2)
  | _ => (levels.1.add (.single l), levels.2)

/-- The phrases that lexemes make. -/
def ofLexemes (lexemes : List Lexeme) : List Phrase :=
  (lexemes.foldl step ({ opening := '(' }, [])).1.inner

/-! ## Writing -/

/-- The mark that closes a bracket. -/
def closing : Char → Char
  | '(' => ')'
  | '[' => ']'
  | _ => '}'

mutual

/-- What a phrase is spelled like with nothing between its lexemes. -/
def text : Phrase → String
  | .single l => l.spelling
  | .bracket opening inner =>
    String.singleton opening ++ textAll inner ++ String.singleton (closing opening)

/-- What phrases are spelled like with nothing between them. -/
def textAll : List Phrase → String
  | [] => ""
  | p :: ps => text p ++ textAll ps

end

/-! ## Looking at a phrase -/

/-- The phrase is the given mark. -/
def isMark (c : Char) : Phrase → Bool
  | .single l => l.token = .mark c
  | .bracket .. => false

/-- The phrase is a mark that is joined to the next one. -/
def isJoined : Phrase → Bool
  | .single l => l.joined
  | .bracket .. => false

/-- The word that the phrase is. -/
def word? : Phrase → Option String
  | .single ⟨.word w, _, _⟩ => some w
  | _ => none

/-- The phrase is the given word. -/
def isWord (w : String) (p : Phrase) : Bool := p.word? == some w

/-- The words that name nothing, since the grammar needs them. -/
def reservedWords : List String :=
  ["_", "Self", "abstract", "as", "async", "await", "become", "box", "break", "const", "continue",
    "crate", "do", "dyn", "else", "enum", "extern", "false", "final", "fn", "for", "if", "impl",
    "in", "let", "loop", "macro", "match", "mod", "move", "mut", "override", "priv", "pub", "ref",
    "return", "self", "static", "struct", "super", "trait", "true", "try", "type", "typeof",
    "unsafe", "unsized", "use", "virtual", "where", "while", "yield"]

/-- The phrase is a word that may name something. -/
def isName (p : Phrase) : Bool := p.word?.any (· ∉ reservedWords)

/-- The phrase is a word that a path without arguments may have. -/
def isModuleName (p : Phrase) : Bool :=
  p.isName || p.word?.any (· ∈ ["Self", "crate", "self", "super"])

/-- The phrase is a lifetime. -/
def isLifetime : Phrase → Bool
  | .single ⟨.lifetime _, _, _⟩ => true
  | _ => false

/-- The phrase is a number. -/
def isNumber : Phrase → Bool
  | .single l => l.token = .number
  | .bracket .. => false

/-- The phrase is a constant: a text, a number, a constant of another kind or a truth value. -/
def isConstant : Phrase → Bool
  | .single ⟨.text _, _, _⟩ => true
  | .single ⟨.number, _, _⟩ => true
  | .single ⟨.constant, _, _⟩ => true
  | .single ⟨.word w, _, _⟩ => w == "true" || w == "false"
  | _ => false

/-- The phrase is a pair of brackets that opens with the given one. -/
def isBracket (c : Char) : Phrase → Bool
  | .single _ => false
  | .bracket opening _ => opening == c

/-- The phrase is a pair of brackets. -/
def isAnyBracket : Phrase → Bool
  | .single _ => false
  | .bracket .. => true

/-- Phrases begin with the given marks, joined to each other. -/
def beginWith : List Char → List Phrase → Bool
  | [], _ => true
  | _, [] => false
  | [c], p :: _ => p.isMark c
  | c :: cs, p :: ps => p.isMark c && p.isJoined && beginWith cs ps

end Phrase

end Redaction
