/-!
# Tokens

What is declared in a text is read as tokens: words, texts, numbers and other constants, lifetimes
and marks. A word is an identifier or a keyword; a raw word keeps its `r#` and differs from the
plain one. Two colons with nothing between them are one mark, which joins words to paths.

Of a text the token has the value. How the text is written is left to the lexeme.
-/

namespace Redaction

/-- A token. -/
inductive Token where
  | word (spelling : String)
  | text (value : String)
  | number
  | constant
  | lifetime (name : String)
  | pathMark
  | mark (c : Char)
  deriving DecidableEq, Repr

end Redaction
