import Redaction.Text.Invisible

/-!
# Quoted text

A value shown for inspection stands in double quotes. Inside them the quote, the backslash and
four common control characters have short escapes, every other invisible character is spelled by
its code point in lower-case hexadecimal, and all other characters stand for themselves.
-/

namespace Redaction.Text

/-- The characters with an escape of two characters, and its second one. -/
def escapeLetter? : Char → Option Char
  | '\x00' => some '0'
  | '\t' => some 't'
  | '\r' => some 'r'
  | '\n' => some 'n'
  | '"' => some '"'
  | '\\' => some '\\'
  | _ => none

/-- One character as it stands between the quotes. -/
def quotedChar (c : Char) : List Char :=
  match escapeLetter? c with
  | some letter => ['\\', letter]
  | none =>
    if isInvisible c then ['\\', 'u', '{'] ++ Nat.toDigits 16 c.toNat ++ ['}']
    else [c]

/-- A text between quotes. -/
def quoted (s : String) : String :=
  String.ofList ('"' :: s.toList.flatMap quotedChar ++ ['"'])

end Redaction.Text
