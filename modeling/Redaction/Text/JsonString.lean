/-!
# Texts as JSON strings

A JSON string escapes the quote, the backslash and the control characters below the space: five
of these by a letter, the others by four hexadecimal digits. Everything else is written as it is,
also the solidus, the delete character and the characters beyond ASCII.
-/

namespace Redaction.Text

/-- The characters that JSON escapes with a letter, and that letter. -/
def jsonLetter? : Char → Option Char
  | '"' => some '"'
  | '\\' => some '\\'
  | '\x08' => some 'b'
  | '\x0c' => some 'f'
  | '\n' => some 'n'
  | '\r' => some 'r'
  | '\t' => some 't'
  | _ => none

/-- One character as it stands in a JSON string. -/
def jsonChar (c : Char) : List Char :=
  match jsonLetter? c with
  | some letter => ['\\', letter]
  | none =>
    if c.toNat < 0x20 then
      ['\\', 'u', '0', '0', Nat.digitChar (c.toNat / 16), Nat.digitChar (c.toNat % 16)]
    else [c]

/-- A text as a JSON string, quotes included. -/
def jsonString (s : String) : String :=
  String.ofList ('"' :: s.toList.flatMap jsonChar ++ ['"'])

end Redaction.Text
