import Redaction.Text.Blank
import Redaction.Text.LetterCase

/-!
# Title case

The words of a name are its stretches without blanks. Title case capitalizes the first character
of every word and lowers the others; the blanks between the words stay as they are.
-/

namespace Redaction.Text

/-- Title case from a given point on: `opening` says that the next character that is not blank
opens a word. -/
def titleFrom (opening : Bool) : List Char → List Char
  | [] => []
  | c :: cs =>
    if isBlank c then c :: titleFrom true cs
    else (if opening then upper c else lower c) ++ titleFrom false cs

/-- Every word with a capital first character, the rest in small letters. -/
def titleCase (name : String) : String := String.ofList (titleFrom true name.toList)

@[simp] theorem titleFrom_nil (opening : Bool) : titleFrom opening [] = [] := rfl

theorem titleFrom_cons_of_blank {c : Char} (h : isBlank c = true) (opening : Bool)
    (cs : List Char) : titleFrom opening (c :: cs) = c :: titleFrom true cs := by
  simp [titleFrom, h]

end Redaction.Text
