import Redaction.Text.CaseTables

/-!
# Letter case

`upper` and `lower` are the full case mappings of a single character. They look at nothing but
the character: the small sigma at the end of a word is not special, and a digraph goes to its
capital form and not to its title form. An image may have up to three characters.
-/

namespace Redaction.Text

/-- The image of a character under a mapping given by its runs and its expansions. -/
def caseImage (runs : List CaseRun) (expansions : List (Nat × List Nat)) (c : Char) :
    List Char :=
  match CaseRun.find? runs c.toNat with
  | some n => [Char.ofNat n]
  | none =>
    match expansions.lookup c.toNat with
    | some ns => ns.map Char.ofNat
    | none => [c]

/-- The full upper-case mapping of one character. -/
def upper (c : Char) : List Char := caseImage upperRuns upperExpansions c

/-- The full lower-case mapping of one character. -/
def lower (c : Char) : List Char := caseImage lowerRuns lowerExpansions c

end Redaction.Text
