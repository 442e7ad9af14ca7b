import Redaction.Identifier.Continue

/-!
# Identifiers

An identifier opens with a low line or a character of `XID_Start` and goes on with characters of
`XID_Continue`. Names of segments can be listed in a format spec exactly when they are
identifiers. Letters of every script qualify, and so does a letter with combining marks after it;
superscripts, fractions and enclosed numbers do not.
-/

namespace Redaction

namespace Identifier

/-- A character that an identifier may open with. -/
def opens (c : Char) : Bool := c == '_' || isStart c

/-- The characters form an identifier. -/
def accepts : List Char → Bool
  | [] => false
  | c :: cs => opens c && cs.all isContinue

end Identifier

/-- The text is an identifier. -/
def isIdentifier (s : String) : Bool := Identifier.accepts s.toList

namespace Identifier

@[simp] theorem accepts_nil : accepts [] = false := rfl

theorem isContinue_of_opens {c : Char} (h : opens c = true) : isContinue c = true := by
  simp only [opens, Bool.or_eq_true, beq_iff_eq] at h
  rcases h with rfl | h
  · decide
  · exact isContinue_of_isStart h

/-- Every character of an identifier continues identifiers. -/
theorem isContinue_of_mem {cs : List Char} (h : accepts cs = true) {c : Char} (hc : c ∈ cs) :
    isContinue c = true := by
  cases cs with
  | nil => simp at hc
  | cons d ds =>
    simp only [accepts, Bool.and_eq_true, List.all_eq_true] at h
    rcases List.mem_cons.1 hc with rfl | hc
    · exact isContinue_of_opens h.1
    · exact h.2 c hc

end Identifier

end Redaction
