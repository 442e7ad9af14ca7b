import Redaction.Identifier
import Redaction.Text.Blank

/-!
# Identifiers hold no separators

No character that may stand in an identifier is blank or a comma. A list of identifiers can
therefore be padded with blanks and separated by commas, and taken apart again.
-/

namespace Redaction.Identifier

open Text

/-- No code point of `White_Space` continues an identifier: each of them is looked up. -/
theorem not_covered_of_blankRange :
    ∀ r ∈ blankRanges, ∀ n ∈ List.range' r.first (r.last + 1 - r.first),
      CodeRange.covered startRanges n = false ∧ CodeRange.covered innerRanges n = false := by
  decide +kernel

theorem isContinue_of_isBlank {c : Char} (h : isBlank c = true) : isContinue c = false := by
  obtain ⟨r, hr, hfirst, hlast⟩ := CodeRange.exists_covers_of_covered h
  have hmem : c.toNat ∈ List.range' r.first (r.last + 1 - r.first) := by
    rw [List.mem_range'_1]
    omega
  obtain ⟨hstart, hinner⟩ := not_covered_of_blankRange r hr c.toNat hmem
  rw [isContinue, isStart, hstart, hinner]
  rfl

theorem isContinue_comma : isContinue ',' = false := by decide +kernel

variable {cs : List Char}

/-- An identifier is free of every character that does not continue identifiers. -/
theorem not_mem_of_accepts (h : accepts cs = true) {c : Char} (hc : isContinue c = false) :
    c ∉ cs := by
  intro hmem
  have hcontinue := isContinue_of_mem h hmem
  rw [hc] at hcontinue
  exact Bool.false_ne_true hcontinue

theorem isBlank_of_accepts (h : accepts cs = true) {c : Char} (hc : c ∈ cs) :
    isBlank c = false := by
  rw [← Bool.not_eq_true]
  intro hblank
  exact not_mem_of_accepts h (isContinue_of_isBlank hblank) hc

theorem ne_nil_of_accepts (h : accepts cs = true) : cs ≠ [] := by
  rintro rfl
  rw [accepts_nil] at h
  exact Bool.false_ne_true h

end Redaction.Identifier
