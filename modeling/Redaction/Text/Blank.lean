import Redaction.Text.CodeRange

/-!
# Blank characters

The property `White_Space` of Unicode: twenty-five characters in ten ranges. Blanks separate the
words of a name and are stripped from around the entries of a list.
-/

namespace Redaction.Text

/-- The ranges of `White_Space`, ascending and apart. -/
def blankRanges : List CodeRange :=
  [⟨0x0009, 0x000D⟩, ⟨0x0020, 0x0020⟩, ⟨0x0085, 0x0085⟩, ⟨0x00A0, 0x00A0⟩, ⟨0x1680, 0x1680⟩,
   ⟨0x2000, 0x200A⟩, ⟨0x2028, 0x2029⟩, ⟨0x202F, 0x202F⟩, ⟨0x205F, 0x205F⟩, ⟨0x3000, 0x3000⟩]

/-- A character with the property `White_Space`. -/
def isBlank (c : Char) : Bool := CodeRange.covered blankRanges c.toNat

theorem ascending_blankRanges : CodeRange.ascending blankRanges = true := by decide

end Redaction.Text
