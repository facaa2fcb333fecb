import SenderPolicy.Text.CodePoint
import SenderPolicy.Text.CodeRange

/-!
# Blank characters

The characters that separate words: the white space of Unicode and the four information
separators U+001C to U+001F. Zero-width characters are not blank.
-/

namespace SenderPolicy

/-- The code points of the blank characters. -/
def blankRanges : List CodeRange :=
  [⟨0x9, 0xD⟩, ⟨0x1C, 0x20⟩, ⟨0x85, 0x85⟩, ⟨0xA0, 0xA0⟩, ⟨0x1680, 0x1680⟩, ⟨0x2000, 0x200A⟩,
   ⟨0x2028, 0x2029⟩, ⟨0x202F, 0x202F⟩, ⟨0x205F, 0x205F⟩, ⟨0x3000, 0x3000⟩]

/-- Whether a character separates words. -/
def isBlank (c : CodePoint) : Bool := CodeRange.covers blankRanges c.toNat

/-- The information separators, which separate words but do not pad a numeral. -/
def isSeparatorControl (c : CodePoint) : Bool := 0x1C ≤ c.toNat && c.toNat ≤ 0x1F

/-- Every blank character of ASCII that core knows is blank here. -/
theorem isBlank_of_isWhitespace {c : Char} (h : c.isWhitespace) : isBlank c := by
  simp only [Char.isWhitespace, Bool.or_eq_true, decide_eq_true_eq] at h
  rcases h with ((rfl | rfl) | rfl) | rfl <;> decide

end SenderPolicy
