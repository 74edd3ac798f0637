import Snippet.Unicode.Range

/-!
# Blanks

The White_Space property of the Unicode standard. The zero-width space, the byte order mark and
the information separators U+001C to U+001F are no blanks, and neither are digits
(`isBlank_of_isDigit`).
-/

namespace Snippet.Unicode

/-- The code points with the property White_Space. -/
def blankRanges : Ranges :=
  [(0x9, 0xD), (0x20, 0x20), (0x85, 0x85), (0xA0, 0xA0), (0x1680, 0x1680), (0x2000, 0x200A),
   (0x2028, 0x2029), (0x202F, 0x202F), (0x205F, 0x205F), (0x3000, 0x3000)]

def isBlank (c : Char) : Bool :=
  blankRanges.contains c.toNat

theorem isBlank_of_isDigit {c : Char} (digit : c.isDigit = true) : isBlank c = false := by
  obtain ⟨above, below⟩ := Char.isDigit_iff_toNat.1 digit
  have above : 48 ≤ c.toNat := above
  have below : c.toNat ≤ 57 := below
  simp only [isBlank, blankRanges, Ranges.contains]
  grind

end Snippet.Unicode
