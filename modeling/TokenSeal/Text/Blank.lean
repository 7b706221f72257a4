import TokenSeal.Text.Ranges

/-!
# Blanks

The white space that separates and ends things in a settings file and in console output: the 25
code points with the Unicode property White_Space and the four information separators U+001C to
U+001F.
-/

namespace TokenSeal

/-- White_Space and the information separators. -/
def blankRanges : Ranges :=
  [(0x09, 0x0D), (0x1C, 0x20), (0x85, 0x85), (0xA0, 0xA0), (0x1680, 0x1680), (0x2000, 0x200A),
    (0x2028, 0x2029), (0x202F, 0x202F), (0x205F, 0x205F), (0x3000, 0x3000)]

example : blankRanges.ascending = true := by decide +kernel

namespace CodePoint

/-- Whether a code point is white space, line ends included. -/
def isBlank (c : CodePoint) : Bool := blankRanges.contains c

end CodePoint

end TokenSeal
