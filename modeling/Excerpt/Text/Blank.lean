import Excerpt.Text.Basic
import Excerpt.Text.CharRange

/-! # Blank characters

The characters with the Unicode property `White_Space`. -/

namespace Excerpt

def blankRanges : List CharRange :=
  [(0x09, 0x0D), (0x20, 0x20), (0x85, 0x85), (0xA0, 0xA0), (0x1680, 0x1680), (0x2000, 0x200A),
    (0x2028, 0x2029), (0x202F, 0x202F), (0x205F, 0x205F), (0x3000, 0x3000)]

/-- Blank characters are those of the property `White_Space`. -/
def isBlank (c : Char) : Bool :=
  inRanges c.toNat blankRanges

/-- A text is blank when it holds blank characters only. -/
def Text.isBlank (t : Text) : Bool :=
  t.all Excerpt.isBlank

end Excerpt
