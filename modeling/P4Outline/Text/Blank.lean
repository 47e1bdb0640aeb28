import P4Outline.Text.CodePoints

/-!
# White space

White space of every script, and the two ways in which a text loses it: from its ends (`trim`) and
from its front (`skipBlanks`).
-/

namespace P4Outline.Text

/-- The white space characters. -/
def blankPoints : CodePoints :=
  [(0x9, 0xD), (0x1C, 0x20), (0x85, 0x85), (0xA0, 0xA0), (0x1680, 0x1680), (0x2000, 0x200A),
   (0x2028, 0x2029), (0x202F, 0x202F), (0x205F, 0x205F), (0x3000, 0x3000)]

/-- White space: the controls from tab to carriage return and from file to unit separator, next
line, and every space and separator of the general categories for those. -/
def isBlank (c : Char) : Bool := blankPoints.holds c.toNat

/-- The text from its first character that is no white space. -/
def skipBlanks (cs : List Char) : List Char := cs.dropWhile isBlank

/-- The text up to its last character that is no white space. -/
def trimRight (cs : List Char) : List Char := (cs.reverse.dropWhile isBlank).reverse

/-- The text without the white space at its two ends. -/
def trim (cs : List Char) : List Char := trimRight (skipBlanks cs)

/-- Whether a text is white space throughout. -/
def isBlankText (cs : List Char) : Bool := cs.all isBlank

/-! ### Lengths -/

theorem length_skipBlanks_le (cs : List Char) : (skipBlanks cs).length ≤ cs.length :=
  (List.dropWhile_suffix _).length_le

end P4Outline.Text
