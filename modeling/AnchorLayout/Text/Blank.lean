import AnchorLayout.Text.Ranges

/-!
# White space
-/

namespace AnchorLayout.Text

/-- Characters with the property `White_Space`. -/
def whiteSpace : Ranges :=
  [(0x9, 0xD), (0x20, 0x20), (0x85, 0x85), (0xA0, 0xA0), (0x1680, 0x1680), (0x2000, 0x200A),
   (0x2028, 0x2029), (0x202F, 0x202F), (0x205F, 0x205F), (0x3000, 0x3000)]

/-- A text without white space at its end. -/
def trimEnd (cs : List Char) : List Char := (cs.reverse.dropWhile whiteSpace.contains).reverse

end AnchorLayout.Text
