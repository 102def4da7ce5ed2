import PluginSchema.Text.Ranges

/-!
# Spaces

The characters that separate words or lines and show nothing.
-/

namespace PluginSchema.Text

/-- The ranges of the spaces. -/
def spaceRanges : List (Nat × Nat) :=
  [(0x9, 0xd), (0x20, 0x20), (0x85, 0x85), (0xa0, 0xa0), (0x1680, 0x1680), (0x2000, 0x200a),
   (0x2028, 0x2029), (0x202f, 0x202f), (0x205f, 0x205f), (0x3000, 0x3000)]

/-- Whether a character is a space. -/
def isSpace (c : Char) : Bool := inRanges spaceRanges c

/-- The text without the spaces around it. -/
def trim (text : List Char) : List Char :=
  ((text.dropWhile isSpace).reverse.dropWhile isSpace).reverse

end PluginSchema.Text
