/-!
# Ranges of characters

A property of characters is given by ranges of code points, both ends included.
-/

namespace PluginSchema.Text

/-- Whether a character lies in one of some ranges. -/
def inRanges (ranges : List (Nat × Nat)) (c : Char) : Bool :=
  ranges.any fun range => range.1 ≤ c.toNat && c.toNat ≤ range.2

end PluginSchema.Text
