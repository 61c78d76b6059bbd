/-!
# Sets of code points

A set of characters is given by ranges of code points, both ends included. `inRanges` tells
whether one of them holds a character.
-/

namespace CursorScope.Text

/-- Some range of code points, both ends included, holds the character. -/
def inRanges (ranges : List (Nat × Nat)) (c : Char) : Bool :=
  ranges.any fun range => range.1 ≤ c.toNat && c.toNat ≤ range.2

end CursorScope.Text
