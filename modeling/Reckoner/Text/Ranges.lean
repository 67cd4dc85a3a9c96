/-!
# Classes of characters as ranges of code points

A class of characters is given as a list of ranges, each by its first and its last code point.
-/
namespace Reckoner.Text

/-- Whether one of the ranges holds the character. -/
def inRanges (ranges : List (Nat × Nat)) (c : Char) : Bool :=
  ranges.any fun range => range.1 ≤ c.toNat && c.toNat ≤ range.2

end Reckoner.Text
