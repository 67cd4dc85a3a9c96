import Reckoner.Text.Ranges

/-!
# Blank characters

The characters that separate words: the control characters that move the writing position, the
four information separators, and every space, line or paragraph separator of Unicode.
-/
namespace Reckoner.Text

/-- The ranges of blank characters. -/
def blankRanges : List (Nat × Nat) :=
  [(0x09, 0x0D), (0x1C, 0x20), (0x85, 0x85), (0xA0, 0xA0), (0x1680, 0x1680), (0x2000, 0x200A),
   (0x2028, 0x2029), (0x202F, 0x202F), (0x205F, 0x205F), (0x3000, 0x3000)]

/-- Whether a character only separates words. -/
def isBlank (c : Char) : Bool :=
  inRanges blankRanges c

/-- A text without the blanks at its two ends. -/
def trim (cs : List Char) : List Char :=
  ((cs.dropWhile isBlank).reverse.dropWhile isBlank).reverse

/-- The words of a text, which blanks separate. -/
def words (cs : List Char) : List (List Char) :=
  (cs.splitOnP isBlank).filter (· ≠ [])

end Reckoner.Text
