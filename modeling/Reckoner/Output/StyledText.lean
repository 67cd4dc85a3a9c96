import Reckoner.Output.Emoji
import Reckoner.Output.Style
import Reckoner.Text.Width

/-!
# Styled text

A styled text is a text and the spans of it in which styles hold. Where spans overlap, the later one
lies on top. In its text the codes of emoji have been filled in, and control characters that would move
the writing position are left out.

A text can be cut into lines, and the tabs of a line can be filled up to columns of eight. At last a
line is cut into runs, each in one style.
-/
namespace Reckoner

/-- A part of a text in which a style holds, by the places of its first character and of the one
behind it. A span may be empty. -/
structure Span (σ : Type) where
  /-- The place of the first character. -/
  start : Nat
  /-- The place behind the last character. -/
  stop : Nat
  /-- The style. -/
  style : σ
  deriving DecidableEq, Repr

/-- A text and the spans of it in which styles hold. -/
structure StyledText (σ : Type) where
  /-- The text. -/
  text : List Char
  /-- The spans; a later one lies on top of the ones before it. -/
  spans : List (Span σ) := []
  deriving DecidableEq, Repr

/-- A text in one style. -/
structure StyledText.Run where
  /-- The style. -/
  style : Style
  /-- The text. -/
  text : List Char
  deriving DecidableEq, Repr

namespace Span

variable {σ : Type}

/-- The part of a span in a part of the text, by its places in that part; an empty one is dropped. -/
def cut? (start stop : Nat) (s : Span σ) : Option (Span σ) :=
  if max start s.start < min stop s.stop then
    some ⟨max start s.start - start, min stop s.stop - start, s.style⟩
  else none

/-- A span of a text that stands behind `n` more characters. -/
def shift (n : Nat) (s : Span σ) : Span σ :=
  ⟨s.start + n, s.stop + n, s.style⟩

/-- A span that goes on for `n` more characters if it reaches the end of its text. -/
def extend (length n : Nat) (s : Span σ) : Span σ :=
  if length ≤ s.stop then { s with stop := s.stop + n } else s

/-- Whether a span holds the character at a place. -/
def holds (place : Nat) (s : Span σ) : Bool :=
  s.start ≤ place && place < s.stop

end Span

namespace StyledText

variable {σ : Type}

/-- Whether a character would move the writing position. -/
def isControl (c : Char) : Bool :=
  c == '\x07' || c == '\x08' || c == '\x0B' || c == '\x0C' || c == '\r'

/-- A piece of text as it is shown. -/
def shown (piece : List Char) : List Char :=
  (Emoji.fill piece).filter fun c => !isControl c

/-- A text without styles. -/
def plain (text : List Char) : StyledText σ :=
  ⟨shown text, []⟩

/-- The characters between two places. -/
def slice (start stop : Nat) (cs : List Char) : List Char :=
  (cs.take stop).drop start

/-- The part of a text between two places. -/
def part (t : StyledText σ) (start stop : Nat) : StyledText σ where
  text := slice start stop t.text
  spans := t.spans.filterMap (Span.cut? start stop)

/-- A text behind another one. -/
def append (t u : StyledText σ) : StyledText σ where
  text := t.text ++ u.text
  spans := t.spans ++ u.spans.map (Span.shift t.text.length)

/-- The places of a character in a text. -/
def places (c : Char) (cs : List Char) : List Nat :=
  (cs.zipIdx.filter (·.1 = c)).map (·.2)

/-- The lines of a text. A text of one line stays as it is. -/
def lines (t : StyledText σ) : List (StyledText σ) :=
  match places '\n' t.text with
  | [] => [t]
  | breaks =>
    List.zipWith t.part (0 :: breaks.map (· + 1)) (breaks ++ [t.text.length])

/-- The columns from one tab stop to the next. -/
def tabStop : Nat := 8

/-- A part of a line with a tab as its last character, where the tab is filled up: it becomes a space
and as many more as lead to the next tab stop, in the styles at the end of the part. `column` is where
the part begins. -/
def fillTab (column : Nat) (t : StyledText σ) : StyledText σ :=
  let text := t.text.dropLast ++ [' ']
  let reached := (column + Text.width text) % tabStop
  let spaces := if reached = 0 then 0 else tabStop - reached
  ⟨text ++ List.replicate spaces ' ', t.spans.map (Span.extend text.length spaces)⟩

/-- The parts of a line, each but the last with a tab as its last character, with all tabs filled up. -/
def fillParts (column : Nat) : List (StyledText σ) → StyledText σ
  | [] => ⟨[], []⟩
  | [last] => last
  | part :: parts =>
    let filled := part.fillTab column
    filled.append (fillParts (column + Text.width filled.text) parts)

/-- A line with its tabs filled up. A line without tabs stays as it is. -/
def fillTabs (t : StyledText σ) : StyledText σ :=
  match places '\t' t.text with
  | [] => t
  | tabs =>
    let ends := tabs.map (· + 1)
    fillParts 0 (List.zipWith t.part (0 :: ends) (ends ++ [t.text.length]))

/-- A text with the styles that are found for its spans. -/
def mapStyles {τ ε : Type} (find : σ → Except ε τ) (t : StyledText σ) :
    Except ε (StyledText τ) := do
  let spans ← t.spans.mapM fun s => do
    let style ← find s.style
    return Span.mk s.start s.stop style
  return ⟨t.text, spans⟩

/-- The places where a span begins or ends, and those of the whole text, in order. -/
def borders (t : StyledText σ) : List Nat :=
  ((0 :: t.text.length :: (t.spans.map (·.start) ++ t.spans.map (·.stop))).mergeSort).eraseReps

/-- The style at a place: those of the spans that hold it, the later ones on top. -/
def styleAt (t : StyledText Style) (place : Nat) : Style :=
  (t.spans.filter (Span.holds place)).foldl (fun outer s => s.style.atop outer) {}

/-- The runs of a text. -/
def runs (t : StyledText Style) : List Run :=
  List.zipWith (fun start stop => ⟨t.styleAt start, slice start stop t.text⟩)
    t.borders t.borders.tail

end StyledText
end Reckoner
