import Reckoner.Output.Color
import Reckoner.Text.Blank

/-!
# Text styles

A style switches attributes of text on or off and may give it a color, a background and an address to
lead to. A terminal is told about a style by the numbers of its attributes and colors, between two
escape sequences; addresses are not shown.
-/
namespace Reckoner

/-- How text is shown. Attributes are given by their numbers. -/
structure Style where
  /-- The attributes that are switched on, in ascending order. -/
  on : List Nat := []
  /-- The attributes that are switched off, in ascending order. -/
  off : List Nat := []
  /-- The color of the text. -/
  color? : Option Color := none
  /-- The color behind the text. -/
  background? : Option Color := none
  /-- The address that the text leads to. -/
  link? : Option (List Char) := none
  deriving DecidableEq, Repr

namespace Style

/-- The names of the attributes and their numbers, full names first. -/
def attributes : List (String × Nat) :=
  [("bold", 1), ("b", 1), ("dim", 2), ("d", 2), ("italic", 3), ("i", 3), ("underline", 4), ("u", 4),
   ("blink", 5), ("blink2", 6), ("reverse", 7), ("r", 7), ("conceal", 8), ("c", 8), ("strike", 9),
   ("s", 9), ("underline2", 21), ("uu", 21), ("frame", 51), ("encircle", 52), ("overline", 53),
   ("o", 53)]

/-- The numbers of the attributes in ascending order. -/
def attributeNumbers : List Nat :=
  [1, 2, 3, 4, 5, 6, 7, 8, 9, 21, 51, 52, 53]

/-- The number of the attribute with a name. -/
def attribute? (name : List Char) : Option Nat :=
  attributes.lookup (String.ofList name)

/-- Switches an attribute on or off. -/
def switch (style : Style) (number : Nat) (value : Bool) : Style :=
  let others (ns : List Nat) := ns.filter (· ≠ number)
  let within (ns : List Nat) := attributeNumbers.filter fun n => n = number ∨ n ∈ ns
  if value then { style with on := within style.on, off := others style.off }
  else { style with on := others style.on, off := within style.off }

/-- The style that a list of words asks for, on top of a style. Words may be written in any case, but
not an attribute that is switched off. -/
def ofWords (style : Style) : List (List Char) → Except Color.Defect Style
  | [] => .ok style
  | word :: words =>
    match String.ofList (Text.lower word), words with
    | "on", name :: words => do
      let color ← Color.ofWord name
      ofWords { style with background? := some color } words
    | "not", name :: words =>
      match attribute? name with
      | some n => ofWords (style.switch n false) words
      | none => .error .unknown
    | "link", address :: words => ofWords { style with link? := some address } words
    | "on", [] | "not", [] | "link", [] => .error .unknown
    | name, words =>
      match attributes.lookup name with
      | some n => ofWords (style.switch n true) words
      | none => do
        let color ← Color.ofWord word
        ofWords { style with color? := some color } words

/-- The style that a text asks for. -/
def ofText (text : List Char) : Except Color.Defect Style :=
  if Text.trim text = "none".toList then .ok {} else ofWords {} (Text.words text)

/-- The full name of an attribute. -/
def attributeName (number : Nat) : List Char :=
  ((attributes.find? (·.2 = number)).map (·.1.toList)).getD []

/-- The words that ask for a style: attributes in order, then colors, then the address. -/
def words (style : Style) : List (List Char) :=
  (attributeNumbers.flatMap fun n =>
    if n ∈ style.on then [attributeName n]
    else if n ∈ style.off then ["not".toList, attributeName n]
    else []) ++
  (style.color?.elim [] fun color => [color.name]) ++
  (style.background?.elim [] fun color => ["on".toList, color.name]) ++
  (style.link?.elim [] fun link => ["link".toList, link])

/-- The text that asks for a style. -/
def text (style : Style) : List Char :=
  match style.words with
  | [] => "none".toList
  | words => [' '].intercalate words

/-- A style on top of another one. -/
def atop (inner outer : Style) : Style where
  on := attributeNumbers.filter fun n => n ∈ inner.on ∨ (n ∈ outer.on ∧ n ∉ inner.off)
  off := attributeNumbers.filter fun n => n ∈ inner.off ∨ (n ∈ outer.off ∧ n ∉ inner.on)
  color? := inner.color?.or outer.color?
  background? := inner.background?.or outer.background?
  link? := inner.link?.or outer.link?

/-- The numbers that tell a terminal about a style. -/
def numbers (style : Style) : List Nat :=
  style.on ++ (style.color?.elim [] fun color => color.hue.codes 30) ++
    (style.background?.elim [] fun color => color.hue.codes 40)

/-- Starts an instruction to the terminal. -/
def escape : Char := '\x1b'

/-- A text in a style, as a terminal shows it. -/
def paint (style : Style) (text : List Char) : List Char :=
  match style.numbers with
  | [] => text
  | ns =>
    escape :: '[' :: ((";".intercalate (ns.map toString)).toList ++
      'm' :: (text ++ [escape, '[', '0', 'm']))

end Style
end Reckoner
