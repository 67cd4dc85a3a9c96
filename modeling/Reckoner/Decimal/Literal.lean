import Reckoner.Number

/-!
# Decimal literals

A literal is a run of digits without needless zeros in front, with an optional sign, fraction and
exponent. It is an integer if it has neither fraction nor exponent, and a double otherwise.
-/
namespace Reckoner.Decimal

/-- The parts of a decimal literal. -/
structure Literal where
  /-- Whether a minus sign stands in front. -/
  negative : Bool
  /-- The digits before the point. -/
  whole : List Char
  /-- The digits after the point. -/
  fraction : List Char
  /-- The exponent. -/
  exponent : Int
  /-- Whether the literal is just a run of digits. -/
  isInteger : Bool
  deriving Repr

namespace Literal

/-- The longest run of digits without needless zeros. -/
def splitWhole : List Char → List Char × List Char
  | '0' :: cs => (['0'], cs)
  | cs => (cs.takeWhile Char.isDigit, cs.dropWhile Char.isDigit)

/-- A fraction, if one follows. -/
def splitFraction : List Char → Option (List Char × List Char)
  | '.' :: c :: cs =>
    if c.isDigit then some (c :: cs.takeWhile Char.isDigit, cs.dropWhile Char.isDigit) else none
  | _ => none

/-- The number of a non-empty run of digits at the start of a text, and the rest. -/
def splitDigits (cs : List Char) : Option (Nat × List Char) :=
  match cs.takeWhile Char.isDigit with
  | [] => none
  | ds => some (Numeral.read ds, cs.dropWhile Char.isDigit)

/-- An exponent, if one follows. -/
def splitExponent : List Char → Option (Int × List Char)
  | [] => none
  | c :: cs =>
    if c = 'e' ∨ c = 'E' then
      match cs with
      | '+' :: rest => (splitDigits rest).map fun d => ((d.1 : Int), d.2)
      | '-' :: rest => (splitDigits rest).map fun d => (-(d.1 : Int), d.2)
      | rest => (splitDigits rest).map fun d => ((d.1 : Int), d.2)
    else none

/-- Splits a text without its sign into a literal and the rest. -/
def splitUnsigned (negative : Bool) (cs : List Char) : Option (Literal × List Char) :=
  match splitWhole cs with
  | ([], _) => none
  | (whole, rest) =>
    let fraction := splitFraction rest
    let afterFraction := (fraction.map (·.2)).getD rest
    let exponent := splitExponent afterFraction
    some (⟨negative, whole, (fraction.map (·.1)).getD [], (exponent.map (·.1)).getD 0,
      fraction.isNone && exponent.isNone⟩, (exponent.map (·.2)).getD afterFraction)

/-- Splits a text into the longest literal that it starts with and the rest. -/
def split : List Char → Option (Literal × List Char)
  | '-' :: cs => splitUnsigned true cs
  | cs => splitUnsigned false cs

/-- The integer that the digits before the point denote, with the sign. -/
def toInt (l : Literal) : Int :=
  if l.negative then -(Numeral.read l.whole : Int) else Numeral.read l.whole

/-- The double nearest to a literal. -/
def toDouble (l : Literal) : Float :=
  Double.ofDecimal l.negative (Numeral.read (l.whole ++ l.fraction)) (l.exponent - l.fraction.length)

/-- The number that a literal denotes. -/
def toNumber (l : Literal) : Number :=
  if l.isInteger then .int l.toInt else .float l.toDouble

end Reckoner.Decimal.Literal
