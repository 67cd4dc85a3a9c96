import Reckoner.Decimal.Layout
import Reckoner.Double
import Reckoner.Numeral

/-!
# Numbers

A number is an integer of any size or a double. Sums, differences and products of two integers are
exact. As soon as a double takes part, an integer counts as the double nearest to it, which fails for
one beyond every double. The order of an integer and a double compares their exact values.
-/
namespace Reckoner

/-- An integer of any size, or a double. -/
inductive Number where
  /-- An integer. -/
  | int (n : Int)
  /-- A double. -/
  | float (x : Float)
  deriving Repr, Inhabited

namespace Number

/-- The double nearest to a number. -/
def toDouble : Number → Except RangeFault Float
  | .int n => Double.ofInt n
  | .float x => .ok x

/-- An operation that is exact on two integers and works on doubles otherwise. -/
def combine (onInts : Int → Int → Int) (onDoubles : Float → Float → Float) :
    Number → Number → Except RangeFault Number
  | .int m, .int n => .ok (.int (onInts m n))
  | left, right => do
    let x ← left.toDouble
    let y ← right.toDouble
    return .float (onDoubles x y)

/-- The sum of two numbers. -/
def add : Number → Number → Except RangeFault Number :=
  combine (· + ·) (· + ·)

/-- The difference of two numbers. -/
def sub : Number → Number → Except RangeFault Number :=
  combine (· - ·) (· - ·)

/-- The product of two numbers. -/
def mul : Number → Number → Except RangeFault Number :=
  combine (· * ·) (· * ·)

/-- The quotient of the sizes of two integers, taken negative if just one of them is. Zero counts as
positive. -/
def quotientOfSizes (m n : Int) : Int :=
  let size := m.natAbs / n.natAbs
  if m < 0 ↔ n < 0 then size else -size

/-- The quotient of two numbers without its fraction, for a divisor other than zero: exact for two
integers, and otherwise the integer part of the quotient of two doubles. -/
def quotient : Number → Number → Except RangeFault Int
  | .int m, .int n => .ok (quotientOfSizes m n)
  | left, right => do
    let x ← left.toDouble
    let y ← right.toDouble
    Double.toInt (x / y)

/-- The number with the opposite sign. -/
def neg : Number → Number
  | .int n => .int (-n)
  | .float x => .float (-x)

/-- The number without its sign. -/
def abs : Number → Number
  | .int n => .int n.natAbs
  | .float x => .float x.abs

/-- Whether the first number is smaller; never so for what is no number. -/
def lt : Number → Number → Bool
  | .int m, .int n => m < n
  | .int m, .float y => Double.compareInt m y == some .lt
  | .float x, .int n => Double.compareInt n x == some .gt
  | .float x, .float y => x < y

/-- Whether a number is zero, of either sign. -/
def isZero : Number → Bool
  | .int n => n == 0
  | .float x => x == 0

/-- Whether a number is neither infinite nor undefined. -/
def isFinite : Number → Bool
  | .int _ => true
  | .float x => x.isFinite

/-- The quotient of the sizes, with its sign, is the quotient without its fraction. -/
theorem quotientOfSizes_eq_tdiv (m n : Int) : quotientOfSizes m n = m.tdiv n := by
  have nonneg : ∀ k : Nat, ¬ (k : Int) < 0 := fun k => Int.not_lt.mpr (Int.natCast_nonneg k)
  cases m with
  | ofNat m => cases n <;> simp [quotientOfSizes, Int.tdiv, nonneg]
  | negSucc m => cases n <;> simp [quotientOfSizes, Int.tdiv, nonneg]

/-- The text of a number: all digits of an integer, the shortest decimal of a double. -/
def text : Number → String
  | .int n => Numeral.writeInt n
  | .float x => Double.text x

end Number
end Reckoner
