/-!
# Doubles and integers

How a double relates to the integers: the double nearest to an integer, the integer part of a
double, and their order. All three work on the exact value of the double, which is a signed natural
number times a power of two.
-/
namespace Reckoner

/-- Why a number has no counterpart among the numbers that are asked for. -/
inductive RangeFault where
  /-- The integer lies beyond every double. -/
  | tooLarge
  /-- An infinity has no integer part. -/
  | infinite
  /-- A value that is no number has no integer part. -/
  | undefined
  /-- The power lies beyond every double. -/
  | power
  /-- The power of a negative number lies beyond every pair of doubles. -/
  | complexPower
  deriving DecidableEq, Repr

/-- How a range fault is reported. -/
def RangeFault.message : RangeFault → String
  | .tooLarge => "int too large to convert to float"
  | .infinite => "cannot convert float infinity to integer"
  | .undefined => "cannot convert float NaN to integer"
  | .power => "(34, 'Numerical result out of range')"
  | .complexPower => "complex exponentiation"

namespace Double

/-- The double nearest to an integer, a tie going to the even one; none beyond the largest. -/
def ofInt (n : Int) : Except RangeFault Float :=
  let x := Float.ofInt n
  if x.isFinite then .ok x else .error .tooLarge

/-- The integer part of `m * 2 ^ e`. -/
def scaleDown (m : Nat) (e : Int) : Nat :=
  if 0 ≤ e then m * Nat.pow 2 e.toNat else m / Nat.pow 2 (-e).toNat

/-- The integer part of a double, toward zero. -/
def toInt (x : Float) : Except RangeFault Int :=
  match x.toModel.unpack with
  | .zero _ => .ok 0
  | .finite sign m e _ => .ok (sign.apply (scaleDown m e))
  | .infinity _ => .error .infinite
  | .notANumber => .error .undefined

/-- The order of an integer and `v * 2 ^ e`. -/
def compareScaled (n v : Int) (e : Int) : Ordering :=
  if 0 ≤ e then compare n (v * Nat.pow 2 e.toNat) else compare (n * Nat.pow 2 (-e).toNat) v

/-- The order of an integer and a double, without rounding either; none for what is no number. -/
def compareInt (n : Int) (x : Float) : Option Ordering :=
  match x.toModel.unpack with
  | .zero _ => some (compare n 0)
  | .finite sign m e _ => some (compareScaled n (sign.apply m) e)
  | .infinity .negative => some .gt
  | .infinity .positive => some .lt
  | .notANumber => none

/-- The double nearest to `m * 10 ^ e`, with a sign; an infinity beyond the largest double. -/
def ofDecimal (negative : Bool) (m : Nat) (e : Int) : Float :=
  let x := Float.ofScientific m (e < 0) e.natAbs
  if negative then -x else x

end Double
end Reckoner
