/-!
# The shortest decimal of a double

A double stands for every real number that rounds to it. Among the decimals in that interval, the
one with the fewest digits is chosen; of two such, the nearer to the double; in an exact tie, the
one with the even last digit. All comparisons are between natural numbers.

If a point of a decimal grid lies in the interval, then so does one of the two grid points next to
the double. So it is enough to look at these two, on one grid after another.
-/
namespace Reckoner

/-- The positive decimal `0.d₁d₂d₃… * 10 ^ point`. -/
structure Decimal where
  /-- The digits, most significant first. -/
  digits : List Char
  /-- How many digits stand before the point; negative if zeros follow the point. -/
  point : Int
  deriving DecidableEq, Repr

namespace Decimal

/-- The real numbers around a positive double that round to it, over one denominator. -/
structure Basin where
  /-- The numerator of the double. -/
  center : Nat
  /-- The numerator of the lower end. -/
  low : Nat
  /-- The numerator of the upper end. -/
  high : Nat
  /-- The common denominator. -/
  den : Nat
  /-- Whether the two ends round to the double. -/
  closed : Bool

/-- The numbers that round to `m * 2 ^ e`. Half the gap to the next double lies on either side; the
gap below a power of two is half as wide, unless the double is among the smallest. -/
def Basin.of (m : Nat) (e : Int) : Basin :=
  let below := if m = Nat.pow 2 52 ∧ -1074 < e then 1 else 2
  let up := Nat.pow 2 (e - 2).toNat
  ⟨4 * m * up, (4 * m - below) * up, (4 * m + 2) * up, Nat.pow 2 (2 - e).toNat, m % 2 = 0⟩

/-- Whether the basin holds `num / den'`. -/
def Basin.holds (b : Basin) (num den' : Nat) : Bool :=
  let lower := b.low * den'
  let here := num * b.den
  let upper := b.high * den'
  if b.closed then lower ≤ here && here ≤ upper else lower < here && here < upper

/-- Whether the center of the basin is below `10 ^ p`. -/
def Basin.isBelow (b : Basin) (p : Int) : Bool :=
  b.center * Nat.pow 10 (-p).toNat < b.den * Nat.pow 10 p.toNat

/-- How many digits of the center stand before the point. The logarithm to base two leaves three
candidates. -/
def Basin.point (b : Basin) : Int :=
  let guess := ((b.center.log2 : Int) - b.den.log2) * 30103 / 100000
  if b.isBelow guess then guess else if b.isBelow (guess + 1) then guess + 1 else guess + 2

/-- The point of the grid `10 ^ unit` that lies in the basin, nearest to its center. -/
def Basin.nearest? (b : Basin) (unit : Int) : Option Nat :=
  let up := Nat.pow 10 unit.toNat
  let down := Nat.pow 10 (-unit).toNat
  let floor := b.center * down / (b.den * up)
  let lowHit := b.holds (floor * up) down
  let highHit := b.holds ((floor + 1) * up) down
  match lowHit, highHit with
  | true, true =>
    match compare (2 * b.center * down) ((2 * floor + 1) * b.den * up) with
    | .lt => some floor
    | .gt => some (floor + 1)
    | .eq => some (if floor % 2 = 0 then floor else floor + 1)
  | true, false => some floor
  | false, true => some (floor + 1)
  | false, false => none

/-- A decimal from its digits and the place of the last one, without trailing zeros. -/
def ofGrid (n : Nat) (unit : Int) : Decimal :=
  let ds := Nat.toDigits 10 n
  ⟨(ds.reverse.dropWhile (· = '0')).reverse, ds.length + unit⟩

/-- The shortest decimal that rounds to `m * 2 ^ e`. Seventeen digits tell any two doubles apart. -/
def shortest (m : Nat) (e : Int) : Decimal :=
  let b := Basin.of m e
  let point := b.point
  let attempt (count : Nat) : Option Decimal :=
    (b.nearest? (point - count)).map fun n => ofGrid n (point - count)
  ((List.range' 1 17).findSome? attempt).getD ⟨[], point⟩

end Decimal
end Reckoner
