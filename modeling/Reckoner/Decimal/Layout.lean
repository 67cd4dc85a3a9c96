import Reckoner.Decimal.Shortest

/-!
# The written form of a double

A double is written by its shortest decimal. Where the point goes, and what stands around the
digits, is decided by a layout.
-/
namespace Reckoner.Decimal

/-- The decisions of a written form. -/
structure Layout where
  /-- The least exponent that is still written with a plain point. -/
  least : Int
  /-- The first exponent that is no longer written with a plain point. -/
  bound : Int
  /-- How many digits an exponent has at least. -/
  exponentWidth : Nat
  /-- Whether a whole number keeps one digit after the point. -/
  keepsPoint : Bool

/-- Numbers: from 0.0001 up to, but not including, 10¹⁶ with a plain point, and never without one. -/
def Layout.number : Layout :=
  ⟨-4, 16, 2, true⟩

/-- The two parts of a complex number are written like numbers, but a whole part has no point. -/
def Layout.part : Layout :=
  ⟨-4, 16, 2, false⟩

/-- A run of zeros. -/
def zeros (n : Nat) : List Char :=
  List.replicate n '0'

/-- The digits with a plain point among them. -/
def positional (layout : Layout) (d : Decimal) : List Char :=
  if d.point ≤ 0 then
    '0' :: '.' :: (zeros (-d.point).toNat ++ d.digits)
  else if d.digits.length ≤ d.point then
    d.digits ++ zeros (d.point.toNat - d.digits.length) ++
      (if layout.keepsPoint then ['.', '0'] else [])
  else
    d.digits.take d.point.toNat ++ '.' :: d.digits.drop d.point.toNat

/-- The digits with one of them before the point, and the exponent with its sign. -/
def scientific (layout : Layout) (d : Decimal) : List Char :=
  let exponent := d.point - 1
  let width := Nat.toDigits 10 exponent.natAbs
  d.digits.take 1 ++ (if d.digits.length ≤ 1 then [] else '.' :: d.digits.drop 1) ++
    'e' :: (if exponent < 0 then '-' else '+') ::
      (zeros (layout.exponentWidth - width.length) ++ width)

/-- A positive decimal as the layout writes it. -/
def write (layout : Layout) (d : Decimal) : List Char :=
  if layout.least ≤ d.point - 1 ∧ d.point - 1 < layout.bound then positional layout d
  else scientific layout d

end Decimal

namespace Double

/-- The minus sign of a negative double. -/
def signText : Float.Model.UnpackedFloat.Sign → List Char
  | .negative => ['-']
  | .positive => []

/-- A double as a layout writes it. -/
def write (layout : Decimal.Layout) (x : Float) : String :=
  match x.toModel.unpack with
  | .notANumber => "nan"
  | .infinity sign => String.ofList (signText sign ++ "inf".toList)
  | .zero sign => String.ofList (signText sign ++ if layout.keepsPoint then "0.0".toList else ['0'])
  | .finite sign m e _ => String.ofList (signText sign ++ (Decimal.shortest m e).write layout)

/-- The text of a double. -/
def text (x : Float) : String :=
  write Decimal.Layout.number x

end Reckoner.Double
