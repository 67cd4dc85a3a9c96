import Reckoner.Proofs.Doubles.Normal

/-!
# Finite doubles

A double is infinite or undefined exactly when all bits of its exponent are set. Three facts follow
from the bits: the opposite of a finite double is finite, the only double that packs to the undefined
one is the undefined one, and so the quotient of two finite doubles is undefined only if the divisor
is zero.
-/
namespace Reckoner.Double

open Float.Model (Format UnpackedFloat)
open Float.Model.UnpackedFloat

/-! ## Exponents -/

/-- The exponent of a finite double is small enough for its field, with one value to spare. -/
theorem exponent_ne_ones {k n : Nat} (h : ¬ 2 ^ k ≤ n + 1) : BitVec.ofNat k n ≠ -1#k := by
  intro heq
  have hn := congrArg BitVec.toNat heq
  rw [BitVec.toNat_ofNat, Nat.mod_eq_of_lt (by omega), BitVec.neg_one_eq_allOnes,
    BitVec.toNat_allOnes] at hn
  omega

theorem isFinite_unpack_iff (spec : Format) (b : BitVec spec.numBits) :
    (unpack spec b).isFinite = true ↔ unpackExponent b ≠ -1#(spec.exponentBits) := by
  unfold unpack
  dsimp only
  split
  · rename_i ones
    split <;> simp [UnpackedFloat.isFinite, ones]
  · rename_i others
    split
    · split <;> simp [UnpackedFloat.isFinite, others]
    · simp [UnpackedFloat.isFinite, others]

/-- The sign has no part in the exponent. -/
theorem unpackExponent_pack_neg (spec : Format) (u : UnpackedFloat) :
    unpackExponent (pack spec u.neg) = unpackExponent (pack spec u) := by
  cases u with
  | notANumber => rfl
  | infinity s => simp [UnpackedFloat.neg, pack, packedInfinity, unpackExponent_packComponents]
  | zero s => simp [UnpackedFloat.neg, pack, packedZero, unpackExponent_packComponents]
  | finite s m e pos =>
    simp only [UnpackedFloat.neg, pack, packedInfinity]
    split
    · simp only [unpackExponent_packComponents]
    · split <;> simp only [unpackExponent_packComponents]

theorem isFinite_neg (x : Float) : (-x).isFinite = x.isFinite := by
  have hx : pack .binary64 x.toModel.unpack = x.toModel.toBits.toBitVec :=
    pack_unpack_of_valid x.toModel.valid
  have hneg : (-x).isFinite = (unpack .binary64 (pack .binary64 x.toModel.unpack.neg)).isFinite :=
    rfl
  have hself : x.isFinite = (unpack .binary64 x.toModel.toBits.toBitVec).isFinite := rfl
  rw [hneg, hself, Bool.eq_iff_iff, isFinite_unpack_iff, isFinite_unpack_iff,
    unpackExponent_pack_neg, hx]

/-! ## The undefined double -/

theorem pack_finite_ne_packedNaN (s : Sign) (m : Nat) (e : Int) (pos : 0 < m) :
    pack .binary64 (.finite s m e pos) ≠ packedNaN .binary64 := by
  intro h
  have hexponent := congrArg unpackExponent h
  have hmantissa := congrArg unpackMantissa h
  simp only [pack, packedInfinity, packedNaN] at hexponent hmantissa
  split at hexponent
  · -- beyond the greatest exponent an infinity is packed, whose mantissa is zero
    rename_i large
    rw [if_pos large] at hmantissa
    simp only [unpackMantissa_packComponents] at hmantissa
    exact absurd hmantissa (by decide)
  · rename_i small
    split at hexponent
    · simp only [unpackExponent_packComponents] at hexponent
      exact exponent_ne_ones small hexponent
    · simp only [unpackExponent_packComponents] at hexponent
      exact absurd hexponent (by decide)

/-- Packing makes no defined number undefined. -/
theorem unpack_pack_eq_notANumber {u : UnpackedFloat} (h : (Float.Model.pack u).unpack = .notANumber) :
    u = .notANumber := by
  have hpacked : pack .binary64 u = packedNaN .binary64 :=
    (unpack_eq_notANumber_iff_of_valid valid_pack).mp h
  cases u with
  | notANumber => rfl
  | infinity s => cases s <;> exact absurd hpacked (by decide)
  | zero s => cases s <;> exact absurd hpacked (by decide)
  | finite s m e pos => exact absurd hpacked (pack_finite_ne_packedNaN s m e pos)

theorem div_ne_notANumber {spec : Format} {u v : UnpackedFloat} (hu : u.isFinite = true)
    (hv : v.isFinite = true) (nonzero : ∀ s, v ≠ .zero s) : div spec u v ≠ .notANumber := by
  cases u with
  | notANumber | infinity s => cases hu
  | zero s =>
    cases v with
    | notANumber | infinity t => cases hv
    | zero t => exact absurd rfl (nonzero t)
    | finite t m e pos => simp [div]
  | finite s m e pos =>
    cases v with
    | notANumber | infinity t => cases hv
    | zero t => exact absurd rfl (nonzero t)
    | finite t n f pos' =>
      simp only [div, roundWithAccuracy]
      split <;> simp

theorem toInt_eq_undefined {x : Float} (h : toInt x = .error .undefined) :
    x.toModel.unpack = .notANumber := by
  unfold toInt at h
  split at h <;> simp_all

/-- **The quotient of two finite doubles is defined** unless the divisor is zero. -/
theorem toInt_div_ne_undefined {x y : Float} (hx : x.isFinite = true) (hy : y.isFinite = true)
    (nonzero : ∀ s, y.toModel.unpack ≠ .zero s) : toInt (x / y) ≠ .error .undefined := by
  intro h
  have hquotient : (x / y).toModel.unpack =
      (Float.Model.pack (div .binary64 x.toModel.unpack y.toModel.unpack)).unpack := rfl
  have hundefined := unpack_pack_eq_notANumber (hquotient ▸ toInt_eq_undefined h)
  exact div_ne_notANumber hx hy nonzero hundefined

/-- A double that does not count as zero is none of the two zeros. -/
theorem unpack_ne_zero {y : Float} (h : (y == 0) = false) (s : Sign) :
    y.toModel.unpack ≠ .zero s := by
  intro hy
  have hzero : (0 : Float).toModel.unpack = .zero .positive := by rfl
  have heq : (y == 0) = (y.toModel.unpack.beq (0 : Float).toModel.unpack) := rfl
  rw [heq, hy, hzero] at h
  cases s <;> exact absurd h (by decide)

/-! ## The double of an integer -/

theorem ofInt_ok {n : Int} {x : Float} (h : ofInt n = .ok x) :
    x = Float.ofInt n ∧ x.isFinite = true := by
  unfold ofInt at h
  dsimp only at h
  split at h
  · rename_i finite
    cases h
    exact ⟨rfl, finite⟩
  · cases h

theorem ofInt_error {n : Int} {fault : RangeFault} (h : ofInt n = .error fault) :
    fault = .tooLarge := by
  unfold ofInt at h
  dsimp only at h
  split at h
  · cases h
  · cases h
    rfl

end Reckoner.Double
