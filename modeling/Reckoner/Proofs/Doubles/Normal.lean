import Mathlib
import Reckoner.Double

/-!
# Integers as doubles

A normal double has all of its 53 digits, the leading one not zero. Rounding gives a normal double
unless the number is tiny, and so do products of numbers that are not tiny, the sign and the bits
under which a double is stored. An integer other than zero is therefore never rounded to zero.
-/
namespace Reckoner.Double

open Float.Model (Format UnpackedFloat totalExponent)
open Float.Model.UnpackedFloat

/-- Infinite, or finite with all digits and an exponent of at least `low`. -/
def Normal (low : Int) : UnpackedFloat → Prop
  | .infinity _ => True
  | .finite _ m e _ => 2 ^ 52 ≤ m ∧ m < 2 ^ 53 ∧ low ≤ e
  | _ => False

variable {low : Int}

theorem Normal.mono {u : UnpackedFloat} {less : Int} (h : Normal low u) (hle : less ≤ low) :
    Normal less u := by
  cases u with
  | infinity s => trivial
  | finite s m e pos => exact ⟨h.1, h.2.1, Int.le_trans hle h.2.2⟩
  | notANumber | zero s => exact h

theorem Normal.ne_zero {u : UnpackedFloat} (h : Normal low u) (s : Sign) : u ≠ .zero s := by
  rintro rfl
  exact h

theorem Normal.neg {u : UnpackedFloat} (h : Normal low u) : Normal low u.neg := by
  cases u <;> exact h

/-! ## Rounding -/

theorem mantissa_shiftRight (em : ExtendedMantissa) (k : Nat) :
    (em >>> k).mantissa = em.mantissa / 2 ^ k := by
  induction k with
  | zero => simp [HShiftRight.hShiftRight, Nat.repeat]
  | succ k ih =>
    have hstep : (em >>> (k + 1)).mantissa = (em >>> k).mantissa / 2 := rfl
    rw [hstep, ih, Nat.div_div_eq_div_mul, Nat.pow_succ]

@[simp] theorem mantissa_ofMantissaAndAccuracy (m : Nat) (accuracy : Accuracy) :
    (ExtendedMantissa.ofMantissaAndAccuracy m accuracy).mantissa = m := by
  cases accuracy with
  | exact => rfl
  | inexact o => cases o <;> rfl

/-- Rounding to the nearest never goes below the digits that are kept. -/
theorem mantissa_le_roundedMantissa (em : ExtendedMantissa) :
    em.mantissa ≤ em.roundedMantissa := by
  unfold ExtendedMantissa.roundedMantissa Accuracy.roundToNearestEven
  split <;> omega

/-- A mantissa of at least 53 digits is shifted down to exactly 53 digits. -/
theorem shiftToTargetExponent_bounds {m : Nat} {e : Int} (accuracy : Accuracy) (hm : 2 ^ 52 ≤ m)
    (he : -1074 ≤ e) :
    2 ^ 52 ≤ (shiftToTargetExponent .binary64 m e accuracy).1.mantissa ∧
      (shiftToTargetExponent .binary64 m e accuracy).1.mantissa < 2 ^ 53 ∧
      e ≤ (shiftToTargetExponent .binary64 m e accuracy).2 := by
  have hne : m ≠ 0 := by
    have : 0 < 2 ^ 52 := by decide
    omega
  have hlog : 52 ≤ m.log2 := (Nat.le_log2 hne).mpr hm
  -- the least exponent plays no part, as the number is not that small
  have htarget : Format.binary64.targetExponent (totalExponent m e) = e + (m.log2 - 52 : Nat) := by
    simp only [Format.targetExponent, totalExponent, Format.mantissaBits, Format.minExponent]
    omega
  have hshift : (e + (m.log2 - 52 : Nat) - e).toNat = m.log2 - 52 := by omega
  simp only [shiftToTargetExponent, shiftToExponent, htarget, hshift, mantissa_shiftRight,
    mantissa_ofMantissaAndAccuracy]
  have hlow : 2 ^ m.log2 ≤ m := Nat.log2_self_le hne
  have hhigh : m < 2 ^ (m.log2 + 1) := Nat.lt_log2_self
  refine ⟨?_, ?_, by omega⟩
  · rw [Nat.le_div_iff_mul_le (Nat.two_pow_pos _), ← Nat.pow_add]
    rwa [show 52 + (m.log2 - 52) = m.log2 by omega]
  · rw [Nat.div_lt_iff_lt_mul (Nat.two_pow_pos _), ← Nat.pow_add]
    rwa [show 53 + (m.log2 - 52) = m.log2 + 1 by omega]

/-- What is rounded with enough digits is normal. -/
theorem normal_roundWithAccuracy (sign : Sign) {m : Nat} {e : Int} (accuracy : Accuracy)
    (hm : 2 ^ 52 ≤ m) (he : low ≤ e) (hlow : -1074 ≤ low) :
    Normal low (roundWithAccuracy .binary64 sign m e accuracy) := by
  obtain ⟨hm₁, -, he₁⟩ := shiftToTargetExponent_bounds accuracy hm (Int.le_trans hlow he)
  unfold roundWithAccuracy
  cases h₁ : shiftToTargetExponent .binary64 m e accuracy with
  | mk em₁ e₁ =>
    rw [h₁] at hm₁ he₁
    dsimp only at hm₁ he₁ ⊢
    -- rounding up may add a digit, which is why digits are shifted out a second time
    have hrounded : 2 ^ 52 ≤ em₁.roundedMantissa :=
      Nat.le_trans hm₁ (mantissa_le_roundedMantissa em₁)
    obtain ⟨hm₂, hm₂', he₂⟩ := shiftToTargetExponent_bounds .exact hrounded
      (Int.le_trans hlow (Int.le_trans he he₁))
    cases h₂ : shiftToTargetExponent .binary64 em₁.roundedMantissa e₁ .exact with
    | mk em₂ e₂ =>
      rw [h₂] at hm₂ hm₂' he₂
      dsimp only at hm₂ hm₂' he₂ ⊢
      split
      · rename_i hzero
        rw [hzero] at hm₂
        exact absurd hm₂ (by decide)
      · exact ⟨hm₂, hm₂', Int.le_trans he (Int.le_trans he₁ he₂)⟩

theorem Normal.mul {u v : UnpackedFloat} {low' : Int} (hu : Normal low u) (hv : Normal low' v)
    (hlow : -1074 ≤ low + low') : Normal (low + low') (UnpackedFloat.mul .binary64 u v) := by
  cases u with
  | notANumber | zero s => exact hu.elim
  | infinity s =>
    cases v with
    | notANumber | zero t => exact hv.elim
    | infinity t | finite t n f pos => trivial
  | finite s m e pos =>
    cases v with
    | notANumber | zero t => exact hv.elim
    | infinity t => trivial
    | finite t n f pos' =>
      obtain ⟨hm, -, he⟩ := hu
      obtain ⟨hn, -, hf⟩ := hv
      have hmn : 2 ^ 52 ≤ m * n := Nat.le_trans hm (Nat.le_mul_of_pos_right m pos')
      exact normal_roundWithAccuracy _ _ hmn (Int.add_le_add he hf) hlow

/-! ## Bits -/

/-- A normal double is found again in its bits. -/
theorem Normal.unpack_pack {u : UnpackedFloat} (h : Normal low u) (hlow : -1074 ≤ low) :
    Normal low (Float.Model.pack u).unpack := by
  have hpack : (Float.Model.pack u).unpack =
      UnpackedFloat.unpack .binary64 (UnpackedFloat.pack .binary64 u) := rfl
  rw [hpack]
  cases u with
  | notANumber | zero s => exact h.elim
  | infinity s => cases s <;> exact trivial
  | finite s m e pos =>
    obtain ⟨hm, hm', he⟩ := h
    have hne : m ≠ 0 := by omega
    have hlog : m.log2 + 1 = Format.binary64.mantissaBits := by
      have := (Nat.log2_eq_iff hne).mpr ⟨hm, hm'⟩
      simp [this, Format.mantissaBits]
    have hbiased : (e + Format.binary64.exponentBias + Format.binary64.mantissaBitsWithoutImplicit).toNat
        = (e + 1075).toNat := by
      simp only [Format.exponentBias]
      omega
    simp only [UnpackedFloat.pack, hbiased, hlog, if_true]
    split
    · cases s <;> exact trivial
    · rename_i small
      -- the field of the exponent overflows nowhere, and holds none of the two reserved values
      have hexponent : (BitVec.ofNat 11 (e + 1075).toNat).toNat = (e + 1075).toNat := by
        rw [BitVec.toNat_ofNat, Nat.mod_eq_of_lt (by omega)]
      have hones : BitVec.ofNat 11 (e + 1075).toNat ≠ -1#11 := by
        intro heq
        have hn := congrArg BitVec.toNat heq
        rw [hexponent] at hn
        simp at hn
        omega
      have hzeros : BitVec.ofNat 11 (e + 1075).toNat ≠ 0#11 := by
        intro heq
        have hn := congrArg BitVec.toNat heq
        rw [hexponent] at hn
        simp at hn
        omega
      -- the leading digit, which is not stored, comes back as the digit one
      have hmantissa : (1#1 ++ BitVec.ofNat 52 m).toNat = m := by
        rw [BitVec.toNat_append, ← Nat.shiftLeft_add_eq_or_of_lt (BitVec.ofNat 52 m).isLt,
          BitVec.toNat_ofNat, Nat.shiftLeft_eq]
        simp only [BitVec.toNat_ofNat]
        omega
      simp only [UnpackedFloat.unpack, unpackExponent_packComponents,
        unpackMantissa_packComponents, if_neg hones, if_neg hzeros, Normal, hmantissa, hexponent]
      refine ⟨hm, hm', ?_⟩
      simp only [Format.exponentBias]
      omega

/-! ## Integers -/

/-- Digits that are shifted up to at least 53 of them. -/
theorem two_pow_le_shiftLeft {n : Nat} (pos : 0 < n) : 2 ^ 52 ≤ n <<< (52 - n.log2) := by
  have hlow : 2 ^ n.log2 ≤ n := Nat.log2_self_le (by omega)
  rw [Nat.shiftLeft_eq]
  calc 2 ^ 52 ≤ 2 ^ (n.log2 + (52 - n.log2)) := Nat.pow_le_pow_right (by decide) (by omega)
    _ = 2 ^ n.log2 * 2 ^ (52 - n.log2) := Nat.pow_add ..
    _ ≤ n * 2 ^ (52 - n.log2) := Nat.mul_le_mul_right _ hlow

theorem normal_round (sign : Sign) {n : Nat} (pos : 0 < n) :
    Normal (-52) (UnpackedFloat.round .binary64 sign n 0) := by
  have htarget : Format.binary64.targetExponent (totalExponent n 0) = (n.log2 : Int) - 52 := by
    simp only [Format.targetExponent, totalExponent, Format.mantissaBits, Format.minExponent]
    omega
  have hshift : (0 - ((n.log2 : Int) - 52)).toNat = 52 - n.log2 := by omega
  simp only [UnpackedFloat.round, htarget, decreaseExponent, hshift]
  exact normal_roundWithAccuracy sign .exact (two_pow_le_shiftLeft pos) (by omega) (by decide)

theorem normal_ofUInt64 {n : Nat} (pos : 0 < n) (small : n < 2 ^ 53) :
    Normal (-52) n.toUInt64.toFloat.toModel.unpack := by
  have hn : n.toUInt64.toNat = n := by
    rw [Nat.toUInt64_eq, UInt64.toNat_ofNat']
    exact Nat.mod_eq_of_lt (by omega)
  have hround : UnpackedFloat.ofUInt64 .binary64 n.toUInt64 =
      UnpackedFloat.round .binary64 .positive n 0 := by
    rw [UnpackedFloat.ofUInt64, hn, UnpackedFloat.ofNat, UnpackedFloat.ofInt,
      UnpackedFloat.normalize,
      Int.compare_eq_gt.mpr (by omega)]
    rfl
  have hmodel : n.toUInt64.toFloat.toModel =
      Float.Model.pack (UnpackedFloat.ofUInt64 .binary64 n.toUInt64) := rfl
  rw [hmodel, hround]
  exact (normal_round .positive pos).unpack_pack (by decide)

/-- A product with the double one. -/
theorem normal_mul_one {x : Float} (h : Normal (-52) x.toModel.unpack) :
    Normal (-104) (x * 1.0).toModel.unpack := by
  have hone : (1.0 : Float).toModel.unpack = .finite .positive (2 ^ 52) (-52) (by decide) := by rfl
  have hone' : Normal (-52) (1.0 : Float).toModel.unpack := by
    rw [hone]
    exact ⟨Nat.le_refl _, by decide, Int.le_refl _⟩
  have hproduct : (x * 1.0).toModel = Float.Model.pack
      (UnpackedFloat.mul .binary64 x.toModel.unpack (1.0 : Float).toModel.unpack) := rfl
  rw [hproduct]
  exact (h.mul hone' (by decide)).unpack_pack (by decide)

/-- A positive integer is rounded to a normal double. Small ones are converted directly, others are
read as decimals without a fraction. -/
theorem normal_ofNat {n : Nat} (pos : 0 < n) : Normal (-1074) (Float.ofNat n).toModel.unpack := by
  by_cases small : n < 2 ^ 53
  · have hproduct : Float.ofNat n = n.toUInt64.toFloat * 1.0 := by
      have hsmall : n < 2 ^ 53 ∧ 0 ≤ 22 := ⟨small, by decide⟩
      rw [show Float.ofNat n = Float.ofScientific n false 0 from rfl, Float.ofScientific,
        dif_pos hsmall]
      rfl
    rw [hproduct]
    exact (normal_mul_one (normal_ofUInt64 pos small)).mono (by decide)
  · have hlarge : ¬ (n < 2 ^ 53 ∧ 0 ≤ 22) := by omega
    have hmodel : (Float.ofNat n).toModel = Float.Model.ofScientific n 0 := by
      rw [show Float.ofNat n = Float.ofScientific n false 0 from rfl, Float.ofScientific,
        dif_neg hlarge]
      rfl
    have hbits : (2 : Int) ^ Format.binary64.exponentBits = 2048 := rfl
    rw [hmodel, Float.Model.ofScientific]
    refine Normal.unpack_pack ?_ (Int.le_refl _)
    unfold UnpackedFloat.ofScientific
    rw [dif_neg (by omega), if_neg (by omega), if_neg (by omega), if_pos (Int.le_refl _)]
    simp only [UnpackedFloat.mul, Int.toNat_zero, Nat.pow_zero, Nat.mul_one]
    have hdigits : 2 ^ 52 ≤ n <<< Format.binary64.mantissaBits := by
      have hshift : n <<< Format.binary64.mantissaBits = n * 2 ^ 53 := Nat.shiftLeft_eq n 53
      omega
    -- the shifted digits stay closed, or unification would start to compute them
    generalize n <<< Format.binary64.mantissaBits = m at hdigits ⊢
    exact normal_roundWithAccuracy _ .exact hdigits (by decide) (Int.le_refl _)

/-- **An integer other than zero is not rounded to zero.** -/
theorem ofInt_ne_zero {n : Int} (nonzero : n ≠ 0) (s : Sign) :
    (Float.ofInt n).toModel.unpack ≠ .zero s := by
  cases n with
  | ofNat n =>
    have pos : 0 < n := by
      rcases Nat.eq_zero_or_pos n with rfl | pos
      · exact absurd rfl nonzero
      · exact pos
    exact (normal_ofNat pos).ne_zero s
  | negSucc n =>
    have hneg : (Float.ofInt (.negSucc n)).toModel =
        Float.Model.pack (Float.ofNat (n + 1)).toModel.unpack.neg := rfl
    rw [hneg]
    exact ((normal_ofNat n.succ_pos).neg.unpack_pack (by decide)).ne_zero s

end Reckoner.Double
