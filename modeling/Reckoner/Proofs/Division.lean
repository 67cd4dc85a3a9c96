import Mathlib.Algebra.Order.Ring.Abs
import Mathlib.Tactic.Linarith
import Mathlib.Tactic.Ring
import Reckoner.Proofs.Evaluation

/-!
# Quotients without a fraction

Dividing integers leaves a remainder that is smaller than the divisor and, unless it is zero, of the
sign of the dividend. Only one integer leaves such a remainder (`IsQuotient.unique`), and it is what
division gives: the quotient of the sizes, negative if just one of the integers is (`divide_int`). So
a change of either sign changes the sign of the quotient and nothing else.
-/
namespace Reckoner

/-- A quotient of integers: what it leaves of the dividend is smaller than the divisor, and is zero
or has the sign of the dividend. -/
def IsQuotient (m n q : ℤ) : Prop :=
  ∃ r, m = q * n + r ∧ |r| < |n| ∧ (r = 0 ∨ r.sign = m.sign)

variable {m n q q' r : ℤ}

theorem nonneg_of_sign (sign : r = 0 ∨ r.sign = m.sign) (hm : 0 ≤ m) : 0 ≤ r := by
  rcases sign with rfl | sign
  · exact le_rfl
  · rwa [← Int.sign_nonneg_iff, sign, Int.sign_nonneg_iff]

theorem nonpos_of_sign (sign : r = 0 ∨ r.sign = m.sign) (hm : m ≤ 0) : r ≤ 0 := by
  rcases sign with rfl | sign
  · exact le_rfl
  · rwa [← Int.sign_nonpos_iff, sign, Int.sign_nonpos_iff]

namespace IsQuotient

/-- The opposite dividend leaves the opposite remainder. -/
theorem neg_left (h : IsQuotient m n q) : IsQuotient (-m) n (-q) := by
  obtain ⟨r, hm, small, sign⟩ := h
  refine ⟨-r, by rw [hm]; ring, by rwa [abs_neg], ?_⟩
  rwa [neg_eq_zero, Int.sign_neg, Int.sign_neg, neg_inj]

/-- The opposite divisor leaves the same remainder. -/
theorem neg_right (h : IsQuotient m n q) : IsQuotient m (-n) (-q) := by
  obtain ⟨r, hm, small, sign⟩ := h
  exact ⟨r, by rw [hm]; ring, by rwa [abs_neg], sign⟩

/-- There is no other quotient. -/
theorem unique (h : IsQuotient m n q) (h' : IsQuotient m n q') : q' = q := by
  obtain ⟨r, hm, small, sign⟩ := h
  obtain ⟨r', hm', small', sign'⟩ := h'
  have nonzero : n ≠ 0 := by
    rintro rfl
    exact absurd small (not_lt.mpr (abs_nonneg r))
  -- both remainders lie on the side of the dividend, so they differ by less than the divisor
  have hclose : |r - r'| < |n| := by
    rw [abs_lt] at small small' ⊢
    rcases le_total 0 m with positive | negative
    · have hr := nonneg_of_sign sign positive
      have hr' := nonneg_of_sign sign' positive
      constructor <;> linarith
    · have hr := nonpos_of_sign sign negative
      have hr' := nonpos_of_sign sign' negative
      constructor <;> linarith
  have hdiff : r - r' = (q' - q) * n := by linarith
  have hmultiple : |n| ∣ r - r' := by
    rw [hdiff, abs_dvd]
    exact Dvd.intro_left _ rfl
  have hsame := Int.eq_zero_of_abs_lt_dvd hmultiple hclose
  rw [hdiff, mul_eq_zero, or_iff_left nonzero] at hsame
  exact sub_eq_zero.mp hsame

/-- On sizes, division with remainder gives the quotient. -/
theorem sizes (m : ℤ) (nonzero : n ≠ 0) : IsQuotient |m| |n| (|m| / |n|) := by
  have hn : 0 < |n| := abs_pos.mpr nonzero
  have hnonneg : 0 ≤ |m| % |n| := Int.emod_nonneg |m| hn.ne'
  refine ⟨|m| % |n|, (Int.ediv_mul_add_emod _ _).symm, ?_, ?_⟩
  · rw [abs_of_nonneg hnonneg, abs_abs]
    exact Int.emod_lt_of_pos _ hn
  · rcases hnonneg.eq_or_lt with hzero | hpos
    · exact .inl hzero.symm
    · have hm : 0 < |m| := by
        rw [abs_pos]
        rintro rfl
        simp at hpos
      rw [Int.sign_eq_one_of_pos hpos, Int.sign_eq_one_of_pos hm]
      exact .inr rfl

theorem quotientOfSizes_eq (m n : ℤ) : Number.quotientOfSizes m n =
    if m < 0 ↔ n < 0 then |m| / |n| else -(|m| / |n|) := by
  have hsize : ((m.natAbs / n.natAbs : ℕ) : ℤ) = |m| / |n| := by
    rw [Int.natCast_div, Int.natCast_natAbs, Int.natCast_natAbs]
  rw [← hsize]
  rfl

/-- With the right sign, the quotient of the sizes is a quotient. -/
theorem ofSizes (m : ℤ) (nonzero : n ≠ 0) : IsQuotient m n (Number.quotientOfSizes m n) := by
  have hsizes := sizes m nonzero
  rw [quotientOfSizes_eq]
  generalize |m| / |n| = q at hsizes ⊢
  -- each negative side takes its sign back, and with it the sign of the quotient
  by_cases hm : m < 0 <;> by_cases hn : n < 0
  · rw [abs_of_neg hm, abs_of_neg hn] at hsizes
    rw [if_pos (iff_of_true hm hn)]
    simpa using hsizes.neg_left.neg_right
  · rw [abs_of_neg hm, abs_of_nonneg (not_lt.mp hn)] at hsizes
    rw [if_neg (by tauto)]
    simpa using hsizes.neg_left
  · rw [abs_of_nonneg (not_lt.mp hm), abs_of_neg hn] at hsizes
    rw [if_neg (by tauto)]
    simpa using hsizes.neg_right
  · rw [abs_of_nonneg (not_lt.mp hm), abs_of_nonneg (not_lt.mp hn)] at hsizes
    rw [if_pos (iff_of_false hm hn)]
    exact hsizes

end IsQuotient

/-- Integers are divided by their sizes and signs. -/
theorem divide_int (m : ℤ) (nonzero : n ≠ 0) :
    divide (.int m) (.int n) = .ok (Number.quotientOfSizes m n) := by
  simp [divide, Number.isZero, Number.quotient, nonzero]

/-- **The division law.** For integers of any size, with a divisor other than zero, division gives the
one quotient. A change of either sign changes its sign. -/
theorem divide_isQuotient (m : ℤ) (nonzero : n ≠ 0) :
    ∃ q, divide (.int m) (.int n) = .ok q ∧ IsQuotient m n q ∧
      (∀ q', IsQuotient m n q' → q' = q) ∧
      divide (.int (-m)) (.int n) = .ok (-q) ∧ divide (.int m) (.int (-n)) = .ok (-q) := by
  have h := IsQuotient.ofSizes m nonzero
  refine ⟨_, divide_int m nonzero, h, fun q' h' => h.unique h', ?_, ?_⟩
  · rw [divide_int (-m) nonzero, h.neg_left.unique (.ofSizes (-m) nonzero)]
  · rw [divide_int m (neg_ne_zero.mpr nonzero),
      h.neg_right.unique (.ofSizes m (neg_ne_zero.mpr nonzero))]

/-- A negative dividend, whose quotient lies above the exact one. -/
theorem divide_isQuotient_negative : (2 : ℤ) ≠ 0 ∧
    divide (.int (-7)) (.int 2) = .ok (-3) ∧ IsQuotient (-7) 2 (-3) ∧
      (∀ q', IsQuotient (-7) 2 q' → q' = -3) ∧
      divide (.int 7) (.int 2) = .ok 3 ∧ divide (.int (-7)) (.int (-2)) = .ok 3 := by
  have nonzero : (2 : ℤ) ≠ 0 := by decide
  obtain ⟨q, hq, h⟩ := divide_isQuotient (-7) nonzero
  have hvalue : divide (.int (-7)) (.int 2) = .ok (-3) := rfl
  obtain rfl : -3 = q := Except.ok.inj (hvalue.symm.trans hq)
  exact ⟨nonzero, hvalue, h⟩

end Reckoner
