import Mathlib.Data.Rat.Floor
import Reckoner.Proofs.Calls

/-!
# Integer arithmetic is exact

Without calls, an expression is arithmetic on integers of any size. Its value is given here over the
integers alone, with no registry and no journal: a division is the quotient of two rational numbers,
cut toward zero. Evaluation gives this value, and it fails exactly where some part divides by zero,
wherever in the expression that part stands.
-/
namespace Reckoner

/-! ## Quotients cut toward zero -/

/-- The integer part of a rational number, toward zero. -/
def truncate (q : ℚ) : ℤ :=
  if 0 ≤ q then ⌊q⌋ else ⌈q⌉

theorem truncate_neg (q : ℚ) : truncate (-q) = -truncate q := by
  unfold truncate
  rcases lt_trichotomy q 0 with hq | rfl | hq
  · rw [if_pos (by linarith), if_neg (by linarith), Int.floor_neg]
  · simp
  · rw [if_neg (by linarith), if_pos (by linarith), Int.ceil_neg]

theorem truncate_natCast_div (a b : ℕ) : truncate ((a : ℚ) / b) = (a : ℤ).tdiv b := by
  have hq : (0 : ℚ) ≤ (a : ℚ) / b := by positivity
  rw [truncate, if_pos hq, Rat.floor_natCast_div_natCast]
  exact (Int.tdiv_eq_ediv_of_nonneg (Int.natCast_nonneg a)).symm

/-- Division of integers is the exact quotient, cut toward zero. -/
theorem truncate_div (m n : ℤ) : truncate ((m : ℚ) / n) = m.tdiv n := by
  -- the sign of either side comes out of the quotient
  obtain ⟨a, rfl | rfl⟩ := m.eq_nat_or_neg <;> obtain ⟨b, rfl | rfl⟩ := n.eq_nat_or_neg
  · exact truncate_natCast_div a b
  · rw [Int.cast_neg, div_neg, truncate_neg, Int.tdiv_neg]
    exact congrArg Neg.neg (truncate_natCast_div a b)
  · rw [Int.cast_neg, neg_div, truncate_neg, Int.neg_tdiv]
    exact congrArg Neg.neg (truncate_natCast_div a b)
  · rw [Int.cast_neg, Int.cast_neg, neg_div_neg_eq, Int.neg_tdiv, Int.tdiv_neg, neg_neg]
    exact truncate_natCast_div a b

/-! ## Values over the integers -/

/-- What an operator gives over the integers; nothing for a zero divisor. -/
def Operator.onIntegers? : Operator → ℤ → ℤ → Option ℤ
  | .add, m, n => some (m + n)
  | .sub, m, n => some (m - n)
  | .mul, m, n => some (m * n)
  | .div, m, n => if n = 0 then none else some (truncate (m / n))

namespace Expr

/-- The value of an expression over the integers, if it has one; calls have none. -/
def integer? : Expr → Option ℤ
  | .literal n => some n
  | .signed .plus e => integer? e
  | .signed .minus e => (integer? e).map (-·)
  | .binary op l r => do
    let m ← integer? l
    let n ← integer? r
    op.onIntegers? m n
  | .call _ _ => none
termination_by structural e => e

/-- The expressions that an expression is made of, itself among them. -/
inductive Part : Expr → Expr → Prop
  | self (e : Expr) : Part e e
  | child {part child e : Expr} (h : child ∈ e.children) (hp : Part part child) : Part part e

/-- A division in the expression has a zero divisor, and a value on its left. -/
def DividesByZero (e : Expr) : Prop :=
  ∃ l r m, Part (.binary .div l r) e ∧ l.integer? = some m ∧ r.integer? = some 0

variable {e l r : Expr} {op : Operator}

theorem dividesByZero_signed {sign : Sign} : (signed sign e).DividesByZero ↔ e.DividesByZero := by
  constructor
  · rintro ⟨l, r, m, hpart, hl, hr⟩
    cases hpart with
    | child h hp =>
      obtain rfl := List.mem_singleton.mp h
      exact ⟨l, r, m, hp, hl, hr⟩
  · rintro ⟨l, r, m, hpart, hl, hr⟩
    exact ⟨l, r, m, .child (List.mem_singleton_self e) hpart, hl, hr⟩

/-- A binary expression divides by zero in one of its operands, or by its own operator. -/
theorem dividesByZero_binary : (binary op l r).DividesByZero ↔
    l.DividesByZero ∨ r.DividesByZero ∨
      ∃ m, l.integer? = some m ∧ op = .div ∧ r.integer? = some 0 := by
  constructor
  · rintro ⟨a, b, m, hpart, ha, hb⟩
    cases hpart with
    | self => exact .inr (.inr ⟨m, ha, rfl, hb⟩)
    | child h hp =>
      obtain rfl | rfl : _ = l ∨ _ = r := by simpa [children] using h
      · exact .inl ⟨a, b, m, hp, ha, hb⟩
      · exact .inr (.inl ⟨a, b, m, hp, ha, hb⟩)
  · rintro (⟨a, b, m, hp, ha, hb⟩ | ⟨a, b, m, hp, ha, hb⟩ | ⟨m, hl, rfl, hr⟩)
    · exact ⟨a, b, m, .child (by simp [children]) hp, ha, hb⟩
    · exact ⟨a, b, m, .child (by simp [children]) hp, ha, hb⟩
    · exact ⟨l, r, m, .self _, hl, hr⟩

/-- Without calls, only a division by zero takes the value away. -/
theorem integer?_eq_none_iff (h : e.calls = []) : e.integer? = none ↔ e.DividesByZero := by
  induction e using Expr.induction with
  | literal n =>
    refine ⟨nofun, ?_⟩
    rintro ⟨l, r, m, hpart, -⟩
    cases hpart with
    | child h => cases h
  | signed sign e ih =>
    rw [dividesByZero_signed, ← ih h]
    cases sign <;> simp [integer?]
  | binary op l r ihl ihr =>
    obtain ⟨hl, hr⟩ := List.append_eq_nil_iff.mp h
    rw [dividesByZero_binary, ← ihl hl, ← ihr hr]
    cases hm : l.integer? with
    | none => simp [integer?, hm]
    | some m =>
      cases hn : r.integer? with
      | none => simp [integer?, hm, hn]
      | some n => cases op <;> simp [integer?, hm, hn, Operator.onIntegers?]
  | call name es => simp at h

/-- Evaluation gives the value over the integers, and fails by a division by zero if there is
none. -/
theorem evaluate_eq_integer? (registry : Registry) (h : e.calls = []) :
    e.evaluate registry =
      match e.integer? with
      | some n => pure (.int n)
      | none => throw .divisionByZero := by
  induction e using Expr.induction with
  | literal n => rfl
  | signed sign e ih =>
    rw [evaluate_signed, ih h]
    cases hn : e.integer? with
    | none => cases sign <;> simp [integer?, hn]
    | some n => cases sign <;> simp [integer?, hn]
  | binary op l r ihl ihr =>
    obtain ⟨hl, hr⟩ := List.append_eq_nil_iff.mp h
    rw [evaluate_binary, ihl hl, ihr hr]
    cases hm : l.integer? with
    | none => simp [integer?, hm]
    | some m =>
      cases hn : r.integer? with
      | none => simp [integer?, hm, hn]
      | some n =>
        simp only [integer?, hm, hn, pure_bind, op.apply_int]
        cases op with
        | add | sub | mul => rfl
        | div =>
          by_cases zero : n = 0
          · simp [Operator.onIntegers?, zero, Run.ofExcept]
          · simp [Operator.onIntegers?, zero, Run.ofExcept, truncate_div]
  | call name es => simp at h

end Expr

/-- **Integer arithmetic is exact.** Without calls, and over any registry, an expression that divides
by zero nowhere has a value over the integers and is evaluated to it; and one that divides by zero
somewhere fails by that and by nothing else. -/
theorem evaluate_exact (registry : Registry) {e : Expr} (h : e.calls = []) :
    (¬ e.DividesByZero → ∃ n, e.integer? = some n ∧ e.evaluate registry = pure (.int n)) ∧
      (e.DividesByZero → e.evaluate registry = throw .divisionByZero) := by
  rw [e.evaluate_eq_integer? registry h, ← Expr.integer?_eq_none_iff h]
  cases e.integer? with
  | none => simp
  | some n => simp

/-- A quotient of a negative number, and a zero divisor under a multiplication by zero. -/
theorem evaluate_exact_quotients :
    ((Expr.binary .div (.literal (-7)) (.literal 2)).calls = [] ∧
        ¬ (Expr.binary .div (.literal (-7)) (.literal 2)).DividesByZero ∧
        (Expr.binary .div (.literal (-7)) (.literal 2)).evaluate [] = pure (.int (-3))) ∧
      (Expr.binary .mul (.literal 0) (.binary .div (.literal 1) (.literal 0))).calls = [] ∧
        (Expr.binary .mul (.literal 0) (.binary .div (.literal 1) (.literal 0))).DividesByZero ∧
        (Expr.binary .mul (.literal 0) (.binary .div (.literal 1) (.literal 0))).evaluate [] =
          throw .divisionByZero := by
  have hvalue : (Expr.binary .div (.literal (-7)) (.literal 2)).integer? = some (-3) := by
    have hquotient : truncate (((-7 : ℤ) : ℚ) / (2 : ℤ)) = -3 := by
      rw [truncate_div]
      decide
    simp only [Expr.integer?, Operator.onIntegers?, Option.bind_eq_bind, Option.bind_some, hquotient]
    decide
  have hwhole : ¬ (Expr.binary .div (.literal (-7)) (.literal 2)).DividesByZero := by
    rw [← Expr.integer?_eq_none_iff rfl, hvalue]
    nofun
  have hzero : (Expr.binary .mul (.literal 0)
      (.binary .div (.literal 1) (.literal 0))).DividesByZero := by
    rw [Expr.dividesByZero_binary, Expr.dividesByZero_binary]
    exact .inr (.inl (.inr (.inr ⟨1, rfl, rfl, rfl⟩)))
  obtain ⟨n, hn, heval⟩ := (evaluate_exact [] rfl).1 hwhole
  obtain rfl : n = -3 := Option.some.inj (hn.symm.trans hvalue)
  exact ⟨⟨rfl, hwhole, heval⟩, rfl, hzero, (evaluate_exact [] rfl).2 hzero⟩

end Reckoner
