import Reckoner.Proofs.ExactIntegers
import Reckoner.Proofs.Printing
import Reckoner.Proofs.Spelling

/-!
# Written integers are expressions

An integer is written as a numeral, behind a minus sign if it is negative. The language has no
negative literals, so what stands there is a sign in front of a literal (`Expr.ofInt`). A sign binds
tighter than every operator; written integers can therefore be put on both sides of one without
parentheses, and the results that are shown can be calculated with again.
-/
namespace Reckoner

theorem Operator.text_mark (op : Operator) :
    ∃ c, op.text.toList = [c] ∧ Symbol.ofMark? c = some op.symbol := by
  cases op with
  | add => exact ⟨'+', by decide⟩
  | sub => exact ⟨'-', by decide⟩
  | mul => exact ⟨'*', by decide⟩
  | div => exact ⟨'/', by decide⟩

namespace Expr

/-- The expression that a written integer stands for. -/
def ofInt (n : ℤ) : Expr :=
  if n < 0 then .signed .minus (.literal n.natAbs) else .literal n.natAbs

variable {n : ℤ}

theorem ofInt_of_neg (h : n < 0) : ofInt n = .signed .minus (.literal n.natAbs) :=
  if_pos h

theorem ofInt_of_nonneg (h : ¬ n < 0) : ofInt n = .literal n.natAbs :=
  if_neg h

theorem spellable_ofInt (n : ℤ) : (ofInt n).Spellable := by
  have literal : (Expr.literal n.natAbs).Spellable := .literal (Int.natCast_nonneg _)
  by_cases h : n < 0
  · rw [ofInt_of_neg h]
    exact .signed .minus literal
  · rw [ofInt_of_nonneg h]
    exact literal

theorem isBinary_ofInt (n : ℤ) : (ofInt n).isBinary = false := by
  unfold ofInt
  split <;> rfl

theorem isAdditive_ofInt (n : ℤ) : (ofInt n).isAdditive = false := by
  unfold ofInt
  split <;> rfl

/-- The symbols of a written integer are those of its expression. -/
theorem spelled_writeInt (n : ℤ) : Spelled (Numeral.writeInt n).toList (ofInt n).spell := by
  have hdigits : Spelled (Numeral.digits n.natAbs) [.integer n.natAbs] := by
    rw [← Numeral.toList_writeInt_natCast]
    exact Spelled.text (s := .integer n.natAbs) trivial
  by_cases h : n < 0
  · rw [Numeral.toList_writeInt, if_pos h, ofInt_of_neg h]
    exact hdigits.mark (s := .minus) rfl
  · rw [Numeral.toList_writeInt, if_neg h, ofInt_of_nonneg h]
    exact hdigits

/-- No parentheses are needed around written integers. -/
theorem spell_binary_ofInt (op : Operator) (a b : ℤ) :
    (binary op (ofInt a) (ofInt b)).spell = (ofInt a).spell ++ op.symbol :: (ofInt b).spell := by
  rw [spell, isAdditive_ofInt, isAdditive_ofInt, isBinary_ofInt, Bool.and_false, ite_self]
  rfl

@[simp] theorem evaluate_ofInt (registry : Registry) (n : ℤ) :
    (ofInt n).evaluate registry = pure (.int n) := by
  by_cases h : n < 0
  · have hvalue : -(n.natAbs : ℤ) = n := by omega
    rw [ofInt_of_neg h, evaluate_signed, evaluate_literal, pure_bind, Sign.apply_int, hvalue]
  · have hvalue : (n.natAbs : ℤ) = n := by omega
    rw [ofInt_of_nonneg h, evaluate_literal, hvalue]

end Expr

theorem parse_writeInt (n : ℤ) : parse (Numeral.writeInt n) = .ok (.ofInt n) :=
  parse_eq_ok_iff_spelled.mpr
    ⟨_, Expr.spelled_writeInt n, (Expr.spellable_ofInt n).derivable.expression⟩

theorem parse_writeInt_binary (a b : ℤ) (op : Operator) :
    parse (Numeral.writeInt a ++ " " ++ op.text ++ " " ++ Numeral.writeInt b) =
      .ok (.binary op (.ofInt a) (.ofInt b)) := by
  have blank : ∀ c ∈ [' '], Text.isBlank c = true := List.forall_mem_singleton.mpr (by decide)
  obtain ⟨c, hc, hmark⟩ := op.text_mark
  -- the blank in front of the operator ends the first numeral, the one behind it belongs to nothing
  have hleft : Spelled ((Numeral.writeInt a).toList ++ [' ']) (Expr.ofInt a).spell := by
    have h := (Expr.spelled_writeInt a).append (.blanks blank) fun c hc =>
      Lexeme.isNamePart_of_isBlank (blank c (List.mem_of_mem_head? hc))
    rwa [List.append_nil] at h
  have hright := (Expr.spelled_writeInt b).behind_blanks blank
  have hspelled := hleft.append_mark hmark hright
  have hderives := (Expr.Spellable.binary op (Expr.spellable_ofInt a)
    (Expr.spellable_ofInt b)).derivable.expression
  rw [← Expr.spell_binary_ofInt] at hspelled
  refine parse_eq_ok_iff_spelled.mpr ⟨_, ?_, hderives⟩
  have htext : (Numeral.writeInt a ++ " " ++ op.text ++ " " ++ Numeral.writeInt b).toList =
      (Numeral.writeInt a).toList ++ [' '] ++ c :: ([' '] ++ (Numeral.writeInt b).toList) := by
    simp [hc]
  rwa [htext]

/-- **What is written can be calculated with.** Two written integers with an operator between them
have the exact result of the operator, where a quotient is cut toward zero, and fail only where the
divisor is zero; and the text in which an integer is shown as a result has that integer as its
value. -/
theorem evaluateText_writeInt (registry : Registry) :
    (∀ (a b : ℤ) (op : Operator),
      evaluateText registry
          (Numeral.writeInt a ++ " " ++ op.text ++ " " ++ Numeral.writeInt b) =
        match op with
        | .add => pure (.int (a + b))
        | .sub => pure (.int (a - b))
        | .mul => pure (.int (a * b))
        | .div =>
          if b = 0 then throw .divisionByZero else pure (.int (truncate ((a : ℚ) / (b : ℚ))))) ∧
    ∀ a : ℤ, evaluateText registry (Number.int a).text = pure (.int a) := by
  constructor
  · intro a b op
    rw [evaluateText, parse_writeInt_binary]
    simp only [Expr.evaluate_binary, Expr.evaluate_ofInt, pure_bind, op.apply_int]
    cases op with
    | add | sub | mul => rfl
    | div =>
      by_cases zero : b = 0
      · simp only [if_pos zero]
        rfl
      · simp only [if_neg zero, truncate_div]
        rfl
  · intro a
    have hparse : parse (Number.int a).text = .ok (.ofInt a) := parse_writeInt a
    rw [evaluateText, hparse]
    exact Expr.evaluate_ofInt registry a

end Reckoner
