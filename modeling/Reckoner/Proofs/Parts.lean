import Reckoner.Proofs.Evaluation

/-!
# The parts of an expression

A part of an expression is found by a path, each number of which leads on to an operand or an
argument. Evaluation goes through the parts from left to right: `Expr.Earlier` is the order in which
it comes to them, and an expression makes its value from those of its operands or arguments alone
(`Expr.evaluate_children`).
-/
namespace Reckoner.Expr

/-- The part of an expression that a path leads to. -/
def part? : Expr → List Nat → Option Expr
  | e, [] => some e
  | e, i :: path => e.children[i]?.bind fun child => child.part? path

/-- The second argument of a call, below the right operand of a difference. -/
example : (binary .sub (literal 2) (call "f" [literal 3, literal 4])).part? [1, 1] =
    some (literal 4) := by decide

/-- Where two paths part, the earlier one leads further to the left. -/
inductive Earlier : List Nat → List Nat → Prop
  | here {i j : Nat} (h : i < j) (path path' : List Nat) : Earlier (i :: path) (j :: path')
  | inside (i : Nat) {path path' : List Nat} (h : Earlier path path') :
      Earlier (i :: path) (i :: path')

/-- Induction over expressions by their operands and arguments. -/
@[elab_as_elim]
theorem children_induction {motive : Expr → Prop}
    (step : ∀ e : Expr, (∀ child ∈ e.children, motive child) → motive e) (e : Expr) : motive e := by
  induction e using Expr.induction with
  | literal n => exact step _ nofun
  | signed sign e ih => exact step _ (List.forall_mem_singleton.mpr ih)
  | binary op l r ihl ihr =>
    exact step _ (List.forall_mem_cons.mpr ⟨ihl, List.forall_mem_singleton.mpr ihr⟩)
  | call name es ih => exact step _ ih

variable {e child s : Expr} {i : Nat} {path : List Nat}

@[simp] theorem part?_nil (e : Expr) : e.part? [] = some e := rfl

theorem part?_cons (e : Expr) (i : Nat) (path : List Nat) :
    e.part? (i :: path) = e.children[i]?.bind fun child => child.part? path := rfl

theorem part?_child (h : e.children[i]? = some child) (path : List Nat) :
    e.part? (i :: path) = child.part? path := by
  rw [part?_cons, h, Option.bind_some]

theorem part?_cons_eq_some :
    e.part? (i :: path) = some s ↔
      ∃ child, e.children[i]? = some child ∧ child.part? path = some s := by
  rw [part?_cons, Option.bind_eq_some_iff]

/-! ## Evaluation by parts -/

/-- A call of a function that a registry lacks. -/
def Unknown (registry : Registry) (e : Expr) : Prop :=
  ∃ name es, e = .call name es ∧ registry.get? name = none

/-- **Evaluation goes from left to right.** Unless the function of a call is missing, the operands or
arguments are evaluated in their order, and what becomes of the expression depends on nothing but
their values. -/
theorem evaluate_children {registry : Registry} (known : ¬ e.Unknown registry) :
    ∃ combine : List Number → Run Number,
      e.evaluate registry = evaluateAll registry e.children >>= combine := by
  cases e with
  | literal n => exact ⟨fun _ => pure (.int n), rfl⟩
  | signed sign e =>
    refine ⟨fun values => pure (sign.apply (values.getD 0 default)), ?_⟩
    rw [evaluate_signed, children, evaluateAll_cons, evaluateAll_nil]
    simp
  | binary op l r =>
    refine ⟨fun values =>
      Run.ofExcept (op.apply (values.getD 0 default) (values.getD 1 default)), ?_⟩
    rw [evaluate_binary, children, evaluateAll_cons, evaluateAll_cons, evaluateAll_nil]
    simp
  | call name es =>
    cases hf : registry.get? name with
    | none => exact absurd ⟨name, es, rfl, hf⟩ known
    | some f => exact ⟨f.call name, evaluate_call registry hf es⟩

end Reckoner.Expr
