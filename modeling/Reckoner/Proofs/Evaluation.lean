import Reckoner.Evaluation.Definition
import Reckoner.Proofs.Run

/-!
# Evaluation, construct by construct

One equation for each form of an expression, the induction over expressions that goes with them, and
what signs, operators and the builtin functions give for integers. A property of computations that
is kept when computations are put together holds of every evaluation if it holds of the functions
(`Expr.evaluate_stable`).
-/
namespace Reckoner

/-- Induction over expressions: a call may use the arguments. -/
@[elab_as_elim]
theorem Expr.induction {motive : Expr → Prop} (literal : ∀ n, motive (.literal n))
    (signed : ∀ sign e, motive e → motive (.signed sign e))
    (binary : ∀ op l r, motive l → motive r → motive (.binary op l r))
    (call : ∀ name es, (∀ e ∈ es, motive e) → motive (.call name es)) (e : Expr) : motive e :=
  match e with
  | .literal n => literal n
  | .signed sign e => signed sign e (Expr.induction literal signed binary call e)
  | .binary op l r =>
    binary op l r (Expr.induction literal signed binary call l)
      (Expr.induction literal signed binary call r)
  | .call name es => call name es fun e _ => Expr.induction literal signed binary call e

namespace Expr

variable (registry : Registry)

@[simp] theorem evaluate_literal (n : Int) :
    (literal n).evaluate registry = pure (.int n) := rfl

theorem evaluate_signed (sign : Sign) (e : Expr) :
    (signed sign e).evaluate registry =
      e.evaluate registry >>= fun value => pure (sign.apply value) := rfl

theorem evaluate_binary (op : Operator) (l r : Expr) :
    (binary op l r).evaluate registry =
      l.evaluate registry >>= fun x => r.evaluate registry >>= fun y =>
        Run.ofExcept (op.apply x y) := rfl

theorem evaluate_unknown {name : String} (h : registry.get? name = none) (es : List Expr) :
    (call name es).evaluate registry = throw (.unknownFunction name) := by
  rw [evaluate, h]

theorem evaluate_call {name : String} {f : Function} (h : registry.get? name = some f)
    (es : List Expr) :
    (call name es).evaluate registry = evaluateAll registry es >>= f.call name := by
  rw [evaluate, h]

@[simp] theorem evaluateAll_nil : evaluateAll registry [] = pure [] := rfl

theorem evaluateAll_cons (e : Expr) (es : List Expr) :
    evaluateAll registry (e :: es) =
      e.evaluate registry >>= fun value => evaluateAll registry es >>= fun values =>
        pure (value :: values) := rfl

end Expr

/-- What a call does with what the function does: a result has to be accepted, and a failure becomes
that of the call, with a log line. -/
theorem Function.call_on (f : Function) (name : String) (arguments : List Number) (j : Journal) :
    (f.call name arguments).on j =
      match (f arguments).on j with
      | (.ok result, j') => (accept name result, j')
      | (.error cause, j') =>
        (.error (.failedCall name cause),
          { j' with log := j'.log ++ [failureLine name arguments cause] }) := by
  rw [call, Run.on_bind, Run.on_tryCatch]
  rcases (f arguments).on j with ⟨cause | result, j'⟩
  · simp only [Run.on_bind, Run.on_logLine, Run.on_throw]
  · simp only [Run.on_ofExcept]

/-- A call gives what the function gives, as far as that is accepted. -/
theorem Function.call_eq_ok {f : Function} {name : String} {arguments : List Number} {j : Journal}
    {value : Number} :
    ((f.call name arguments).on j).1 = .ok value ↔
      ∃ result, ((f arguments).on j).1 = .ok result ∧ accept name result = .ok value := by
  rw [call_on]
  rcases (f arguments).on j with ⟨cause | result, j'⟩ <;> simp

/-! ## Properties that are kept -/

/-- A property of computations is kept when computations are put together. -/
structure Run.Stable (P : ∀ {α : Type}, Run α → Prop) : Prop where
  ofExcept : ∀ {α : Type} (r : Except Fault α), P (Run.ofExcept r)
  logLine : ∀ line : String, P (Run.logLine line)
  bind : ∀ {α β : Type} {x : Run α} {f : α → Run β}, P x → (∀ a, P (f a)) → P (x >>= f)
  tryCatch : ∀ {α : Type} {x : Run α} {handle : Fault → Run α}, P x → (∀ fault, P (handle fault)) →
    P (tryCatch x handle)

section Stable

variable {P : ∀ {α : Type}, Run α → Prop} (hP : Run.Stable @P)
include hP

theorem Function.call_stable {f : Function} {arguments : List Number} (h : P (f arguments))
    (name : String) : P (f.call name arguments) := by
  refine hP.bind (hP.tryCatch h fun cause => ?_) fun result => hP.ofExcept _
  exact hP.bind (hP.logLine _) fun _ => hP.ofExcept (.error (.failedCall name cause))

namespace Expr

variable {registry : Registry}

theorem evaluateAll_stable {es : List Expr} (h : ∀ e ∈ es, P (e.evaluate registry)) :
    P (evaluateAll registry es) := by
  induction es with
  | nil => exact hP.ofExcept (.ok [])
  | cons e es ih =>
    obtain ⟨he, hes⟩ := List.forall_mem_cons.mp h
    rw [evaluateAll_cons]
    exact hP.bind he fun value => hP.bind (ih hes) fun values => hP.ofExcept (.ok _)

theorem evaluate_stable (hr : ∀ ⦃name f⦄, registry.get? name = some f → ∀ arguments, P (f arguments))
    (e : Expr) : P (e.evaluate registry) := by
  induction e using Expr.induction with
  | literal n => exact hP.ofExcept (.ok _)
  | signed sign e ih => exact hP.bind ih fun value => hP.ofExcept (.ok _)
  | binary op l r ihl ihr => exact hP.bind ihl fun x => hP.bind ihr fun y => hP.ofExcept _
  | call name es ih =>
    cases hf : registry.get? name with
    | none =>
      rw [evaluate_unknown registry hf]
      exact hP.ofExcept (.error _)
    | some f =>
      rw [evaluate_call registry hf]
      exact hP.bind (evaluateAll_stable hP ih) fun arguments =>
        Function.call_stable hP (hr hf arguments) name

end Expr
end Stable

/-! ## Integers -/

@[simp] theorem accept_int (name : String) (n : Int) :
    accept name (.number (.int n)) = .ok (.int n) := rfl

@[simp] theorem Sign.apply_int (sign : Sign) (n : Int) :
    sign.apply (.int n) = .int (match sign with | .plus => n | .minus => -n) := by
  cases sign <;> rfl

/-- Operators are exact on integers, and fail on them only by a division by zero. -/
theorem Operator.apply_int (op : Operator) (m n : Int) :
    op.apply (.int m) (.int n) =
      match op with
      | .add => .ok (.int (m + n))
      | .sub => .ok (.int (m - n))
      | .mul => .ok (.int (m * n))
      | .div => if n = 0 then .error .divisionByZero else .ok (.int (m.tdiv n)) := by
  cases op with
  | add | sub | mul => rfl
  | div =>
    by_cases hn : n = 0 <;>
      simp [apply, raw, divide, Number.isZero, Number.quotient, Number.quotientOfSizes_eq_tdiv, hn,
        Except.map]

/-- What a builtin function gives for integers. -/
def Builtin.onInts (b : Builtin) (ns : List Int) : Except Fault Int :=
  match b, ns with
  | .abs, [n] => .ok n.natAbs
  | .abs, _ => .error (b.arityFault ["value"] ns.length)
  | .clamp, [n, low, high] =>
    if high < low then .error .crossedBounds else .ok (Max.max low (Min.min high n))
  | .clamp, _ => .error (b.arityFault ["value", "low", "high"] ns.length)
  | .max, [] => .error (.nothingToCompare "max")
  | .max, n :: ns => .ok (ns.foldl Max.max n)
  | .min, [] => .error (.nothingToCompare "min")
  | .min, n :: ns => .ok (ns.foldl Min.min n)
  | .pow, [base, exponent] =>
    if exponent < 0 then .error .negativeExponent else .ok (base.pow exponent.toNat)
  | .pow, _ => .error (b.arityFault ["base", "exponent"] ns.length)
  | .sign, [n] => .ok n.sign
  | .sign, _ => .error (b.arityFault ["value"] ns.length)
  | .sum, ns => .ok (ns.foldl (· + ·) 0)

theorem larger_int (m n : Int) : larger id (.int m) (.int n) = Number.int (max m n) := by
  simp only [larger, id, Number.lt, decide_eq_true_eq]
  split <;> congr 1 <;> omega

theorem smaller_int (m n : Int) : smaller id (.int m) (.int n) = Number.int (min m n) := by
  simp only [smaller, id, Number.lt, decide_eq_true_eq]
  split <;> congr 1 <;> omega

/-- A choice among integers, one after the other, is an integer. -/
theorem foldl_int {choose : Number → Number → Number} {choice : Int → Int → Int}
    (h : ∀ m n, choose (.int m) (.int n) = .int (choice m n)) (n : Int) (ns : List Int) :
    (ns.map Number.int).foldl choose (.int n) = .int (ns.foldl choice n) := by
  induction ns generalizing n with
  | nil => rfl
  | cons m ns ih => rw [List.map_cons, List.foldl_cons, h, ih, List.foldl_cons]

theorem sum_int (n : Int) (ns : List Int) :
    (ns.map Number.int).foldlM Number.add (.int n) = .ok (.int (ns.foldl (· + ·) n)) := by
  induction ns generalizing n with
  | nil => rfl
  | cons m ns ih =>
    rw [List.map_cons, List.foldlM_cons, List.foldl_cons]
    exact ih (n + m)

theorem Number.sign_int (n : Int) : (Number.int n).sign = .int n.sign := by
  simp only [Number.sign, Number.lt, decide_eq_true_eq]
  rcases Int.lt_trichotomy n 0 with hn | rfl | hn
  · simp [hn, Int.sign_eq_neg_one_of_neg hn]; omega
  · rfl
  · simp [hn, Int.sign_eq_one_of_pos hn]; omega

/-- The builtin functions are exact on integers. -/
theorem Builtin.apply_int (b : Builtin) (ns : List Int) :
    b.apply (ns.map .int) = (b.onInts ns).map fun n => Value.number (.int n) := by
  unfold apply
  cases b with
  | abs => rcases ns with _ | ⟨n, _ | ⟨m, ns⟩⟩ <;> simp [applyTo, onInts, Except.map, Number.abs]
  | clamp =>
    rcases ns with _ | ⟨n, _ | ⟨low, _ | ⟨high, _ | ⟨m, ns⟩⟩⟩⟩
    case cons.cons.cons.nil =>
      by_cases h : high < low <;>
        simp [applyTo, onInts, Except.map, Number.lt, smaller_int, larger_int, h]
    all_goals simp [applyTo, onInts, Except.map]
  | max =>
    cases ns with
    | nil => rfl
    | cons n ns =>
      rw [List.map_cons, applyTo, foldl_int larger_int]
      rfl
  | min =>
    cases ns with
    | nil => rfl
    | cons n ns =>
      rw [List.map_cons, applyTo, foldl_int smaller_int]
      rfl
  | pow =>
    rcases ns with _ | ⟨base, _ | ⟨exponent, _ | ⟨m, ns⟩⟩⟩
    case cons.cons.nil =>
      by_cases h : exponent < 0 <;>
        simp [applyTo, onInts, Except.map, Number.lt, Number.power, ranged, integerPower_eq, h]
    all_goals simp [applyTo, onInts, Except.map]
  | sign =>
    rcases ns with _ | ⟨n, _ | ⟨m, ns⟩⟩ <;> simp [applyTo, onInts, Except.map, Number.sign_int]
  | sum =>
    rw [applyTo, Number.sum, List.map_id, sum_int]
    rfl

end Reckoner
