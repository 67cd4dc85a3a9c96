import Reckoner.Proofs.Doubles
import Reckoner.Proofs.Evaluation

/-!
# What evaluation can end with

The functions of a registry are the caller's. They may give back anything and fail in any way, and
they may give doubles back, so that integers of any size meet doubles. Whatever they do, evaluation
ends with a finite number or with a fault of the expression language, and every other fault stays
wrapped in the failed call that met it. There is one way out: a value that is no number has to be
shown in the complaint about it, and that fails if it holds an integer of too many digits.
-/
namespace Reckoner

/-- The faults of the expression language. All others occur only as causes of these. -/
inductive Fault.IsExpression : Fault → Prop
  | unreadable (fault : SyntaxFault) : IsExpression (.unreadable fault)
  | divisionByZero : IsExpression .divisionByZero
  | overflow (op : Operator) (cause : Overflow) : IsExpression (.overflow op cause)
  | unknownFunction (name : String) : IsExpression (.unknownFunction name)
  | failedCall (name : String) (cause : Fault) : IsExpression (.failedCall name cause)

/-- A value that a call accepts, or can at least complain about. -/
def Value.Reportable (v : Value) : Prop :=
  v.number? ≠ none ∨ v.show? ≠ none

/-- The function gives nothing back that a call cannot complain about. -/
def Function.Reportable (f : Function) : Prop :=
  ∀ arguments j v, ((f arguments).on j).1 = .ok v → v.Reportable

/-- No function gives anything back that a call cannot complain about. -/
def Registry.Reportable (registry : Registry) : Prop :=
  ∀ ⦃name f⦄, registry.get? name = some f → f.Reportable

/-! ## Numbers -/

namespace Number

variable {l r n : Number}

@[simp] theorem isFinite_float (x : Float) : (Number.float x).isFinite = x.isFinite := rfl

theorem isFinite_neg (n : Number) : n.neg.isFinite = n.isFinite := by
  cases n with
  | int n => rfl
  | float x => exact Double.isFinite_neg x

theorem toDouble_error {fault : RangeFault} (h : n.toDouble = .error fault) :
    fault = .tooLarge := by
  cases n with
  | int n => exact Double.ofInt_error h
  | float x => cases h

theorem toDouble_isFinite {x : Float} (finite : n.isFinite = true) (h : n.toDouble = .ok x) :
    x.isFinite = true := by
  cases n with
  | int n => exact (Double.ofInt_ok h).2
  | float y =>
    cases h
    exact finite

/-- The double of a number other than zero is none of the two zeros. -/
theorem toDouble_ne_zero {x : Float} (nonzero : n.isZero = false) (h : n.toDouble = .ok x)
    (s : Float.Model.UnpackedFloat.Sign) : x.toModel.unpack ≠ .zero s := by
  cases n with
  | int n =>
    obtain ⟨rfl, -⟩ := Double.ofInt_ok h
    have hn : n ≠ 0 := by simpa [isZero] using nonzero
    exact Double.ofInt_ne_zero hn s
  | float y =>
    cases h
    exact Double.unpack_ne_zero nonzero s

/-- Where at least one double takes part, an operation fails by an integer that is too large for a
double, or else on the two doubles. -/
theorem doubles_eq_error {α : Type} {operation : Float → Float → Except RangeFault α}
    {fault : RangeFault} (h : (do
      let x ← l.toDouble
      let y ← r.toDouble
      operation x y) = .error fault) :
    fault = .tooLarge ∨
      ∃ x y, l.toDouble = .ok x ∧ r.toDouble = .ok y ∧ operation x y = .error fault := by
  cases hl : l.toDouble with
  | error fault' =>
    rw [hl] at h
    cases h
    exact .inl (toDouble_error hl)
  | ok x =>
    cases hr : r.toDouble with
    | error fault' =>
      rw [hl, hr] at h
      cases h
      exact .inl (toDouble_error hr)
    | ok y =>
      rw [hl, hr] at h
      exact .inr ⟨x, y, rfl, rfl, h⟩

/-- Sums, differences and products fail only where an integer is too large for a double. -/
theorem combine_error {onInts : Int → Int → Int} {onDoubles : Float → Float → Float}
    {fault : RangeFault} (h : combine onInts onDoubles l r = .error fault) : fault = .tooLarge := by
  have mixed : (do
      let x ← l.toDouble
      let y ← r.toDouble
      return Number.float (onDoubles x y)) = Except.error fault → fault = .tooLarge := by
    intro h
    obtain hfault | ⟨x, y, -, -, hresult⟩ := doubles_eq_error h
    · exact hfault
    · cases hresult
  cases l with
  | int m =>
    cases r with
    | int n => cases h
    | float y => exact mixed h
  | float x => exact mixed h

/-- A quotient of finite numbers is defined: it fails only beyond the doubles. -/
theorem quotient_ne_undefined (hl : l.isFinite = true) (hr : r.isFinite = true)
    (nonzero : r.isZero = false) : l.quotient r ≠ .error .undefined := by
  have mixed : (do
      let x ← l.toDouble
      let y ← r.toDouble
      Double.toInt (x / y)) ≠ Except.error .undefined := by
    intro h
    obtain hfault | ⟨x, y, hx, hy, hquotient⟩ := doubles_eq_error h
    · cases hfault
    · -- an integer divisor might still have been rounded to zero
      have hzero := toDouble_ne_zero nonzero hy
      exact Double.toInt_div_ne_undefined (toDouble_isFinite hl hx) (toDouble_isFinite hr hy)
        hzero hquotient
  cases l with
  | int m =>
    cases r with
    | int n => nofun
    | float y => exact mixed
  | float x => exact mixed

end Number

theorem Sign.isFinite_apply (sign : Sign) (n : Number) :
    (sign.apply n).isFinite = n.isFinite := by
  cases sign with
  | plus => rfl
  | minus => exact n.isFinite_neg

namespace Operator

variable {l r : Number}

/-- Before its result is looked at, an operator fails by a zero divisor or beyond the doubles. -/
theorem raw_error (op : Operator) {fault : Fault} (hl : l.isFinite = true) (hr : r.isFinite = true)
    (h : op.raw l r = .error fault) :
    fault = .divisionByZero ∨ ∃ range, fault = .range range ∧ range ≠ .undefined := by
  cases op with
  | add | sub | mul =>
    simp only [raw, Number.add, Number.sub, Number.mul] at h
    split at h
    · cases h
    · rename_i range hrange
      cases h
      exact .inr ⟨range, rfl, by rw [Number.combine_error hrange]; decide⟩
  | div =>
    simp only [raw, divide] at h
    by_cases zero : r.isZero = true
    · rw [if_pos zero] at h
      cases h
      exact .inl rfl
    · rw [if_neg zero] at h
      cases hq : l.quotient r with
      | ok q =>
        rw [hq] at h
        cases h
      | error range =>
        rw [hq] at h
        cases h
        refine .inr ⟨range, rfl, ?_⟩
        rintro rfl
        exact Number.quotient_ne_undefined hl hr (by simpa using zero) hq

/-- An operator on finite numbers gives a finite number or fails with a fault of the language. -/
theorem apply_closed (op : Operator) (hl : l.isFinite = true) (hr : r.isFinite = true) :
    match op.apply l r with
    | .ok n => n.isFinite = true
    | .error fault => fault.IsExpression := by
  unfold apply
  cases h : op.raw l r with
  | error fault =>
    rcases op.raw_error hl hr h with rfl | ⟨range, rfl, hrange⟩
    · exact .divisionByZero
    · cases range with
      | undefined => exact absurd rfl hrange
      | tooLarge | infinite | power | complexPower => exact .overflow op _
  | ok n =>
    cases n with
    | int n => rfl
    | float x =>
      by_cases finite : x.isFinite = true
      · simp [finite]
      · simpa [finite] using Fault.IsExpression.overflow op (.result x)

end Operator

/-! ## Calls -/

/-- The result of a call is finite, or the complaint about it is a fault of the language, as far as
there can be a complaint. -/
theorem accept_closed (name : String) (v : Value) :
    match accept name v with
    | .ok n => n.isFinite = true
    | .error fault => fault.IsExpression ∨ (fault = .oversized ∧ ¬ v.Reportable) := by
  unfold accept
  cases hn : v.number? with
  | some n =>
    cases n with
    | int n => rfl
    | float x =>
      by_cases finite : x.isFinite = true
      · simp [finite]
      · simpa [finite] using Fault.IsExpression.failedCall name (.nonFinite x)
  | none =>
    cases hs : v.show? with
    | some shown => exact .inl (.failedCall name _)
    | none => exact .inr ⟨rfl, by simp [Value.Reportable, hn, hs]⟩

/-- Whatever a function does, its call ends with a finite number or a fault of the language, unless
it gives something back that no complaint can show. -/
theorem Function.call_closed (f : Function) (name : String) (arguments : List Number) :
    (f.call name arguments).Yields (fun n => n.isFinite = true)
      fun fault => fault.IsExpression ∨ (fault = .oversized ∧ ¬ f.Reportable) := by
  have hf : (f arguments).Yields (fun v => ∃ j, ((f arguments).on j).1 = .ok v)
      fun _ => True := by
    intro j
    cases h : ((f arguments).on j).1 with
    | ok v => exact ⟨j, h⟩
    | error fault => trivial
  -- the function runs under the handler, its result is looked at outside of it
  refine (hf.tryCatch fun cause _ => ?_).bind ?_
  · exact (Run.Yields.logLine _).bind fun _ _ => .throw (.inl (.failedCall name cause))
  · rintro v ⟨j, hv⟩
    refine .ofExcept ?_
    have hclosed := accept_closed name v
    cases h : accept name v with
    | ok n => simpa [h] using hclosed
    | error fault =>
      rw [h] at hclosed
      -- a result that cannot be reported is one of this function's
      refine hclosed.imp_right fun ⟨hfault, hreport⟩ => ⟨hfault, ?_⟩
      intro reportable
      exact hreport (reportable arguments j v hv)

/-! ## Expressions -/

/-- How evaluation over a registry can fail. -/
def Registry.Expected (registry : Registry) (fault : Fault) : Prop :=
  fault.IsExpression ∨ (fault = .oversized ∧ ¬ registry.Reportable)

namespace Expr

variable {registry : Registry}

theorem evaluateAll_closed {es : List Expr}
    (h : ∀ e ∈ es, (e.evaluate registry).Yields (fun n => n.isFinite = true) registry.Expected) :
    (evaluateAll registry es).Yields (fun _ => True) registry.Expected := by
  induction es with
  | nil => exact .pure trivial
  | cons e es ih =>
    rw [evaluateAll_cons]
    refine (h e (by simp)).bind fun n _ => ?_
    exact (ih fun e he => h e (by simp [he])).bind fun ns _ => .pure trivial

/-- Every expression has a finite value, or fails as is expected of the registry. -/
theorem evaluate_closed (registry : Registry) (e : Expr) :
    (e.evaluate registry).Yields (fun n => n.isFinite = true) registry.Expected := by
  induction e using Expr.induction with
  | literal n => exact .pure rfl
  | signed sign e ih =>
    rw [evaluate_signed]
    refine ih.bind fun n hn => .pure ?_
    rw [sign.isFinite_apply, hn]
  | binary op l r ihl ihr =>
    rw [evaluate_binary]
    refine ihl.bind fun m hm => ihr.bind fun n hn => .ofExcept ?_
    have hclosed := op.apply_closed hm hn
    cases h : op.apply m n with
    | ok v => simpa [h] using hclosed
    | error fault => exact .inl (by simpa [h] using hclosed)
  | call name es ih =>
    cases hf : registry.get? name with
    | none =>
      rw [evaluate_unknown registry hf]
      exact .throw (.inl (.unknownFunction name))
    | some f =>
      rw [evaluate_call registry hf]
      -- the function is one of the registry's, so what it gives back counts against the registry
      refine (evaluateAll_closed ih).bind fun ns _ => (f.call_closed name ns).mono ?_
      intro fault hfault
      exact hfault.imp_right fun ⟨heq, hreport⟩ => ⟨heq, fun reportable => hreport (reportable hf)⟩

end Expr

/-- **Evaluation ends with a finite number or a fault of the expression language**, over every
registry whose functions give nothing back that a complaint cannot show. Over any other registry
there is one more way to fail, that of the complaint itself. -/
theorem evaluateText_closed (registry : Registry) (text : String) :
    (evaluateText registry text).Yields (fun n => n.isFinite = true) fun fault =>
      fault.IsExpression ∨ (fault = .oversized ∧ ¬ registry.Reportable) := by
  unfold evaluateText
  cases parse text with
  | ok e => exact e.evaluate_closed registry
  | error fault => exact .throw (.inl (.unreadable fault))

theorem Value.showInt?_eq_none {n : Int} (h : Nat.pow 10 Numeral.digitLimit ≤ n.natAbs) :
    showInt? n = none := by
  have hdigits : Numeral.isConvertible n = false := by
    rwa [Numeral.isConvertible, decide_eq_false_iff_not, Nat.not_lt]
  rw [showInt?, hdigits, if_neg Bool.false_ne_true]

/-- There is no complaint about a list that holds an integer of too many digits. -/
theorem accept_oversized {n : Int} (h : Nat.pow 10 Numeral.digitLimit ≤ n.natAbs) (name : String) :
    accept name (.json (.array [.int n])) = .error .oversized := by
  simp [accept, Value.number?, Value.show?, Value.showJson?, Value.showItems?, Json.int,
    Value.showInt?_eq_none h]

/-- The call of a function that always gives the same back. -/
theorem Function.call_const (v : Value) (name : String) (arguments : List Number) (j : Journal) :
    (Function.call name (fun _ => pure v) arguments).on j = (accept name v, j) := by
  rw [Function.call, Run.on_bind, Run.on_tryCatch, Run.on_pure]
  exact Run.on_ofExcept ..

/-- A registry whose only function gives back a list of one integer. -/
def Registry.listing (n : Int) : Registry :=
  [("f", fun _ => pure (.json (.array [.int n])))]

theorem evaluateText_listing {n : Int} (h : Nat.pow 10 Numeral.digitLimit ≤ n.natAbs) :
    (evaluateText (Registry.listing n) "f()").start.1 = .error .oversized := by
  have hparse : parse "f()" = .ok (.call "f" []) := by with_unfolding_all rfl
  have hget : (Registry.listing n).get? "f" = some fun _ => pure (.json (.array [.int n])) := rfl
  have hstart : ∀ x : Run Number, x.start = x.on {} := fun _ => rfl
  rw [evaluateText, hparse, hstart]
  dsimp only
  rw [Expr.evaluate_call _ hget, Expr.evaluateAll_nil, Run.on_bind, Run.on_pure]
  dsimp only
  rw [Function.call_const, accept_oversized h]

/-- A function that gives back a list of one integer, of 4301 digits: its call fails with a fault
that is none of the expression language. -/
theorem evaluateText_overlong :
    (evaluateText (Registry.listing Numeral.overlong) "f()").start.1 = .error .oversized ∧
      ¬ Fault.oversized.IsExpression := by
  have hdigits : Nat.pow 10 Numeral.digitLimit ≤ Numeral.overlong.natAbs :=
    Nat.le_of_eq (Int.natAbs_natCast _).symm
  exact ⟨evaluateText_listing hdigits, fun h => nomatch h⟩

end Reckoner
