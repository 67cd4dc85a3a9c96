import Reckoner.Proofs.Definitions
import Reckoner.Proofs.Evaluation

/-!
# Integers stay integers

The builtin functions and all functions that are defined from them map integers to integers or fail
in one of a few ways. The invariant is that of a registry (`Registry.Integral`): the builtin
functions have it, a definition over such a registry keeps it, and so every expression has an
integer as its value, or fails in one of these ways, on whatever registry a command builds.
-/
namespace Reckoner

namespace Fault

/-- The innermost cause of a failed call. Any other fault is its own. -/
def root : Fault → Fault
  | .failedCall _ cause => root cause
  | fault => fault

/-- The innermost causes of failed calls: a wrong number of arguments, arguments that a builtin
function refuses, a name without a function, and a division by zero. -/
inductive IsRoot : Fault → Prop
  | tooManyArguments (callee : String) (takes given : Nat) :
      IsRoot (.tooManyArguments callee takes given)
  | missingArguments (callee : String) (missing : List String) :
      IsRoot (.missingArguments callee missing)
  | takesNoArguments (name : String) (given : Nat) : IsRoot (.takesNoArguments name given)
  | negativeExponent : IsRoot .negativeExponent
  | crossedBounds : IsRoot .crossedBounds
  | noMaximum : IsRoot (.nothingToCompare "max")
  | noMinimum : IsRoot (.nothingToCompare "min")
  | unknownFunction (name : String) : IsRoot (.unknownFunction name)
  | divisionByZero : IsRoot .divisionByZero

theorem IsRoot.root {fault : Fault} (h : fault.IsRoot) : fault.root.IsRoot := by
  cases h <;> constructor

/-- The faults of evaluating an expression on integers. -/
inductive IsIntegral : Fault → Prop
  | divisionByZero : IsIntegral .divisionByZero
  | unknownFunction (name : String) : IsIntegral (.unknownFunction name)
  | failedCall (name : String) {cause : Fault} (h : cause.root.IsRoot) :
      IsIntegral (.failedCall name cause)

theorem IsIntegral.root {fault : Fault} (h : fault.IsIntegral) : fault.root.IsRoot := by
  cases h with
  | divisionByZero => exact .divisionByZero
  | unknownFunction name => exact .unknownFunction name
  | failedCall _ h => exact h

/-- All of them are faults of evaluation. -/
theorem IsIntegral.isEvaluation {fault : Fault} (h : fault.IsIntegral) :
    fault.isEvaluation = true := by
  cases h <;> rfl

end Fault

/-- The number is an integer. -/
def Number.IsInt (value : Number) : Prop :=
  ∃ n : Int, value = .int n

/-- A function that maps integers to an integer, or fails for one of the innermost causes. -/
def Function.Integral (f : Function) : Prop :=
  ∀ ns : List Int, (f (ns.map .int)).Yields (fun v => ∃ n : Int, v = .number (.int n))
    fun fault => fault.root.IsRoot

/-- All functions map integers to integers. -/
def Registry.Integral (registry : Registry) : Prop :=
  ∀ ⦃name f⦄, registry.get? name = some f → f.Integral

/-! ## Evaluation over integers -/

theorem Function.Integral.call {f : Function} (h : f.Integral) (name : String) (ns : List Int) :
    (f.call name (ns.map .int)).Yields Number.IsInt Fault.IsIntegral := by
  refine ((h ns).tryCatch fun cause hcause => ?_).bind ?_
  · exact (Run.Yields.logLine _).bind fun _ _ => .throw (.failedCall name hcause)
  · rintro _ ⟨n, rfl⟩
    exact .ofExcept ⟨n, rfl⟩

theorem Operator.apply_integral (op : Operator) (m n : Int) :
    (Run.ofExcept (op.apply (.int m) (.int n))).Yields Number.IsInt Fault.IsIntegral := by
  refine .ofExcept ?_
  rw [op.apply_int]
  cases op with
  | add | sub | mul => exact ⟨_, rfl⟩
  | div =>
    by_cases hn : n = 0
    · simpa [hn] using Fault.IsIntegral.divisionByZero
    · simpa [hn] using ⟨_, rfl⟩

namespace Expr

variable {registry : Registry}

theorem evaluateAll_integral {es : List Expr}
    (h : ∀ e ∈ es, (e.evaluate registry).Yields Number.IsInt Fault.IsIntegral) :
    (evaluateAll registry es).Yields (fun values => ∃ ns : List Int, values = ns.map .int)
      Fault.IsIntegral := by
  induction es with
  | nil => exact .pure ⟨[], rfl⟩
  | cons e es ih =>
    rw [evaluateAll_cons]
    refine (h e (by simp)).bind ?_
    rintro _ ⟨n, rfl⟩
    refine (ih fun e he => h e (by simp [he])).bind ?_
    rintro _ ⟨ns, rfl⟩
    exact .pure ⟨n :: ns, rfl⟩

/-- Over functions on integers every expression has an integer as its value, or fails in one of a
few ways. -/
theorem evaluate_integral (hr : registry.Integral) (e : Expr) :
    (e.evaluate registry).Yields Number.IsInt Fault.IsIntegral := by
  induction e using Expr.induction with
  | literal n => exact .pure ⟨n, rfl⟩
  | signed sign e ih =>
    rw [evaluate_signed]
    refine ih.bind ?_
    rintro _ ⟨n, rfl⟩
    exact .pure ⟨_, Sign.apply_int sign n⟩
  | binary op l r ihl ihr =>
    rw [evaluate_binary]
    refine ihl.bind ?_
    rintro _ ⟨m, rfl⟩
    refine ihr.bind ?_
    rintro _ ⟨n, rfl⟩
    exact op.apply_integral m n
  | call name es ih =>
    cases hf : registry.get? name with
    | none =>
      rw [evaluate_unknown registry hf]
      exact .throw (.unknownFunction name)
    | some f =>
      rw [evaluate_call registry hf]
      refine (evaluateAll_integral ih).bind ?_
      rintro _ ⟨ns, rfl⟩
      exact (hr hf).call name ns

end Expr

/-! ## The registries of commands -/

theorem Builtin.arityFault_isRoot (b : Builtin) (parameters : List String) (given : Nat) :
    (b.arityFault parameters given).IsRoot := by
  unfold arityFault
  split
  · exact .tooManyArguments ..
  · exact .missingArguments ..

theorem Builtin.onInts_isRoot {b : Builtin} {ns : List Int} {fault : Fault}
    (h : b.onInts ns = .error fault) : fault.IsRoot := by
  cases b with
  | abs | sign =>
    rcases ns with _ | ⟨n, _ | ⟨m, ns⟩⟩ <;> cases h <;> exact arityFault_isRoot ..
  | clamp =>
    rcases ns with _ | ⟨n, _ | ⟨low, _ | ⟨high, _ | ⟨m, ns⟩⟩⟩⟩
    case cons.cons.cons.nil =>
      by_cases hbounds : high < low
      · rw [onInts, if_pos hbounds] at h
        cases h
        exact .crossedBounds
      · rw [onInts, if_neg hbounds] at h
        cases h
    all_goals
      cases h
      exact arityFault_isRoot ..
  | pow =>
    rcases ns with _ | ⟨base, _ | ⟨exponent, _ | ⟨m, ns⟩⟩⟩
    case cons.cons.nil =>
      by_cases hnegative : exponent < 0
      · rw [onInts, if_pos hnegative] at h
        cases h
        exact .negativeExponent
      · rw [onInts, if_neg hnegative] at h
        cases h
    all_goals
      cases h
      exact arityFault_isRoot ..
  | max =>
    cases ns with
    | nil =>
      cases h
      exact .noMaximum
    | cons n ns => cases h
  | min =>
    cases ns with
    | nil =>
      cases h
      exact .noMinimum
    | cons n ns => cases h
  | sum => cases h

theorem Builtin.function_integral (b : Builtin) : b.function.Integral := by
  intro ns
  refine .ofExcept ?_
  rw [b.apply_int]
  cases h : b.onInts ns with
  | ok n => exact ⟨n, rfl⟩
  | error fault => exact (onInts_isRoot h).root

theorem Registry.builtins_integral : builtins.Integral := by
  intro name f h
  obtain ⟨b, -, hb⟩ := List.mem_map.mp (Assoc.mem_of_get? h)
  cases hb
  exact b.function_integral

/-- A definition over functions on integers is a function on integers. -/
theorem Expr.function_integral {registry : Registry} (hr : registry.Integral) (name : String)
    (body : Expr) : (body.function name registry).Integral := by
  intro ns
  unfold Expr.function
  split
  · refine Run.Yields.bind ((evaluate_integral hr body).mono fun _ h => h.root) ?_
    rintro _ ⟨n, rfl⟩
    exact .pure ⟨n, rfl⟩
  · exact .throw (.takesNoArguments ..)

namespace Registry

theorem Integral.add {registry : Registry} (hr : registry.Integral) (name : String) (body : Expr) :
    (registry.add name body).Integral := by
  intro other f h
  rw [get?_add] at h
  split at h
  · cases h
    exact body.function_integral hr name
  · exact hr h

theorem Integral.extend {registry : Registry} (hr : registry.Integral)
    (bodies : List (String × Expr)) : (registry.extend bodies).Integral := by
  induction bodies generalizing registry with
  | nil => exact hr
  | cons b bodies ih => exact ih (hr.add b.1 b.2)

theorem base_integral (useBuiltins : Bool) : (base useBuiltins).Integral := by
  cases useBuiltins with
  | false =>
    intro name f h
    cases h
  | true => exact builtins_integral

end Registry

/-- **Integers stay integers.** If the bodies of all definitions can be read, then the registry of a
command can be built, and over it every text has an integer as its value, or is unreadable, or fails
by a division by zero, an unknown function, or a failed call with one of the innermost causes. -/
theorem evaluateText_integral (useBuiltins : Bool) (definitions : List (String × String))
    (readable : ∀ d ∈ definitions, ∃ body, parse d.2 = .ok body) (text : String) :
    ∃ registry journal, (Registry.build useBuiltins definitions).start = (.ok registry, journal) ∧
      (evaluateText registry text).Yields Number.IsInt
        fun fault => (∃ s, fault = .unreadable s) ∨ fault.IsIntegral := by
  obtain ⟨bodies, hbodies⟩ := readAll_ok_of_forall readable
  refine ⟨_, _, Registry.build_on hbodies useBuiltins {}, ?_⟩
  unfold evaluateText
  cases parse text with
  | ok e =>
    have hr := (Registry.base_integral useBuiltins).extend bodies
    exact (e.evaluate_integral hr).mono fun _ h => .inr h
  | error s => exact .throw (.inl ⟨s, rfl⟩)

/-- A builtin function replaced by one that always fails, and a definition that uses it twice. -/
theorem evaluateText_integral_shadowed :
    (∀ d ∈ [("abs", "1 / 0"), ("twice", "abs() + abs()")], ∃ body, parse d.2 = .ok body) ∧
      ∃ registry journal,
        (Registry.build true [("abs", "1 / 0"), ("twice", "abs() + abs()")]).start =
            (.ok registry, journal) ∧
          (evaluateText registry "twice() * 2").Yields Number.IsInt
            fun fault => (∃ s, fault = .unreadable s) ∨ fault.IsIntegral := by
  have readable : ∀ d ∈ [("abs", "1 / 0"), ("twice", "abs() + abs()")],
      ∃ body, parse d.2 = .ok body := by
    simp only [List.forall_mem_cons]
    exact ⟨⟨.binary .div (.literal 1) (.literal 0), by with_unfolding_all rfl⟩,
      ⟨.binary .add (.call "abs" []) (.call "abs" []), by with_unfolding_all rfl⟩, by simp⟩
  exact ⟨readable, evaluateText_integral true _ readable "twice() * 2"⟩

end Reckoner
