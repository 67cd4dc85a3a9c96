import Reckoner.Proofs.IntegerClosure
import Reckoner.Proofs.Resolution

/-!
# Activations

At any time of an evaluation some functions are running, each called from the body of the one before
it. This is said here without stepping through an evaluation: `Expr.Comes` says which parts of an
expression the evaluation comes to, `Callee.Visible` what a name stands for where only the first
definitions can be seen, and `Running` puts the two together, call inside call. The main fact is
`evaluate_explained`: an evaluation over the definitions of a command either has an integer as its
value and logs nothing, or fails, and then the failed calls in its fault are running calls,
whose log lines it leaves, the innermost one first.
-/
namespace Reckoner

/-- The failed calls that a fault consists of, the outermost one first, each with its cause. -/
def Fault.chain : Fault → List (String × Fault)
  | .failedCall name cause => (name, cause) :: chain cause
  | _ => []

theorem Fault.chain_of_ne {fault : Fault} (h : ∀ name cause, fault ≠ .failedCall name cause) :
    fault.chain = [] := by
  cases fault with
  | failedCall name cause => exact absurd rfl (h name cause)
  | _ => rfl

theorem Fault.IsRoot.chain {fault : Fault} (h : fault.IsRoot) : fault.chain = [] := by
  cases h <;> rfl

/-! ## The parts that evaluation comes to -/

namespace Expr

/-- Evaluation gives the expression a value, whatever has been done before. -/
def HasValue (registry : Registry) (e : Expr) : Prop :=
  ∃ value, ∀ j, ((e.evaluate registry).on j).1 = .ok value

/-- The evaluation of an expression comes to a part of it: the calls around the part have functions,
and all operands and arguments in front of it have values. -/
inductive Comes (registry : Registry) (part : Expr) : Expr → Prop
  | here : Comes registry part part
  | signed {e : Expr} (sign : Sign) (h : Comes registry part e) :
      Comes registry part (.signed sign e)
  | left {l : Expr} (op : Operator) (r : Expr) (h : Comes registry part l) :
      Comes registry part (.binary op l r)
  | right {l r : Expr} (op : Operator) (value : l.HasValue registry)
      (h : Comes registry part r) : Comes registry part (.binary op l r)
  | argument {name : String} {front back : List Expr} {e : Expr}
      (known : (registry.get? name).isSome) (values : ∀ e ∈ front, e.HasValue registry)
      (h : Comes registry part e) : Comes registry part (.call name (front ++ e :: back))

end Expr

/-! ## What can be called -/

/-- Something that can be called: a definition, by its place, or a builtin function. -/
inductive Callee (bodies : List (String × Expr)) where
  /-- A definition. -/
  | definition (i : Fin bodies.length)
  /-- A builtin function. -/
  | builtin (b : Builtin)

/-- The registry that the first definitions make. -/
def Registry.upTo (useBuiltins : Bool) (bodies : List (String × Expr)) (k : Nat) : Registry :=
  (base useBuiltins).extend (bodies.take k)

theorem Registry.upTo_length (useBuiltins : Bool) (bodies : List (String × Expr)) :
    upTo useBuiltins bodies bodies.length = (base useBuiltins).extend bodies := by
  rw [upTo, List.take_length]

namespace Callee

variable {bodies : List (String × Expr)}

/-- The name by which something is called. -/
def name : Callee bodies → String
  | .definition i => bodies[i].1
  | .builtin b => b.name

/-- The function that runs when something is called. A definition sees those in front of it. -/
def function (useBuiltins : Bool) : Callee bodies → Function
  | .definition i => bodies[i].2.function bodies[i].1 (.upTo useBuiltins bodies i)
  | .builtin b => b.function

/-- Where the first `k` definitions can be seen, the name of a callee stands for it: it is the last
definition of that name, or a builtin function and there is no such definition. -/
inductive Visible (useBuiltins : Bool) (k : Nat) : Callee bodies → Prop
  | definition {i : Fin bodies.length} (seen : i < k)
      (last : ∀ i' : Fin bodies.length, i < i' → i' < k → bodies[i'].1 ≠ bodies[i].1) :
      Visible useBuiltins k (.definition i)
  | builtin {b : Builtin} (used : useBuiltins = true)
      (free : ∀ i : Fin bodies.length, i < k → bodies[i].1 ≠ b.name) :
      Visible useBuiltins k (.builtin b)

/-- A further definition hides those of its name only. -/
theorem Visible.succ {useBuiltins : Bool} {k : Nat} {c : Callee bodies} (hk : k < bodies.length)
    (h : c.Visible useBuiltins k) (other : bodies[k].1 ≠ c.name) : c.Visible useBuiltins (k + 1) := by
  have newest : ∀ i : Fin bodies.length, i < k + 1 → i < k ∨ i = ⟨k, hk⟩ := by
    intro i hi
    rcases Nat.lt_succ_iff_lt_or_eq.mp hi with hlt | heq
    · exact .inl hlt
    · exact .inr (Fin.ext heq)
  cases h with
  | definition seen last =>
    refine .definition (Nat.lt_succ_of_lt seen) fun i' hi hi' => ?_
    rcases newest i' hi' with hlt | rfl
    · exact last i' hi hlt
    · exact other
  | builtin used free =>
    refine .builtin used fun i hi => ?_
    rcases newest i hi with hlt | rfl
    · exact free i hlt
    · exact other

end Callee

/-- The function of a name is that of what the name stands for. -/
theorem Registry.get?_upTo {useBuiltins : Bool} {bodies : List (String × Expr)} {k : Nat}
    (hk : k ≤ bodies.length) {name : String} {f : Function}
    (h : (upTo useBuiltins bodies k).get? name = some f) :
    ∃ c : Callee bodies, c.Visible useBuiltins k ∧ c.name = name ∧ c.function useBuiltins = f := by
  induction k with
  | zero =>
    cases useBuiltins with
    | false => cases h
    | true =>
      have hbuiltin : (Builtin.ofName? name).map Builtin.function = some f := by
        rw [← get?_builtins]
        exact h
      obtain ⟨b, hb, rfl⟩ := Option.map_eq_some_iff.mp hbuiltin
      have hname : b.name = name := by simpa using List.find?_some hb
      exact ⟨.builtin b, .builtin rfl fun i hi => absurd hi (Nat.not_lt_zero _), hname, rfl⟩
  | succ k ih =>
    rw [upTo, List.take_succ_eq_append_getElem hk, extend_concat, get?_add] at h
    by_cases hname : bodies[k].1 = name
    · rw [if_pos hname] at h
      refine ⟨.definition ⟨k, hk⟩, .definition (Nat.lt_succ_self k) fun i' hi hi' => ?_, hname,
        Option.some.inj h⟩
      exact absurd hi (Nat.not_lt.mpr (Nat.lt_succ_iff.mp hi'))
    · rw [if_neg hname] at h
      obtain ⟨c, hc, rfl, hf⟩ := ih (Nat.le_of_succ_le hk) h
      exact ⟨c, hc.succ hk hname, rfl, hf⟩

/-! ## Running calls -/

/-- A call with the values of its arguments. -/
structure Activation (bodies : List (String × Expr)) where
  /-- What is called. -/
  callee : Callee bodies
  /-- The values of the arguments. -/
  arguments : List Number

/-- The evaluation of an expression over the first `k` definitions comes to a call: the name stands
for the callee there, and the arguments have values. -/
structure Entered (useBuiltins : Bool) {bodies : List (String × Expr)} (k : Nat) (e : Expr)
    (c : Activation bodies) : Prop where
  visible : c.callee.Visible useBuiltins k
  reached : ∃ es, Expr.Comes (.upTo useBuiltins bodies k) (.call c.callee.name es) e ∧
    ∀ j, ((Expr.evaluateAll (.upTo useBuiltins bodies k) es).on j).1 = .ok c.arguments

/-- The calls that are running at some time in the evaluation of an expression over the first `k`
definitions, the outermost one first. The next one is called by the body of a definition, which runs
if the definition gets no arguments. -/
inductive Running (useBuiltins : Bool) {bodies : List (String × Expr)} :
    Nat → Expr → List (Activation bodies) → Prop
  | idle (k : Nat) (e : Expr) : Running useBuiltins k e []
  | call {k : Nat} {e : Expr} {c : Activation bodies} (h : Entered useBuiltins k e c) :
      Running useBuiltins k e [c]
  | body {k : Nat} {e : Expr} {i : Fin bodies.length} {calls : List (Activation bodies)}
      (h : Entered useBuiltins k e ⟨.definition i, []⟩)
      (inner : Running useBuiltins i bodies[i].2 calls) :
      Running useBuiltins k e (⟨.definition i, []⟩ :: calls)

/-- A call that fails, and why. -/
structure Failure (bodies : List (String × Expr)) extends Activation bodies where
  /-- What the function fails for. -/
  cause : Fault

namespace Failure

variable {bodies : List (String × Expr)}

/-- What a fault tells of a failed call. -/
def link (f : Failure bodies) : String × Fault :=
  (f.callee.name, f.cause)

/-- What the log tells of a failed call. -/
def line (f : Failure bodies) : String :=
  "Function " ++ f.callee.name ++ "(" ++ ", ".intercalate (f.arguments.map Number.text) ++
    ") failed: " ++ f.cause.message

end Failure

/-- The failures are those of calls that are running, and their functions do fail in this way. -/
structure Failing (useBuiltins : Bool) {bodies : List (String × Expr)} (k : Nat) (e : Expr)
    (failures : List (Failure bodies)) : Prop where
  running : Running useBuiltins k e (failures.map Failure.toActivation)
  fails : ∀ f ∈ failures, ∀ j,
    ((f.callee.function useBuiltins f.arguments).on j).1 = .error f.cause

/-- What an evaluation gives and logs: an integer and no line, or a fault and one line for each
failed call in it, the innermost one first. -/
def Explained (useBuiltins : Bool) (bodies : List (String × Expr)) (k : Nat) (e : Expr) :
    Except Fault Number → List String → Prop
  | .ok value, lines => value.IsInt ∧ lines = []
  | .error fault, lines => ∃ failures : List (Failure bodies), Failing useBuiltins k e failures ∧
      failures.map Failure.link = fault.chain ∧ lines = (failures.map Failure.line).reverse

section Explained

variable {useBuiltins : Bool} {bodies : List (String × Expr)} {k : Nat} {e e' : Expr}

/-- The calls of a part that the evaluation comes to are calls of the whole. -/
theorem Running.within {calls : List (Activation bodies)} (h : Running useBuiltins k e calls)
    (comes : ∀ part, Expr.Comes (.upTo useBuiltins bodies k) part e →
      Expr.Comes (.upTo useBuiltins bodies k) part e') : Running useBuiltins k e' calls := by
  have entered : ∀ c : Activation bodies, Entered useBuiltins k e c →
      Entered useBuiltins k e' c := by
    intro c hc
    obtain ⟨es, hcall, hgiven⟩ := hc.reached
    exact ⟨hc.visible, es, comes _ hcall, hgiven⟩
  cases h with
  | idle => exact .idle k e'
  | call h => exact .call (entered _ h)
  | body h inner => exact .body (entered _ h) inner

theorem Explained.within {fault : Fault} {lines : List String}
    (h : Explained useBuiltins bodies k e (.error fault) lines)
    (comes : ∀ part, Expr.Comes (.upTo useBuiltins bodies k) part e →
      Expr.Comes (.upTo useBuiltins bodies k) part e') :
    Explained useBuiltins bodies k e' (.error fault) lines := by
  obtain ⟨failures, ⟨hrunning, hfails⟩, hlinks⟩ := h
  exact ⟨failures, ⟨hrunning.within comes, hfails⟩, hlinks⟩

/-- A fault without failed calls explains itself. -/
theorem Explained.of_chain {fault : Fault} (h : fault.chain = []) :
    Explained useBuiltins bodies k e (.error fault) [] :=
  ⟨[], ⟨.idle k e, nofun⟩, h.symm, rfl⟩

/-- All evaluations over the first `k` definitions are explained. -/
def AllExplained (useBuiltins : Bool) (bodies : List (String × Expr)) (k : Nat) : Prop :=
  ∀ e : Expr, ∃ r lines, (e.evaluate (.upTo useBuiltins bodies k)).Gives r lines ∧
    Explained useBuiltins bodies k e r lines

/-- The failures are those of calls that are running inside a call, which is running itself. -/
structure FailingInside (useBuiltins : Bool) {bodies : List (String × Expr)} (c : Activation bodies)
    (failures : List (Failure bodies)) : Prop where
  running : ∀ {k e}, Entered useBuiltins k e c →
    Running useBuiltins k e (c :: failures.map Failure.toActivation)
  fails : ∀ f ∈ failures, ∀ j,
    ((f.callee.function useBuiltins f.arguments).on j).1 = .error f.cause

theorem FailingInside.none (useBuiltins : Bool) (c : Activation bodies) :
    FailingInside useBuiltins c [] :=
  ⟨.call, nofun⟩

/-- What a callee gives and logs for integers: an integer and no line, or a fault and the lines of
the failed calls in it. -/
theorem Activation.run_explained (c : Activation bodies)
    (earlier : ∀ i, c.callee = .definition i → AllExplained useBuiltins bodies i)
    (ints : ∃ ns : List Int, c.arguments = ns.map .int) :
    ∃ r lines, (c.callee.function useBuiltins c.arguments).Gives r lines ∧
      match r with
      | .ok result => (∃ n : Int, result = .number (.int n)) ∧ lines = []
      | .error cause => ∃ failures, FailingInside useBuiltins c failures ∧
          failures.map Failure.link = cause.chain ∧ lines = (failures.map Failure.line).reverse := by
  obtain ⟨callee, arguments⟩ := c
  cases callee with
  | builtin b =>
    obtain ⟨ns, rfl⟩ := ints
    refine ⟨_, [], .ofExcept (b.apply (ns.map .int)), ?_⟩
    rw [b.apply_int]
    cases h : b.onInts ns with
    | ok n => exact ⟨⟨n, rfl⟩, rfl⟩
    | error cause => exact ⟨[], .none .., (Builtin.onInts_isRoot h).chain.symm, rfl⟩
  | definition i =>
    cases arguments with
    | cons n ns => exact ⟨_, [], .throw _, [], .none .., rfl, rfl⟩
    | nil =>
      obtain ⟨r, lines, hbody, hr⟩ := earlier i rfl bodies[i].2
      have hrun : (Callee.definition i).function useBuiltins [] =
          bodies[i].2.evaluate (.upTo useBuiltins bodies i) >>= fun value =>
            pure (.number value) := rfl
      rw [hrun]
      cases r with
      | ok value =>
        obtain ⟨⟨n, rfl⟩, rfl⟩ := hr
        exact ⟨_, _, hbody.bind (.pure _), ⟨n, rfl⟩, rfl⟩
      | error cause =>
        obtain ⟨failures, ⟨hrunning, hfails⟩, hlinks, hlines⟩ := hr
        exact ⟨_, _, hbody.bind_error, failures, ⟨fun h => .body h hrunning, hfails⟩, hlinks, hlines⟩

/-- A call that the evaluation comes to is explained. If the function fails, the call is one more
failed call around those that are running inside. -/
theorem Entered.explained {c : Activation bodies} (h : Entered useBuiltins k e c)
    (earlier : ∀ i, c.callee = .definition i → AllExplained useBuiltins bodies i)
    (ints : ∃ ns : List Int, c.arguments = ns.map .int) :
    ∃ r lines, ((c.callee.function useBuiltins).call c.callee.name c.arguments).Gives r lines ∧
      Explained useBuiltins bodies k e r lines := by
  obtain ⟨r, lines, hrun, hr⟩ := c.run_explained earlier ints
  cases r with
  | ok result =>
    obtain ⟨⟨n, rfl⟩, rfl⟩ := hr
    refine ⟨.ok (.int n), [], fun j => ?_, ⟨n, rfl⟩, rfl⟩
    rw [Function.call_on, hrun j]
    rfl
  | error cause =>
    obtain ⟨failures, hinside, hlinks, rfl⟩ := hr
    refine ⟨.error (.failedCall c.callee.name cause), _, fun j => ?_, ⟨c, cause⟩ :: failures,
      ⟨hinside.running h, List.forall_mem_cons.mpr ⟨hrun.result, hinside.fails⟩⟩,
      congrArg (_ :: ·) hlinks, rfl⟩
    rw [Function.call_on, hrun j]
    simp [Failure.line, failureLine]

/-- What evaluating several expressions gives and logs: integers and no line, or the fault and the
lines of one of them, behind others that have values. -/
theorem evaluateAll_explained {es : List Expr}
    (h : ∀ e ∈ es, ∃ r lines, (e.evaluate (.upTo useBuiltins bodies k)).Gives r lines ∧
      Explained useBuiltins bodies k e r lines) :
    ∃ r lines, (Expr.evaluateAll (.upTo useBuiltins bodies k) es).Gives r lines ∧
      match r with
      | .ok values => (∃ ns : List Int, values = ns.map .int) ∧ lines = []
      | .error fault => ∃ front e back, es = front ++ e :: back ∧
          (∀ e ∈ front, e.HasValue (.upTo useBuiltins bodies k)) ∧
          Explained useBuiltins bodies k e (.error fault) lines := by
  induction es with
  | nil => exact ⟨_, _, .pure [], ⟨[], rfl⟩, rfl⟩
  | cons e es ih =>
    obtain ⟨⟨r, lines, he, hr⟩, hes⟩ := List.forall_mem_cons.mp h
    rw [Expr.evaluateAll_cons]
    cases r with
    | error fault => exact ⟨_, _, he.bind_error, [], e, es, rfl, nofun, hr⟩
    | ok value =>
      obtain ⟨⟨n, rfl⟩, rfl⟩ := hr
      obtain ⟨r', lines', hall, hr'⟩ := ih hes
      cases r' with
      | ok values =>
        obtain ⟨⟨ns, rfl⟩, rfl⟩ := hr'
        exact ⟨_, _, he.bind (hall.bind (.pure _)), ⟨n :: ns, rfl⟩, rfl⟩
      | error fault =>
        obtain ⟨front, e', back, rfl, hfront, he'⟩ := hr'
        have hvalue : e.HasValue (.upTo useBuiltins bodies k) := ⟨.int n, he.result⟩
        exact ⟨_, _, he.bind hall.bind_error, e :: front, e', back, rfl,
          List.forall_mem_cons.mpr ⟨hvalue, hfront⟩, he'⟩

/-- On integers, operators fail without a failed call. -/
theorem Operator.apply_explained (op : Operator) (m n : Int) :
    Explained useBuiltins bodies k e (op.apply (.int m) (.int n)) [] := by
  rw [op.apply_int]
  cases op with
  | add | sub | mul => exact ⟨⟨_, rfl⟩, rfl⟩
  | div =>
    by_cases zero : n = 0
    · simpa [zero] using Explained.of_chain rfl
    · simpa [zero] using ⟨⟨_, rfl⟩, rfl⟩

/-- **Every evaluation is explained**, by induction on the number of definitions that can be seen,
and on the expression. -/
theorem evaluate_explained (hk : k ≤ bodies.length) : AllExplained useBuiltins bodies k := by
  induction k using Nat.strongRecOn with
  | ind k earlier =>
    intro e
    induction e using Expr.induction with
    | literal n => exact ⟨_, _, .pure _, ⟨n, rfl⟩, rfl⟩
    | signed sign e ih =>
      obtain ⟨r, lines, he, hr⟩ := ih
      rw [Expr.evaluate_signed]
      cases r with
      | error fault => exact ⟨_, _, he.bind_error, hr.within fun _ => .signed sign⟩
      | ok value =>
        obtain ⟨⟨n, rfl⟩, rfl⟩ := hr
        exact ⟨_, _, he.bind (.pure _), ⟨_, Sign.apply_int sign n⟩, rfl⟩
    | binary op l r ihl ihr =>
      obtain ⟨rl, lines, hl, hrl⟩ := ihl
      rw [Expr.evaluate_binary]
      cases rl with
      | error fault => exact ⟨_, _, hl.bind_error, hrl.within fun _ => .left op r⟩
      | ok value =>
        obtain ⟨⟨m, rfl⟩, rfl⟩ := hrl
        have hvalue : l.HasValue (.upTo useBuiltins bodies k) := ⟨.int m, hl.result⟩
        obtain ⟨rr, lines, hr, hrr⟩ := ihr
        cases rr with
        | error fault => exact ⟨_, _, hl.bind hr.bind_error, hrr.within fun _ => .right op hvalue⟩
        | ok value =>
          obtain ⟨⟨n, rfl⟩, rfl⟩ := hrr
          exact ⟨_, _, hl.bind (hr.bind (.ofExcept _)), op.apply_explained m n⟩
    | call name es ih =>
      cases hf : (Registry.upTo useBuiltins bodies k).get? name with
      | none =>
        rw [Expr.evaluate_unknown _ hf]
        exact ⟨_, _, .throw _, .of_chain rfl⟩
      | some f =>
        obtain ⟨callee, visible, rfl, rfl⟩ := Registry.get?_upTo hk hf
        obtain ⟨r, lines, hall, hr⟩ := evaluateAll_explained ih
        rw [Expr.evaluate_call _ hf]
        cases r with
        | error fault =>
          obtain ⟨front, e, back, rfl, hfront, he⟩ := hr
          exact ⟨_, _, hall.bind_error, he.within fun _ => .argument (by rw [hf]; rfl) hfront⟩
        | ok values =>
          obtain ⟨ints, rfl⟩ := hr
          have entered : Entered useBuiltins k (.call callee.name es) ⟨callee, values⟩ :=
            ⟨visible, es, .here, hall.result⟩
          -- a definition that can be seen has a place below `k`, so its body is explained
          obtain ⟨r, lines, hcall, hr⟩ := entered.explained (fun i hi => by
            obtain rfl : callee = .definition i := hi
            cases visible with
            | definition seen => exact earlier i seen (Nat.le_of_lt i.isLt)) ints
          exact ⟨r, _, hall.bind hcall, hr⟩

end Explained

/-- A text cannot be read, or its evaluation is that of its expression, which is explained. -/
theorem evaluateText_explained (useBuiltins : Bool) (bodies : List (String × Expr)) (text : String) :
    (∃ fault, parse text = .error fault ∧
      (evaluateText ((Registry.base useBuiltins).extend bodies) text).Gives
        (.error (.unreadable fault)) []) ∨
    ∃ e, parse text = .ok e ∧ ∃ r lines,
      (evaluateText ((Registry.base useBuiltins).extend bodies) text).Gives r lines ∧
        Explained useBuiltins bodies bodies.length e r lines := by
  unfold evaluateText
  cases parse text with
  | error fault => exact .inl ⟨fault, rfl, .throw _⟩
  | ok e =>
    have h := @evaluate_explained useBuiltins bodies bodies.length (Nat.le_refl _) e
    rw [Registry.upTo_length] at h
    exact .inr ⟨e, rfl, h⟩

end Reckoner
