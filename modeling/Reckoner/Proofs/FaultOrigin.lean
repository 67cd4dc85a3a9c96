import Reckoner.Proofs.Parts
import Reckoner.Proofs.Substitution

/-!
# Where a fault comes from

A fault arises in exactly one part of an expression: the first one that evaluation comes to and that
fails though all its operands or arguments have values, or that calls a function which does not exist.
The expressions around that part hand the fault on as it is (`evaluate_origin`).
-/
namespace Reckoner

namespace Expr

/-- What evaluation gives: a value or a fault. -/
def outcome (registry : Registry) (e : Expr) : Except Fault Number :=
  (e.evaluate registry).start.1

/-- Evaluation gives a value. -/
def Succeeds (registry : Registry) (e : Expr) : Prop :=
  ∃ value, e.outcome registry = .ok value

/-- Evaluation comes to the part at a path: the functions of all calls around it exist, and all parts
that come earlier have values. -/
structure Visits (registry : Registry) (e : Expr) (path : List Nat) : Prop where
  /-- No call around the part is that of a missing function. -/
  known : ∀ front s, front <+: path → front ≠ path → e.part? front = some s → ¬ s.Unknown registry
  /-- Nothing fails before evaluation comes to the part. -/
  earlier : ∀ path' s, Earlier path' path → e.part? path' = some s → s.Succeeds registry

/-- A fault of the expression itself and not of a part of it. -/
structure Raises (registry : Registry) (e : Expr) (fault : Fault) : Prop where
  /-- Evaluation fails with this fault. -/
  fails : e.outcome registry = .error fault
  /-- The function is missing, or all operands or arguments have values. -/
  own : e.Unknown registry ∨ ∀ child ∈ e.children, child.Succeeds registry

variable {registry : Registry} {e child s s' : Expr} {es : List Expr} {fault fault' : Fault}
  {i : Nat} {path path' : List Nat}

/-! ## One step -/

theorem outcome_eq (settled : registry.Settled) (e : Expr) (j : Journal) :
    ((e.evaluate registry).on j).1 = e.outcome registry :=
  evaluate_settled settled e j {}

theorem not_succeeds (h : e.outcome registry = .error fault) : ¬ e.Succeeds registry := by
  rintro ⟨value, hvalue⟩
  rw [h] at hvalue
  cases hvalue

theorem Unknown.not_succeeds (h : e.Unknown registry) : ¬ e.Succeeds registry := by
  obtain ⟨name, es, rfl, hname⟩ := h
  have hfails : (call name es).outcome registry = .error (.unknownFunction name) := by
    rw [outcome, evaluate_unknown registry hname]
    rfl
  exact Expr.not_succeeds hfails

/-- The first of several expressions that fails gives them its fault. -/
theorem evaluateAll_error (settled : registry.Settled) (hi : es[i]? = some child)
    (hchild : child.outcome registry = .error fault)
    (left : ∀ k < i, ∀ e, es[k]? = some e → e.Succeeds registry) (j : Journal) :
    ((evaluateAll registry es).on j).1 = .error fault := by
  induction es generalizing i j with
  | nil => cases hi
  | cons e es ih =>
    have hfirst := outcome_eq settled e j
    rw [evaluateAll_cons]
    cases i with
    | zero =>
      obtain rfl : e = child := by simpa using hi
      exact Run.bind_of_error (hfirst.trans hchild)
    | succ i =>
      obtain ⟨value, hvalue⟩ := left 0 (Nat.succ_pos i) e rfl
      rw [Run.bind_of_ok (hfirst.trans hvalue)]
      exact Run.bind_of_error
        (ih hi (fun k hk e he => left (k + 1) (Nat.succ_lt_succ hk) e he) _)

/-- **The step**: an expression hands on the fault of the first operand or argument that fails. -/
theorem outcome_of_child (settled : registry.Settled) (known : ¬ e.Unknown registry)
    (hi : e.children[i]? = some child) (hchild : child.outcome registry = .error fault)
    (left : ∀ k < i, ∀ e', e.children[k]? = some e' → e'.Succeeds registry) :
    e.outcome registry = .error fault := by
  obtain ⟨combine, hcombine⟩ := evaluate_children known
  rw [← outcome_eq settled e {}, hcombine]
  exact Run.bind_of_error (evaluateAll_error settled hi hchild left {})

/-- Of several expressions that do not all have values, one is the first to fail. -/
theorem first_error (registry : Registry) (es : List Expr) :
    (∀ e ∈ es, e.Succeeds registry) ∨ ∃ (i : Nat) (child : Expr) (fault : Fault),
      es[i]? = some child ∧ child.outcome registry = .error fault ∧
        ∀ k < i, ∀ e, es[k]? = some e → e.Succeeds registry := by
  induction es with
  | nil => exact .inl nofun
  | cons e es ih =>
    cases hfirst : e.outcome registry with
    | error fault => exact .inr ⟨0, e, fault, rfl, hfirst, fun k hk => absurd hk (Nat.not_lt_zero k)⟩
    | ok value =>
      have hvalue : e.Succeeds registry := ⟨value, hfirst⟩
      rcases ih with hall | ⟨i, child, fault, hi, hchild, left⟩
      · exact .inl (List.forall_mem_cons.mpr ⟨hvalue, hall⟩)
      · refine .inr ⟨i + 1, child, fault, hi, hchild, fun k hk e' he' => ?_⟩
        cases k with
        | zero =>
          obtain rfl : e = e' := by simpa using he'
          exact hvalue
        | succ k => exact left k (Nat.lt_of_succ_lt_succ hk) e' he'

/-- Where an expression has a value, so have its operands or arguments. -/
theorem Succeeds.children (settled : registry.Settled) (h : e.Succeeds registry) :
    ∀ child ∈ e.children, child.Succeeds registry := by
  rcases first_error registry e.children with hall | ⟨i, child, fault, hi, hchild, left⟩
  · exact hall
  · have known : ¬ e.Unknown registry := fun unknown => unknown.not_succeeds h
    exact absurd h (not_succeeds (outcome_of_child settled known hi hchild left))

/-! ## Whole paths -/

/-- Where an expression has a value, so have all its parts. -/
theorem Succeeds.part (settled : registry.Settled) (h : e.Succeeds registry)
    (hs : e.part? path = some s) : s.Succeeds registry := by
  induction path generalizing e with
  | nil =>
    obtain rfl : e = s := by simpa using hs
    exact h
  | cons i path ih =>
    obtain ⟨child, hi, hs⟩ := part?_cons_eq_some.mp hs
    exact ih (h.children settled child (List.mem_of_getElem? hi)) hs

namespace Visits

theorem nil (registry : Registry) (e : Expr) : e.Visits registry [] where
  known _ _ hfront hne := absurd (List.prefix_nil.mp hfront) hne
  earlier _ _ h := nomatch h

theorem known_of_cons (h : e.Visits registry (i :: path)) : ¬ e.Unknown registry :=
  h.known [] e List.nil_prefix (List.cons_ne_nil i path).symm rfl

/-- What stands to the left of a path has values. -/
theorem left (h : e.Visits registry (i :: path)) :
    ∀ k < i, ∀ e', e.children[k]? = some e' → e'.Succeeds registry :=
  fun k hk e' he' => h.earlier [k] e' (.here hk [] path) (by rw [part?_child he', part?_nil])

theorem below (h : e.Visits registry (i :: path)) (hi : e.children[i]? = some child) :
    child.Visits registry path where
  known front s hfront hne hs := by
    refine h.known (i :: front) s ((List.prefix_cons_inj i).mpr hfront) ?_ ?_
    · simpa using hne
    · rwa [part?_child hi]
  earlier path' s hpath' hs := h.earlier (i :: path') s (.inside i hpath') (by rwa [part?_child hi])

/-- Evaluation comes to an operand or argument behind those to the left of it, and from there to its
parts. -/
theorem cons (settled : registry.Settled) (known : ¬ e.Unknown registry)
    (hi : e.children[i]? = some child)
    (left : ∀ k < i, ∀ e', e.children[k]? = some e' → e'.Succeeds registry)
    (h : child.Visits registry path) : e.Visits registry (i :: path) where
  known front s hfront hne hs := by
    cases front with
    | nil =>
      obtain rfl : e = s := by simpa using hs
      exact known
    | cons k front =>
      obtain ⟨rfl, hbelow⟩ := List.cons_prefix_cons.mp hfront
      rw [part?_child hi] at hs
      exact h.known front s hbelow (by simpa using hne) hs
  earlier path' s hpath' hs := by
    cases hpath' with
    | here hk =>
      obtain ⟨e', he', hs⟩ := part?_cons_eq_some.mp hs
      exact (left _ hk e' he').part settled hs
    | inside _ hpath' =>
      rw [part?_child hi] at hs
      exact h.earlier _ s hpath' hs

end Visits

/-- **The run**: the fault of a part that evaluation comes to is handed on all the way. -/
theorem outcome_of_part (settled : registry.Settled) (hs : e.part? path = some s)
    (visits : e.Visits registry path) (h : s.outcome registry = .error fault) :
    e.outcome registry = .error fault := by
  induction path generalizing e with
  | nil =>
    obtain rfl : e = s := by simpa using hs
    exact h
  | cons i path ih =>
    obtain ⟨child, hi, hs⟩ := part?_cons_eq_some.mp hs
    exact outcome_of_child settled visits.known_of_cons hi (ih hs (visits.below hi)) visits.left

/-! ## The origin of a fault -/

/-- Every fault is raised by some part. -/
theorem exists_raises (settled : registry.Settled) (h : e.outcome registry = .error fault) :
    ∃ path s, e.part? path = some s ∧ e.Visits registry path ∧ s.Raises registry fault := by
  induction e using children_induction with
  | step e ih =>
    by_cases unknown : e.Unknown registry
    · exact ⟨[], e, rfl, .nil registry e, h, .inl unknown⟩
    · rcases first_error registry e.children with hall | ⟨i, child, other, hi, hchild, left⟩
      · exact ⟨[], e, rfl, .nil registry e, h, .inr hall⟩
      · have hsame := outcome_of_child settled unknown hi hchild left
        rw [h] at hsame
        cases hsame
        obtain ⟨path, s, hs, visits, raises⟩ := ih child (List.mem_of_getElem? hi) hchild
        exact ⟨i :: path, s, by rwa [part?_child hi], .cons settled unknown hi left visits, raises⟩

/-- Where an expression raises a fault itself, evaluation comes to no part of it that fails. -/
theorem Raises.not_below (settled : registry.Settled) (h : e.Raises registry fault)
    (hs : e.part? (i :: path) = some s) (visits : e.Visits registry (i :: path)) :
    s.Succeeds registry := by
  obtain ⟨child, hi, hs⟩ := part?_cons_eq_some.mp hs
  have hall := h.own.resolve_left visits.known_of_cons
  exact (hall child (List.mem_of_getElem? hi)).part settled hs

/-- No two parts raise faults. -/
theorem raises_unique (settled : registry.Settled)
    (hs : e.part? path = some s) (visits : e.Visits registry path) (h : s.Raises registry fault)
    (hs' : e.part? path' = some s') (visits' : e.Visits registry path')
    (h' : s'.Raises registry fault') : path = path' := by
  induction path generalizing e path' with
  | nil =>
    obtain rfl : e = s := by simpa using hs
    cases path' with
    | nil => rfl
    | cons j path' => exact absurd (h.not_below settled hs' visits') (not_succeeds h'.fails)
  | cons i path ih =>
    cases path' with
    | nil =>
      obtain rfl : e = s' := by simpa using hs'
      exact absurd (h'.not_below settled hs visits) (not_succeeds h.fails)
    | cons j path' =>
      rcases Nat.lt_trichotomy i j with hlt | rfl | hlt
      · have hvalue := visits'.earlier (i :: path) s (.here hlt path path') hs
        exact absurd hvalue (not_succeeds h.fails)
      · obtain ⟨child, hi, hs⟩ := part?_cons_eq_some.mp hs
        rw [part?_child hi] at hs'
        rw [ih hs (visits.below hi) hs' (visits'.below hi)]
      · have hvalue := visits.earlier (j :: path') s' (.here hlt path' path) hs'
        exact absurd hvalue (not_succeeds h'.fails)

end Expr

/-- **A fault is that of one part.** Over functions that depend on nothing but their arguments, the
fault of a part that evaluation comes to is the fault of the whole expression, as it is. Conversely
the fault of an expression comes from exactly one part: evaluation comes to it, and it fails with this
very fault, because its function is missing or though all its operands or arguments have values. -/
theorem evaluate_origin {registry : Registry} (settled : registry.Settled) (e : Expr) :
    (∀ path s fault, e.part? path = some s → e.Visits registry path →
      s.outcome registry = .error fault → e.outcome registry = .error fault) ∧
    ∀ fault, e.outcome registry = .error fault →
      ∃! path, ∃ s, e.part? path = some s ∧ e.Visits registry path ∧
        s.outcome registry = .error fault ∧
        (s.Unknown registry ∨ ∀ child ∈ s.children, child.Succeeds registry) := by
  refine ⟨fun path s fault hs visits h => Expr.outcome_of_part settled hs visits h,
    fun fault h => ?_⟩
  obtain ⟨path, s, hs, visits, fails, own⟩ := Expr.exists_raises settled h
  refine ⟨path, ⟨s, hs, visits, fails, own⟩, ?_⟩
  rintro path' ⟨s', hs', visits', fails', own'⟩
  exact Expr.raises_unique settled hs' visits' ⟨fails', own'⟩ hs visits ⟨fails, own⟩

/-- A division by zero among the arguments of a call. Neither the call nor the product around it
changes the fault, and the missing function to the right of it is never looked for. -/
theorem evaluate_origin_argument :
    let quotient : Expr := .binary .div (.literal 2) (.literal 0)
    let e : Expr := .binary .mul (.call "max" [.literal 1, quotient]) (.call "g" [])
    Registry.builtins.Settled ∧
      e.part? [0, 1] = some quotient ∧ e.Visits Registry.builtins [0, 1] ∧
      quotient.outcome Registry.builtins = .error .divisionByZero ∧
      e.outcome Registry.builtins = .error .divisionByZero ∧
      ∃! path, ∃ s, e.part? path = some s ∧ e.Visits Registry.builtins path ∧
        s.outcome Registry.builtins = .error .divisionByZero ∧
        (s.Unknown Registry.builtins ∨ ∀ child ∈ s.children, child.Succeeds Registry.builtins) := by
  intro quotient e
  have settled : Registry.builtins.Settled := (Registry.base_uniform true).settled
  have hpart : e.part? [0, 1] = some quotient := rfl
  have visits : e.Visits Registry.builtins [0, 1] := by
    have product : ¬ e.Unknown Registry.builtins := by
      rintro ⟨name, es, he, -⟩
      exact Expr.noConfusion he
    have maximum : ¬ (Expr.call "max" [.literal 1, quotient]).Unknown Registry.builtins := by
      rintro ⟨name, es, ⟨⟩, hname⟩
      cases hname
    have first : ∀ k < 1, ∀ e', [Expr.literal 1, quotient][k]? = some e' →
        e'.Succeeds Registry.builtins := by
      intro k hk e' he'
      obtain rfl : k = 0 := by omega
      obtain rfl : Expr.literal 1 = e' := by simpa using he'
      exact ⟨.int 1, rfl⟩
    exact .cons settled product rfl nofun (.cons settled maximum rfl first (.nil _ _))
  have hquotient : quotient.outcome Registry.builtins = .error .divisionByZero := rfl
  have he := (evaluate_origin settled e).1 _ _ _ hpart visits hquotient
  exact ⟨settled, hpart, visits, hquotient, he, (evaluate_origin settled e).2 _ he⟩

end Reckoner
