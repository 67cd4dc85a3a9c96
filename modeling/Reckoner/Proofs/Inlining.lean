import Mathlib.Data.List.Induction
import Reckoner.Proofs.IntegerClosure

/-!
# Defined functions mean their inlined bodies

A defined function evaluates its body over the registry that was there when it was defined. Inlining
says the same without any registry: every call of a visible name is replaced by the inlined body of
its definition, where a body sees the definitions in front of it only. The two agree on all results.
The relation that is carried along the definitions is `Registry.Realizes`: a registry does what the
registry without definitions does for the inlined bodies.
-/
namespace Reckoner

namespace Expr

mutual
/-- An expression with the calls of some names replaced by expressions. -/
def inline (bodies : List (String × Expr)) : Expr → Expr
  | .literal n => .literal n
  | .signed sign e => .signed sign (inline bodies e)
  | .binary op l r => .binary op (inline bodies l) (inline bodies r)
  | .call name es =>
    match Assoc.get? name bodies with
    | some body => body
    | none => .call name (inlineAll bodies es)
termination_by structural e => e

/-- Several expressions with the calls of some names replaced by expressions. -/
def inlineAll (bodies : List (String × Expr)) : List Expr → List Expr
  | [] => []
  | e :: es => inline bodies e :: inlineAll bodies es
termination_by structural es => es
end

/-- Calls of the given names carry no arguments. -/
inductive Bare (names : List String) : Expr → Prop
  | literal (n : Int) : Bare names (.literal n)
  | signed {e : Expr} (sign : Sign) (h : Bare names e) : Bare names (.signed sign e)
  | binary {l r : Expr} (op : Operator) (hl : Bare names l) (hr : Bare names r) :
      Bare names (.binary op l r)
  | call {es : List Expr} (name : String) (h : name ∈ names → es = [])
      (hes : ∀ e ∈ es, Bare names e) : Bare names (.call name es)

theorem inline_call_some {bodies : List (String × Expr)} {name : String} {body : Expr}
    (h : Assoc.get? name bodies = some body) (es : List Expr) :
    (call name es).inline bodies = body := by
  rw [inline, h]

theorem inline_call_none {bodies : List (String × Expr)} {name : String}
    (h : Assoc.get? name bodies = none) (es : List Expr) :
    (call name es).inline bodies = .call name (inlineAll bodies es) := by
  rw [inline, h]

end Expr

/-- In the body of each definition, calls of the names in front of it carry no arguments. -/
def BareBodies (bodies : List (String × Expr)) : Prop :=
  ∀ i (h : i < bodies.length), bodies[i].2.Bare ((bodies.take i).map Prod.fst)

theorem BareBodies.concat {bodies : List (String × Expr)} {name : String} {body : Expr}
    (h : BareBodies (bodies ++ [(name, body)])) :
    BareBodies bodies ∧ body.Bare (bodies.map Prod.fst) := by
  constructor
  · intro i hi
    have hbody := h i (by simp; omega)
    rwa [List.getElem_append_left hi, List.take_append_of_le_length (Nat.le_of_lt hi)] at hbody
  · simpa using h bodies.length (by simp)

/-- The inlined bodies of definitions by name, over those of the definitions in front of them. -/
def inlinedBodies (bodies : List (String × Expr)) : List (String × Expr) :=
  bodies.foldl (fun inlined b => Assoc.insert b.1 (b.2.inline inlined) inlined) []

theorem inlinedBodies_concat (bodies : List (String × Expr)) (name : String) (body : Expr) :
    inlinedBodies (bodies ++ [(name, body)]) =
      Assoc.insert name (body.inline (inlinedBodies bodies)) (inlinedBodies bodies) := by
  rw [inlinedBodies, List.foldl_append]
  rfl

/-- A call of its own name and a call of a later name stay in a body. -/
example :
    inlinedBodies [("max", .call "max" [.call "twice" []]),
        ("twice", .binary .add (.call "max" []) (.call "twice" []))] =
      [("max", .call "max" [.call "twice" []]),
        ("twice", .binary .add (.call "max" [.call "twice" []]) (.call "twice" []))] := by
  decide

/-- Only defined names have an inlined body. -/
theorem mem_names_of_inlined {bodies : List (String × Expr)} {name : String} {body : Expr}
    (h : Assoc.get? name (inlinedBodies bodies) = some body) : name ∈ bodies.map Prod.fst := by
  induction bodies using List.reverseRecOn with
  | nil => cases h
  | append_singleton before b ih =>
    rw [inlinedBodies_concat, Assoc.get?_insert] at h
    by_cases hb : b.1 = name
    · simp [hb]
    · rw [if_neg hb] at h
      simp [ih h]

/-- Calling a function gives the same results whatever journal it finds. -/
def Registry.Steady (registry : Registry) : Prop :=
  ∀ ⦃name f⦄, registry.get? name = some f → ∀ ns, (f ns).SameResults (f ns)

/-- A registry does what another one does for inlined bodies: where a name has such a body, a call
without arguments gives the results of the body, and all other names have the same function. -/
structure Registry.Realizes (registry base : Registry) (inlined : List (String × Expr)) : Prop where
  defined : ∀ {name body}, Assoc.get? name inlined = some body →
    ∃ f, registry.get? name = some f ∧ (f.call name []).SameResults (body.evaluate base)
  other : ∀ {name}, Assoc.get? name inlined = none → registry.get? name = base.get? name

/-! ## Evaluation commutes with inlining -/

theorem Function.call_sameResults {f g : Function} (name : String) {arguments : List Number}
    (h : (f arguments).SameResults (g arguments)) :
    (f.call name arguments).SameResults (g.call name arguments) := by
  intro value j j'
  rw [Function.call_eq_ok, Function.call_eq_ok]
  exact exists_congr fun result => and_congr_left' (h result j j')

namespace Expr

variable {registry base : Registry} {inlined : List (String × Expr)} {names : List String}

theorem evaluateAll_inlineAll {es : List Expr}
    (h : ∀ e ∈ es, (e.evaluate registry).SameResults ((e.inline inlined).evaluate base)) :
    (evaluateAll registry es).SameResults (evaluateAll base (inlineAll inlined es)) := by
  induction es with
  | nil => exact .pure []
  | cons e es ih =>
    rw [inlineAll, evaluateAll_cons, evaluateAll_cons]
    refine (h e (by simp)).bind fun value => ?_
    exact (ih fun e he => h e (by simp [he])).bind fun values => .pure _

/-- Over a registry that realizes inlined bodies, an expression has the values of the inlined
one. -/
theorem evaluate_inline (hr : registry.Realizes base inlined) (steady : base.Steady)
    (visible : ∀ {name body}, Assoc.get? name inlined = some body → name ∈ names)
    {e : Expr} (bare : e.Bare names) :
    (e.evaluate registry).SameResults ((e.inline inlined).evaluate base) := by
  induction bare with
  | literal n => exact .pure _
  | signed sign _ ih => exact ih.bind fun value => .pure _
  | binary op _ _ ihl ihr => exact ihl.bind fun x => ihr.bind fun y => .ofExcept _
  | @call es name hbare _ ih =>
    cases hname : Assoc.get? name inlined with
    | some body =>
      -- a visible name: its call carries nothing and turns into the body
      obtain ⟨f, hf, hbody⟩ := hr.defined hname
      rw [hbare (visible hname), inline_call_some hname, evaluate_call registry hf]
      exact hbody
    | none =>
      -- any other name: the same function on both sides, or none
      rw [inline_call_none hname]
      have hsame := hr.other hname
      cases hf : base.get? name with
      | none =>
        rw [evaluate_unknown registry (hsame.trans hf), evaluate_unknown base hf]
        exact .throw _ _
      | some f =>
        rw [evaluate_call registry (hsame.trans hf), evaluate_call base hf]
        exact (evaluateAll_inlineAll ih).bind fun values =>
          Function.call_sameResults name (steady hf values)

end Expr

/-! ## The registries of commands -/

/-- A defined function without arguments gives what its body gives. -/
theorem Expr.function_nil_eq_ok {registry : Registry} {name : String} {body : Expr} {j : Journal}
    {result : Value} :
    ((body.function name registry []).on j).1 = .ok result ↔
      ∃ value, ((body.evaluate registry).on j).1 = .ok value ∧ .number value = result := by
  have hnil : body.function name registry [] =
      body.evaluate registry >>= fun value => pure (.number value) := rfl
  rw [hnil, Run.bind_eq_ok]
  simp only [Run.on_pure, Except.ok.injEq]

/-- Calling a defined function gives the results of its body, as long as those are integers. -/
theorem Expr.function_call_sameResults {registry : Registry} {body : Expr} {x : Run Number}
    {expected : Fault → Prop} (hx : x.Yields Number.IsInt expected)
    (hbody : (body.evaluate registry).SameResults x) (name : String) :
    ((body.function name registry).call name []).SameResults x := by
  intro value j j'
  rw [Function.call_eq_ok]
  constructor
  · rintro ⟨result, hresult, haccept⟩
    obtain ⟨value', hvalue', rfl⟩ := function_nil_eq_ok.mp hresult
    have hresult' := (hbody value' j j').mp hvalue'
    obtain ⟨n, rfl⟩ := hx.of_ok hresult'
    cases haccept
    exact hresult'
  · intro hvalue
    obtain ⟨n, rfl⟩ := hx.of_ok hvalue
    exact ⟨_, function_nil_eq_ok.mpr ⟨_, (hbody _ j j').mpr hvalue, rfl⟩, accept_int name n⟩

namespace Registry

theorem base_steady (useBuiltins : Bool) : (base useBuiltins).Steady := by
  cases useBuiltins with
  | false =>
    intro name f h
    cases h
  | true =>
    intro name f h ns
    obtain ⟨b, -, hb⟩ := List.mem_map.mp (Assoc.mem_of_get? h)
    cases hb
    exact .ofExcept _

theorem Realizes.refl (base : Registry) : base.Realizes base [] where
  defined h := by cases h
  other _ := rfl

/-- A definition adds its inlined body. -/
theorem Realizes.add {registry base : Registry} {inlined : List (String × Expr)}
    (hr : registry.Realizes base inlined) (hbase : base.Integral) (name : String) {body : Expr}
    (hbody : (body.evaluate registry).SameResults ((body.inline inlined).evaluate base)) :
    (registry.add name body).Realizes base (Assoc.insert name (body.inline inlined) inlined) where
  defined {other e} h := by
    rw [Assoc.get?_insert] at h
    rw [get?_add]
    by_cases hname : name = other
    · subst hname
      rw [if_pos rfl] at h ⊢
      cases h
      exact ⟨_, rfl, Expr.function_call_sameResults (Expr.evaluate_integral hbase _) hbody name⟩
    · rw [if_neg hname] at h ⊢
      exact hr.defined h
  other {other} h := by
    rw [Assoc.get?_insert] at h
    rw [get?_add]
    by_cases hname : name = other
    · rw [if_pos hname] at h
      cases h
    · rw [if_neg hname] at h ⊢
      exact hr.other h

theorem base_extend_realizes (useBuiltins : Bool) {bodies : List (String × Expr)}
    (bare : BareBodies bodies) :
    ((base useBuiltins).extend bodies).Realizes (base useBuiltins) (inlinedBodies bodies) := by
  induction bodies using List.reverseRecOn with
  | nil => exact .refl _
  | append_singleton before b ih =>
    obtain ⟨name, body⟩ := b
    obtain ⟨hinit, hlast⟩ := bare.concat
    have hr := ih hinit
    rw [inlinedBodies_concat, extend_concat]
    exact hr.add (base_integral useBuiltins) name
      (Expr.evaluate_inline hr (base_steady useBuiltins) mem_names_of_inlined hlast)

end Registry

/-- **Defined functions mean their inlined bodies.** If all bodies can be read, and calls of visible
names carry no arguments, then the registry of a command can be built, and an expression has the
same values over it as its inlined form has over the functions that are there without definitions. -/
theorem evaluate_inlinedBodies (useBuiltins : Bool) {definitions : List (String × String)}
    {bodies : List (String × Expr)} (readable : readAll definitions = .ok bodies)
    (bare : BareBodies bodies) {e : Expr} (he : e.Bare (bodies.map Prod.fst)) :
    ∃ registry journal, (Registry.build useBuiltins definitions).start = (.ok registry, journal) ∧
      (e.evaluate registry).SameResults
        ((e.inline (inlinedBodies bodies)).evaluate (Registry.base useBuiltins)) := by
  refine ⟨_, _, Registry.build_on readable useBuiltins {}, ?_⟩
  exact Expr.evaluate_inline (Registry.base_extend_realizes useBuiltins bare)
    (Registry.base_steady useBuiltins) mem_names_of_inlined he

/-- A definition that calls the builtin function of its own name, and one that uses it. -/
theorem evaluate_inlinedBodies_shadowed :
    readAll [("max", "max(3, 5)"), ("twice", "max() + max()")] =
        .ok [("max", .call "max" [.literal 3, .literal 5]),
          ("twice", .binary .add (.call "max" []) (.call "max" []))] ∧
      BareBodies [("max", .call "max" [.literal 3, .literal 5]),
        ("twice", .binary .add (.call "max" []) (.call "max" []))] ∧
      (Expr.binary .mul (.call "twice" []) (.literal 2)).Bare ["max", "twice"] ∧
      ∃ registry journal,
        (Registry.build true [("max", "max(3, 5)"), ("twice", "max() + max()")]).start =
            (.ok registry, journal) ∧
          ((Expr.binary .mul (.call "twice" []) (.literal 2)).evaluate registry).SameResults
            ((Expr.binary .mul
              (.binary .add (.call "max" [.literal 3, .literal 5])
                (.call "max" [.literal 3, .literal 5]))
              (.literal 2)).evaluate Registry.builtins) := by
  have readable : readAll [("max", "max(3, 5)"), ("twice", "max() + max()")] =
      .ok [("max", .call "max" [.literal 3, .literal 5]),
        ("twice", .binary .add (.call "max" []) (.call "max" []))] := by
    with_unfolding_all rfl
  have bare : BareBodies [("max", .call "max" [.literal 3, .literal 5]),
      ("twice", .binary .add (.call "max" []) (.call "max" []))] := by
    intro i hi
    obtain rfl | rfl : i = 0 ∨ i = 1 := by
      simp only [List.length_cons, List.length_nil] at hi
      omega
    · exact .call "max" (by simp) (by simp [Expr.Bare.literal])
    · exact .binary .add (.call "max" (by simp) (by simp)) (.call "max" (by simp) (by simp))
  have he : (Expr.binary .mul (.call "twice" []) (.literal 2)).Bare ["max", "twice"] :=
    .binary .mul (.call "twice" (by simp) (by simp)) (.literal 2)
  exact ⟨readable, bare, he, evaluate_inlinedBodies true readable bare he⟩

end Reckoner
