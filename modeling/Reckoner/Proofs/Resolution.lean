import Mathlib.Data.List.Nodup
import Reckoner.Proofs.Calls
import Reckoner.Proofs.Definitions

/-!
# Only the resolved definitions matter

A name is looked up among the definitions that can be seen: all of them from a text, and those in
front of it from the body of a definition. Where none has the name, a builtin function may. What
evaluation does depends on nothing but the definitions that are reached in this way. Other
definitions may come and go, and the order of those that do not call each other does not show.
-/
namespace Reckoner

section Names

variable {α : Type} {name other : String} {d : String × α} {definitions front back : List (String × α)}

/-- The definitions that the body of a definition can see: those in front of it. -/
def inFrontOf (name : String) (definitions : List (String × α)) : List (String × α) :=
  definitions.takeWhile (·.1 ≠ name)

@[simp] theorem inFrontOf_nil : inFrontOf name ([] : List (String × α)) = [] := rfl

theorem inFrontOf_cons : inFrontOf name (d :: definitions) =
    if d.1 = name then [] else d :: inFrontOf name definitions := by
  by_cases h : d.1 = name <;> simp [inFrontOf, h]

theorem Assoc.get?_eq_none : Assoc.get? name definitions = none ↔
    name ∉ definitions.map Prod.fst := by
  induction definitions with
  | nil => simp [Assoc.get?]
  | cons d definitions ih =>
    by_cases h : d.1 = name
    · simp [Assoc.get?, h]
    · simp [Assoc.get?, h, ih, Ne.symm h]

theorem Assoc.get?_append : Assoc.get? name (front ++ back) =
    (Assoc.get? name front).or (Assoc.get? name back) := by
  induction front with
  | nil => simp [Assoc.get?]
  | cons d front ih =>
    by_cases h : d.1 = name <;> simp [Assoc.get?, h, ih]

/-- What can be seen from a body is seen from everywhere, and it sees the same from there. -/
theorem inFrontOf_visible {value : α}
    (h : Assoc.get? other (inFrontOf name definitions) = some value) :
    Assoc.get? other definitions = some value ∧
      inFrontOf other (inFrontOf name definitions) = inFrontOf other definitions ∧
      (inFrontOf other definitions).length < (inFrontOf name definitions).length := by
  induction definitions with
  | nil => cases h
  | cons d definitions ih =>
    rw [inFrontOf_cons] at h ⊢
    by_cases hname : d.1 = name
    · rw [if_pos hname] at h
      cases h
    · rw [if_neg hname] at h ⊢
      rw [Assoc.get?] at h ⊢
      rw [inFrontOf_cons, inFrontOf_cons]
      by_cases hother : d.1 = other
      · rw [if_pos hother] at h
        simp [hother, h]
      · rw [if_neg hother] at h
        obtain ⟨hall, hsame, hshorter⟩ := ih h
        simp only [if_neg hother]
        exact ⟨hall, congrArg _ hsame, Nat.succ_lt_succ hshorter⟩

theorem inFrontOf_append_left (h : name ∈ front.map Prod.fst) :
    inFrontOf name (front ++ back) = inFrontOf name front := by
  induction front with
  | nil => cases h
  | cons d front ih =>
    rw [List.cons_append, inFrontOf_cons, inFrontOf_cons]
    by_cases hd : d.1 = name
    · rw [if_pos hd, if_pos hd]
    · have hrest : name ∈ front.map Prod.fst := by simpa [Ne.symm hd] using h
      rw [if_neg hd, if_neg hd, ih hrest]

theorem inFrontOf_append_right (h : name ∉ front.map Prod.fst) :
    inFrontOf name (front ++ back) = front ++ inFrontOf name back := by
  refine List.takeWhile_append_of_pos fun d hd => ?_
  have hne : d.1 ≠ name := fun heq => h (List.mem_map.mpr ⟨d, hd, heq⟩)
  simpa using hne

theorem nodup_inFrontOf (distinct : (definitions.map Prod.fst).Nodup) (name : String) :
    ((inFrontOf name definitions).map Prod.fst).Nodup :=
  distinct.sublist ((List.takeWhile_sublist _).map Prod.fst)

end Names

/-! ## Resolution -/

/-- What a call can mean. -/
inductive Meaning where
  /-- A definition with a body. -/
  | definition (body : Expr)
  /-- A builtin function. -/
  | builtin (b : Builtin)
  /-- No function has the name. -/
  | nothing

/-- What a call means where some definitions can be seen. -/
def resolve (useBuiltins : Bool) (visible : List (String × Expr)) (name : String) : Meaning :=
  match Assoc.get? name visible with
  | some body => .definition body
  | none =>
    match Builtin.ofName? name with
    | some b => if useBuiltins then .builtin b else .nothing
    | none => .nothing

/-- The definitions that are reached from an expression: those that it calls, and those that are
called in the bodies of reached ones. -/
inductive Reaches (bodies : List (String × Expr)) (e : Expr) : String → Expr → Prop
  | call {name : String} {body : Expr} (hcall : name ∈ e.called)
      (hbody : Assoc.get? name bodies = some body) : Reaches bodies e name body
  | body {caller name : String} {outer body : Expr} (h : Reaches bodies e caller outer)
      (hcall : name ∈ outer.called)
      (hbody : Assoc.get? name (inFrontOf caller bodies) = some body) : Reaches bodies e name body

theorem Reaches.get? {bodies : List (String × Expr)} {e body : Expr} {name : String}
    (h : Reaches bodies e name body) : Assoc.get? name bodies = some body := by
  cases h with
  | call hcall hbody => exact hbody
  | body h hcall hbody => exact (inFrontOf_visible hbody).1

/-- Two lists of definitions are alike for an expression: what is reached in the first one stands in
the second one, and calls mean the same in both, in the expression and in the bodies that are
reached. -/
structure Alike (useBuiltins : Bool) (a b : List (String × Expr)) (e : Expr) : Prop where
  kept : ∀ {name body}, Reaches a e name body → Assoc.get? name b = some body
  calls : ∀ {name}, name ∈ e.called → resolve useBuiltins a name = resolve useBuiltins b name
  bodies : ∀ {caller outer name}, Reaches a e caller outer → name ∈ outer.called →
    resolve useBuiltins (inFrontOf caller a) name = resolve useBuiltins (inFrontOf caller b) name

/-! ## Registries hold what calls mean -/

namespace Registry

theorem get?_builtins (name : String) :
    builtins.get? name = (Builtin.ofName? name).map Builtin.function := by
  have hall : ∀ bs : List Builtin, Assoc.get? name (bs.map fun b => (b.name, b.function)) =
      (bs.find? (·.name = name)).map Builtin.function := by
    intro bs
    induction bs with
    | nil => rfl
    | cons b bs ih =>
      by_cases h : b.name = name
      · simp [Assoc.get?, h]
      · simp [Assoc.get?, h, ih]
  exact hall Builtin.all

/-- The function of a defined name evaluates the body over what was there in front of it. -/
theorem get?_extend {registry : Registry} {bodies : List (String × Expr)}
    (distinct : (bodies.map Prod.fst).Nodup) (name : String) :
    (registry.extend bodies).get? name =
      match Assoc.get? name bodies with
      | some body => some (body.function name (registry.extend (inFrontOf name bodies)))
      | none => registry.get? name := by
  induction bodies generalizing registry with
  | nil => rfl
  | cons d bodies ih =>
    obtain ⟨other, body⟩ := d
    obtain ⟨fresh, distinct⟩ := List.nodup_cons.mp distinct
    rw [extend_cons, ih distinct, Assoc.get?, inFrontOf_cons, get?_add]
    by_cases h : other = name
    · subst h
      simp [Assoc.get?_eq_none.mpr fresh]
    · simp only [if_neg h, extend_cons]

/-- The registry of several definitions has, for each name, the function of what a call means. -/
theorem get?_resolve (useBuiltins : Bool) {bodies : List (String × Expr)}
    (distinct : (bodies.map Prod.fst).Nodup) (name : String) :
    ((base useBuiltins).extend bodies).get? name =
      match resolve useBuiltins bodies name with
      | .definition body =>
        some (body.function name ((base useBuiltins).extend (inFrontOf name bodies)))
      | .builtin b => some b.function
      | .nothing => none := by
  rw [get?_extend distinct, resolve]
  cases Assoc.get? name bodies with
  | some body => rfl
  | none =>
    cases useBuiltins with
    | true =>
      show builtins.get? name = _
      rw [get?_builtins]
      cases Builtin.ofName? name <;> rfl
    | false => cases Builtin.ofName? name <;> rfl

end Registry

theorem resolve_definition {useBuiltins : Bool} {visible : List (String × Expr)} {name : String}
    {body : Expr} :
    resolve useBuiltins visible name = .definition body ↔
      Assoc.get? name visible = some body := by
  unfold resolve
  cases Assoc.get? name visible with
  | some other => simp
  | none => cases Builtin.ofName? name <;> cases useBuiltins <;> simp

/-! ## Evaluation over like definitions -/

/-- A defined function depends on its registry only through its body. -/
theorem Expr.function_congr {r s : Registry} {name : String} {body : Expr}
    (h : body.evaluate r = body.evaluate s) : body.function name r = body.function name s := by
  funext arguments
  unfold Expr.function
  rw [h]

namespace Alike

variable {useBuiltins : Bool} {a b : List (String × Expr)} {e : Expr}

/-- The body of a reached definition means the same in front of it on both sides, by induction on how
many definitions stand there. -/
theorem evaluate_body (h : Alike useBuiltins a b e) (hna : (a.map Prod.fst).Nodup)
    (hnb : (b.map Prod.fst).Nodup) {name : String} {body : Expr} (hr : Reaches a e name body) :
    body.evaluate ((Registry.base useBuiltins).extend (inFrontOf name a)) =
      body.evaluate ((Registry.base useBuiltins).extend (inFrontOf name b)) := by
  induction hn : (inFrontOf name a).length using Nat.strongRecOn generalizing name body with
  | ind n ih =>
    refine Expr.evaluate_congr fun other hcall => ?_
    rw [Registry.get?_resolve useBuiltins (nodup_inFrontOf hna name),
      Registry.get?_resolve useBuiltins (nodup_inFrontOf hnb name), ← h.bodies hr hcall]
    cases hmeaning : resolve useBuiltins (inFrontOf name a) other with
    | definition inner =>
      -- on both sides the definition stands in front of this one, and sees what stands before it
      have hinner := resolve_definition.mp hmeaning
      obtain ⟨-, hsame, hshorter⟩ := inFrontOf_visible hinner
      have hinner' := resolve_definition.mp ((h.bodies hr hcall).symm.trans hmeaning)
      obtain ⟨-, hsame', -⟩ := inFrontOf_visible hinner'
      have hbody := ih _ (hn ▸ hshorter) (.body hr hcall hinner) rfl
      simp only [hsame, hsame', Expr.function_congr hbody]
    | builtin => rfl
    | nothing => rfl

/-- An expression means the same over like definitions. -/
theorem evaluate_eq (h : Alike useBuiltins a b e) (hna : (a.map Prod.fst).Nodup)
    (hnb : (b.map Prod.fst).Nodup) :
    e.evaluate ((Registry.base useBuiltins).extend a) =
      e.evaluate ((Registry.base useBuiltins).extend b) := by
  refine Expr.evaluate_congr fun name hcall => ?_
  rw [Registry.get?_resolve useBuiltins hna, Registry.get?_resolve useBuiltins hnb,
    ← h.calls hcall]
  cases hmeaning : resolve useBuiltins a name with
  | definition body =>
    have hbody := h.evaluate_body hna hnb (.call hcall (resolve_definition.mp hmeaning))
    simp only [Expr.function_congr hbody]
  | builtin => rfl
  | nothing => rfl

/-! ### Definitions that make no difference -/

/-- A definition that is not reached may as well be missing. -/
theorem unused {front back : List (String × Expr)} {d : String × Expr}
    (unreached : ∀ body, ¬ Reaches (front ++ d :: back) e d.1 body) :
    Alike useBuiltins (front ++ d :: back) (front ++ back) e := by
  have others : ∀ {name} (rest : List (String × Expr)), name ≠ d.1 →
      Assoc.get? name (front ++ d :: rest) = Assoc.get? name (front ++ rest) := by
    intro name rest hname
    rw [Assoc.get?_append, Assoc.get?_append, Assoc.get?, if_neg (Ne.symm hname)]
  have own : ∀ rest, ∃ body, Assoc.get? d.1 (front ++ d :: rest) = some body := by
    intro rest
    cases h : Assoc.get? d.1 (front ++ d :: rest) with
    | some body => exact ⟨body, rfl⟩
    | none => simp [Assoc.get?_eq_none] at h
  have reached : ∀ {name body}, Reaches (front ++ d :: back) e name body → name ≠ d.1 := by
    rintro name body h rfl
    exact unreached body h
  refine ⟨fun {name body} h => ?_, fun {name} hcall => ?_, fun {caller outer name} h hcall => ?_⟩
  · rw [← others back (reached h)]
    exact h.get?
  · have hname : name ≠ d.1 := by
      rintro rfl
      obtain ⟨body, hbody⟩ := own back
      exact unreached body (.call hcall hbody)
    rw [resolve, resolve, others back hname]
  · by_cases hfront : caller ∈ front.map Prod.fst
    · rw [inFrontOf_append_left hfront, inFrontOf_append_left hfront]
    · have hseen : inFrontOf caller (front ++ d :: back) = front ++ d :: inFrontOf caller back := by
        rw [inFrontOf_append_right hfront, inFrontOf_cons, if_neg (Ne.symm (reached h))]
      have hname : name ≠ d.1 := by
        rintro rfl
        obtain ⟨body, hbody⟩ := own (inFrontOf caller back)
        exact unreached body (.body h hcall (hseen ▸ hbody))
      rw [hseen, inFrontOf_append_right hfront, resolve, resolve, others _ hname]

/-- No body sees the last definition, so it is reached only if the expression itself calls it. -/
theorem not_reaches_last {d : String × Expr} (hna : ((a ++ [d]).map Prod.fst).Nodup)
    (uncalled : d.1 ∉ e.called) (body : Expr) : ¬ Reaches (a ++ [d]) e d.1 body := by
  have fresh : Assoc.get? d.1 a = none := by
    rw [Assoc.get?_eq_none]
    simp only [List.map_append, List.nodup_append] at hna
    exact fun hmem => hna.2.2 _ hmem d.1 (by simp) rfl
  intro h
  cases h with
  | call hcall => exact uncalled hcall
  | @body caller _ _ _ h hcall hbody =>
    have hseen : Assoc.get? d.1 a = some body := by
      by_cases hcaller : caller ∈ a.map Prod.fst
      · rw [inFrontOf_append_left hcaller] at hbody
        exact (inFrontOf_visible hbody).1
      · rw [inFrontOf_append_right hcaller, inFrontOf_cons] at hbody
        have hlast := h.get?
        rw [Assoc.get?_append, Assoc.get?_eq_none.mpr hcaller, Option.none_or, Assoc.get?] at hlast
        by_cases hd : d.1 = caller
        · rwa [if_pos hd, List.append_nil] at hbody
        · rw [if_neg hd] at hlast
          cases hlast
    rw [fresh] at hseen
    cases hseen

/-- Two neighbours that do not call each other may change places. -/
theorem swapped {front back : List (String × Expr)} {x y : String × Expr}
    (hna : ((front ++ x :: y :: back).map Prod.fst).Nodup) (hx : y.1 ∉ x.2.called)
    (hy : x.1 ∉ y.2.called) :
    Alike useBuiltins (front ++ x :: y :: back) (front ++ y :: x :: back) e := by
  have distinct : x.1 ≠ y.1 := by
    simp only [List.map_append, List.map_cons, List.nodup_append, List.nodup_cons] at hna
    exact fun h => hna.2.1.1 (h ▸ List.mem_cons_self)
  have both : ∀ name rest, Assoc.get? name (front ++ x :: y :: rest) =
      Assoc.get? name (front ++ y :: x :: rest) := by
    intro name rest
    simp only [Assoc.get?_append, Assoc.get?]
    by_cases hname : x.1 = name
    · rw [if_pos hname, if_neg fun h => distinct (hname.trans h.symm), if_pos hname]
    · rw [if_neg hname, if_neg hname]
  have one : ∀ {name} {d : String × Expr}, name ≠ d.1 →
      Assoc.get? name (front ++ [d]) = Assoc.get? name front := by
    intro name d hname
    rw [Assoc.get?_append, Assoc.get?, if_neg (Ne.symm hname), Assoc.get?, Option.or_none]
  refine ⟨fun {name body} h => both name back ▸ h.get?, fun {name} hcall => ?_,
    fun {caller outer name} h hcall => ?_⟩
  · rw [resolve, resolve, both]
  · by_cases hfront : caller ∈ front.map Prod.fst
    · rw [inFrontOf_append_left hfront, inFrontOf_append_left hfront]
    · have hget := h.get?
      rw [Assoc.get?_append, Assoc.get?_eq_none.mpr hfront, Option.none_or] at hget
      simp only [inFrontOf_append_right hfront, inFrontOf_cons, Assoc.get?] at hget ⊢
      by_cases hcx : x.1 = caller
      · -- the body of `x` sees `y` on one side only, and does not call it
        rw [if_pos hcx] at hget
        cases hget
        have hname : name ≠ y.1 := fun h => hx (h ▸ hcall)
        rw [if_pos hcx, if_pos hcx, if_neg (hcx ▸ Ne.symm distinct), List.append_nil, resolve,
          resolve, one hname]
      · rw [if_neg hcx, if_neg hcx]
        rw [if_neg hcx] at hget
        by_cases hcy : y.1 = caller
        · rw [if_pos hcy] at hget
          cases hget
          have hname : name ≠ x.1 := fun h => hy (h ▸ hcall)
          rw [if_pos hcy, if_pos hcy, List.append_nil, resolve, resolve, one hname]
        · rw [if_neg hcy, if_neg hcy, resolve, resolve, both]

end Alike

/-! ## The registries of commands -/

section Uniform

/-- All functions ignore the journal. -/
def Registry.Uniform (registry : Registry) : Prop :=
  ∀ ⦃name f⦄, registry.get? name = some f → ∀ arguments, (f arguments).Uniform

theorem Run.uniform_stable : Run.Stable @Run.Uniform :=
  ⟨.ofExcept, .logLine, .bind, .tryCatch⟩

namespace Expr

variable {registry : Registry}

/-- Evaluation ignores the journal if the functions do. -/
theorem evaluate_uniform (hr : registry.Uniform) (e : Expr) : (e.evaluate registry).Uniform :=
  evaluate_stable Run.uniform_stable hr e

theorem function_uniform (hr : registry.Uniform) (name : String) (body : Expr)
    (arguments : List Number) : (body.function name registry arguments).Uniform := by
  unfold function
  split
  · exact (evaluate_uniform hr body).bind fun value => .pure _
  · exact .throw _

end Expr

namespace Registry

theorem base_uniform (useBuiltins : Bool) : (base useBuiltins).Uniform := by
  intro name f h arguments
  cases useBuiltins with
  | false => cases h
  | true =>
    obtain ⟨b, -, hb⟩ := List.mem_map.mp (Assoc.mem_of_get? h)
    cases hb
    exact .ofExcept _

theorem Uniform.extend {registry : Registry} (hr : registry.Uniform)
    (bodies : List (String × Expr)) : (registry.extend bodies).Uniform := by
  induction bodies generalizing registry with
  | nil => exact hr
  | cons b bodies ih =>
    refine ih fun name f h => ?_
    rw [get?_add] at h
    split at h
    · cases h
      exact Expr.function_uniform hr b.1 b.2
    · exact hr h

end Registry
end Uniform

/-- Both lists of definitions give a registry, and over the two registries a text has the same value
or fails with the same fault, and it leaves the same log lines, wherever the logs stood before. -/
def SameEvaluation (useBuiltins : Bool) (as bs : List (String × String)) (text : String) : Prop :=
  ∃ ra ja rb jb outcome lines, (Registry.build useBuiltins as).start = (.ok ra, ja) ∧
    (Registry.build useBuiltins bs).start = (.ok rb, jb) ∧
    ∀ j, (evaluateText ra text).on j = (outcome, { j with log := j.log ++ lines }) ∧
      (evaluateText rb text).on j = (outcome, { j with log := j.log ++ lines })

/-- A text has the same evaluation over definitions that are alike for its expression. -/
theorem Alike.sameEvaluation {useBuiltins : Bool} {as bs : List (String × String)}
    {a b : List (String × Expr)} (readA : readAll as = .ok a) (readB : readAll bs = .ok b)
    (hna : (a.map Prod.fst).Nodup) (hnb : (b.map Prod.fst).Nodup) {text : String}
    (h : ∀ e, parse text = .ok e → Alike useBuiltins a b e) :
    SameEvaluation useBuiltins as bs text := by
  have same : evaluateText ((Registry.base useBuiltins).extend b) text =
      evaluateText ((Registry.base useBuiltins).extend a) text := by
    unfold evaluateText
    cases he : parse text with
    | error fault => rfl
    | ok e => exact ((h e he).evaluate_eq hna hnb).symm
  have uniform : (evaluateText ((Registry.base useBuiltins).extend a) text).Uniform := by
    unfold evaluateText
    cases parse text with
    | error fault => exact .throw _
    | ok e => exact e.evaluate_uniform ((Registry.base_uniform useBuiltins).extend a)
  obtain ⟨outcome, lines, hrun⟩ := uniform
  exact ⟨_, _, _, _, outcome, lines, Registry.build_on readA useBuiltins {},
    Registry.build_on readB useBuiltins {}, fun j => ⟨hrun j, by rw [same, hrun j]⟩⟩

theorem SameEvaluation.symm {useBuiltins : Bool} {as bs : List (String × String)} {text : String}
    (h : SameEvaluation useBuiltins as bs text) : SameEvaluation useBuiltins bs as text := by
  obtain ⟨ra, ja, rb, jb, outcome, lines, ha, hb, hrun⟩ := h
  exact ⟨rb, jb, ra, ja, outcome, lines, hb, ha, fun j => ⟨(hrun j).2, (hrun j).1⟩⟩

/-- **Only the resolved definitions matter.** Let the bodies of two lists of definitions be read as
`a` and `b`, with no name twice in either. If the two are alike for the expression of a text, then
the text has the same evaluation over both. So has every text if `b` lacks one definition of `a` that
is not reached from the text; if `b` has one more at its end that the text does not call; and if two
neighbours that do not call each other have changed places. -/
theorem evaluateText_resolved (useBuiltins : Bool) {as bs : List (String × String)}
    {a b : List (String × Expr)} (readA : readAll as = .ok a) (readB : readAll bs = .ok b)
    (hna : (a.map Prod.fst).Nodup) (hnb : (b.map Prod.fst).Nodup) (text : String) :
    ((∀ e, parse text = .ok e → Alike useBuiltins a b e) →
      SameEvaluation useBuiltins as bs text) ∧
    (∀ front d back, a = front ++ d :: back → b = front ++ back →
      (∀ e, parse text = .ok e → ∀ body, ¬ Reaches a e d.1 body) →
      SameEvaluation useBuiltins as bs text) ∧
    (∀ d, b = a ++ [d] → (∀ e, parse text = .ok e → d.1 ∉ e.called) →
      SameEvaluation useBuiltins as bs text) ∧
    ∀ front x y back, a = front ++ x :: y :: back → b = front ++ y :: x :: back →
      y.1 ∉ x.2.called → x.1 ∉ y.2.called → SameEvaluation useBuiltins as bs text := by
  refine ⟨Alike.sameEvaluation readA readB hna hnb, ?_, ?_, ?_⟩
  · rintro front d back rfl rfl unreached
    exact Alike.sameEvaluation readA readB hna hnb fun e he => Alike.unused (unreached e he)
  · rintro d rfl uncalled
    refine (Alike.sameEvaluation readB readA hnb hna fun e he => ?_).symm
    have hlast := @Alike.unused useBuiltins e a [] d (Alike.not_reaches_last hnb (uncalled e he))
    rwa [List.append_nil] at hlast
  · rintro front x y back rfl rfl hx hy
    exact Alike.sameEvaluation readA readB hna hnb fun e he => Alike.swapped hna hx hy

/-- A definition that calls the builtin function of its own name, alone and behind another one. -/
theorem evaluateText_resolved_shadowed :
    readAll [("abs", "abs(2)")] = .ok [("abs", .call "abs" [.literal 2])] ∧
      readAll [("sum", "1"), ("abs", "abs(2)")] =
        .ok [("sum", .literal 1), ("abs", .call "abs" [.literal 2])] ∧
      ["abs"].Nodup ∧ ["sum", "abs"].Nodup ∧
      (∀ e, parse "abs()" = .ok e → Alike true [("abs", .call "abs" [.literal 2])]
        [("sum", .literal 1), ("abs", .call "abs" [.literal 2])] e) ∧
      SameEvaluation true [("abs", "abs(2)")] [("sum", "1"), ("abs", "abs(2)")] "abs()" := by
  have readA : readAll [("abs", "abs(2)")] = .ok [("abs", .call "abs" [.literal 2])] := by
    with_unfolding_all rfl
  have readB : readAll [("sum", "1"), ("abs", "abs(2)")] =
      .ok [("sum", .literal 1), ("abs", .call "abs" [.literal 2])] := by
    with_unfolding_all rfl
  have read : parse "abs()" = .ok (.call "abs" []) := by with_unfolding_all rfl
  have reached : ∀ {name body}, Reaches [("abs", .call "abs" [.literal 2])] (.call "abs" [])
      name body → name = "abs" ∧ body = .call "abs" [.literal 2] := by
    intro name body h
    have hbody := h.get?
    rw [Assoc.get?] at hbody
    split at hbody <;> cases hbody
    exact ⟨Eq.symm ‹_›, rfl⟩
  have alike : ∀ e, parse "abs()" = .ok e → Alike true [("abs", .call "abs" [.literal 2])]
      [("sum", .literal 1), ("abs", .call "abs" [.literal 2])] e := by
    intro e he
    obtain rfl : .call "abs" [] = e := Except.ok.inj (read.symm.trans he)
    refine ⟨fun {name body} h => ?_, fun {name} hcall => ?_, fun {caller outer name} h hcall => ?_⟩
    · obtain ⟨rfl, rfl⟩ := reached h
      rfl
    · obtain rfl : name = "abs" := List.mem_singleton.mp hcall
      rfl
    · obtain ⟨rfl, rfl⟩ := reached h
      obtain rfl : name = "abs" := List.mem_singleton.mp hcall
      rfl
  have hna : ["abs"].Nodup := by decide
  have hnb : ["sum", "abs"].Nodup := by decide
  exact ⟨readA, readB, hna, hnb, alike,
    (evaluateText_resolved true readA readB hna hnb "abs()").1 alike⟩

end Reckoner
