import Reckoner.Proofs.Calls

/-!
# The order of calls

Every call in an expression is made once, behind the calls in its arguments and in the order in
which they are written; no operator and no function leaves one out. The only exception is a failure,
behind which no further call is made. All this can be observed with functions that record their
calls. Apart from that they may do as they like: what they give may depend on everything that has
been recorded before.
-/
namespace Reckoner

/-- The function records each of its calls under a name, and no other calls. -/
def Function.Records (name : String) (f : Function) : Prop :=
  ∀ arguments j, ((f arguments).on j).2.calls = j.calls ++ [(name, arguments)]

theorem Function.recorded_records (name : String) (body : List Number → Except Fault Value) :
    (recorded name body).Records name := by
  intro arguments j
  show ((Run.recordCall name arguments >>= fun _ => Run.ofExcept (body arguments)).on j).2.calls = _
  rw [Run.on_bind, Run.on_recordCall]
  simp only [Run.on_ofExcept]

/-- All functions record their calls under their names. -/
def Registry.Records (registry : Registry) : Prop :=
  ∀ ⦃name f⦄, registry.get? name = some f → f.Records name

/-- What is recorded for several calls, where `past` has been recorded before. There is one record
for each call, in the same order, with the values of the arguments: what evaluating these gives
behind everything that is recorded earlier than the calls `inner` in the arguments themselves. -/
inductive Recorded (registry : Registry) (past : List (String × List Number)) :
    List (String × List Expr) → List (String × List Number) → Prop
  | nil : Recorded registry past [] []
  | concat {calls : List (String × List Expr)} {earlier inner : List (String × List Number)}
      {name : String} {es : List Expr} {values : List Number} {j : Journal}
      (h : Recorded registry past calls (earlier ++ inner))
      (own : inner.length = (Expr.callsAll es).length)
      (found : j.calls = past ++ earlier)
      (given : ((Expr.evaluateAll registry es).on j).1 = .ok values) :
      Recorded registry past (calls ++ [(name, es)]) (earlier ++ inner ++ [(name, values)])

namespace Recorded

variable {registry : Registry} {past records records' : List (String × List Number)}
  {calls calls' : List (String × List Expr)}

theorem length_eq (h : Recorded registry past calls records) : records.length = calls.length := by
  induction h with
  | nil => rfl
  | concat _ _ _ _ ih =>
    simp only [List.length_append, List.length_singleton] at ih ⊢
    omega

theorem append (h : Recorded registry past calls records)
    (h' : Recorded registry (past ++ records) calls' records') :
    Recorded registry past (calls ++ calls') (records ++ records') := by
  induction h' with
  | nil => simpa using h
  | @concat made earlier inner name es values j _ own found given ih =>
    rw [← List.append_assoc] at ih
    rw [List.append_assoc] at found
    have hall := @concat _ _ _ _ _ name _ _ _ ih own found given
    simpa using hall

/-- The last record bears the name of the last call. -/
theorem last {name : String} {es : List Expr}
    (h : Recorded registry past (calls ++ [(name, es)]) records) :
    ∃ values, records.getLast? = some (name, values) := by
  generalize hall : calls ++ [(name, es)] = all at h
  cases h with
  | nil => simp at hall
  | concat =>
    obtain ⟨-, hlast⟩ := List.append_inj' hall rfl
    cases hlast
    exact ⟨_, List.getLast?_concat⟩

end Recorded

/-- How a failure stops the calls `calls` after `made`. An unknown function stops them in front of
the calls in its own arguments, and a failed one right behind its own call. -/
structure Stops (fault : Fault) (made calls : List (String × List Expr)) : Prop where
  /-- The calls that were made come first. -/
  front : made <+: calls
  /-- The call of an unknown function comes next, with the calls in its arguments. -/
  unknown : ∀ name, fault = .unknownFunction name →
    ∃ es behind, calls = made ++ (Expr.callsAll es ++ (name, es) :: behind)
  /-- The call of a failed function was the last one. -/
  failed : ∀ name cause, fault = .failedCall name cause → ∃ before es, made = before ++ [(name, es)]

namespace Stops

variable {fault : Fault} {made calls others : List (String × List Expr)}

theorem before (h : Stops fault made calls) (others : List (String × List Expr)) :
    Stops fault made (calls ++ others) where
  front := h.front.trans (List.prefix_append calls others)
  unknown name hname := by
    obtain ⟨es, behind, hcalls⟩ := h.unknown name hname
    exact ⟨es, behind ++ others, by simp [hcalls]⟩
  failed := h.failed

theorem behind (h : Stops fault made calls) (others : List (String × List Expr)) :
    Stops fault (others ++ made) (others ++ calls) where
  front := (List.prefix_append_right_inj others).mpr h.front
  unknown name hname := by
    obtain ⟨es, behind, hcalls⟩ := h.unknown name hname
    exact ⟨es, behind, by simp [hcalls]⟩
  failed name cause hname := by
    obtain ⟨front, es, hmade⟩ := h.failed name cause hname
    exact ⟨others ++ front, es, by simp [hmade]⟩

end Stops

/-- The calls of a run: all of them are made and recorded if there is a result, and they are stopped
otherwise. -/
def Run.Makes {α : Type} (registry : Registry) (x : Run α) (calls : List (String × List Expr)) :
    Prop :=
  ∀ j, match x.on j with
    | (.ok _, j') => ∃ records, j'.calls = j.calls ++ records ∧
        Recorded registry j.calls calls records
    | (.error fault, j') => ∃ made records, j'.calls = j.calls ++ records ∧
        Recorded registry j.calls made records ∧ Stops fault made calls

namespace Run

variable {α β : Type} {registry : Registry} {x : Run α} {f : α → Run β}
  {calls calls' : List (String × List Expr)}

theorem Makes.pure (a : α) : (pure a : Run α).Makes registry [] :=
  fun _ => ⟨[], by simp, .nil⟩

theorem Makes.bind (h : x.Makes registry calls) (hf : ∀ a, (f a).Makes registry calls') :
    (x >>= f).Makes registry (calls ++ calls') := by
  intro j
  have hx := h j
  rw [on_bind]
  rcases hrun : x.on j with ⟨fault | a, j₁⟩ <;> simp only [hrun] at hx ⊢
  · obtain ⟨made, records, hj₁, hmade, hstops⟩ := hx
    exact ⟨made, records, hj₁, hmade, hstops.before calls'⟩
  · obtain ⟨records, hj₁, hcalls⟩ := hx
    have ha := hf a j₁
    rcases hrun' : (f a).on j₁ with ⟨fault | b, j₂⟩ <;> simp only [hrun', hj₁] at ha ⊢
    · obtain ⟨made, records', hj₂, hmade, hstops⟩ := ha
      exact ⟨calls ++ made, records ++ records', by simp [hj₂], hcalls.append hmade,
        hstops.behind calls⟩
    · obtain ⟨records', hj₂, hcalls'⟩ := ha
      exact ⟨records ++ records', by simp [hj₂], hcalls.append hcalls'⟩

end Run

/-! ## Operators and functions -/

/-- Before its result is looked at, an operator fails by a zero divisor or by a number that is out of
range. -/
theorem Operator.raw_fault {op : Operator} {m n : Number} {fault : Fault}
    (h : op.raw m n = .error fault) : fault = .divisionByZero ∨ ∃ range, fault = .range range := by
  cases op with
  | add | sub | mul =>
    simp only [raw] at h
    split at h
    · cases h
    · cases h
      exact .inr ⟨_, rfl⟩
  | div =>
    simp only [raw, divide] at h
    split at h
    · cases h
      exact .inl rfl
    · split at h
      · cases h
      · cases h
        exact .inr ⟨_, rfl⟩

/-- The failure of an operator is not that of a call. -/
theorem Operator.apply_stops {op : Operator} {m n : Number} {fault : Fault}
    (h : op.apply m n = .error fault) : Stops fault [] [] := by
  have own : (∀ name, fault ≠ .unknownFunction name) ∧
      ∀ name cause, fault ≠ .failedCall name cause := by
    unfold apply at h
    cases hraw : op.raw m n with
    | ok value =>
      rw [hraw] at h
      cases value with
      | int => cases h
      | float x =>
        dsimp only at h
        split at h <;> cases h
        exact ⟨nofun, nofun⟩
    | error fault' =>
      rw [hraw] at h
      rcases raw_fault hraw with rfl | ⟨range, rfl⟩
      · cases h
        exact ⟨nofun, nofun⟩
      · cases range <;> cases h <;> exact ⟨nofun, nofun⟩
  exact ⟨List.prefix_rfl, fun name hname => absurd hname (own.1 name),
    fun name cause hname => absurd hname (own.2 name cause)⟩

theorem Operator.apply_makes (registry : Registry) (op : Operator) (m n : Number) :
    (Run.ofExcept (op.apply m n)).Makes registry [] := by
  intro j
  rw [Run.on_ofExcept]
  cases h : op.apply m n with
  | ok value => exact ⟨[], by simp, .nil⟩
  | error fault => exact ⟨[], [], by simp, .nil, Operator.apply_stops h⟩

/-- A refused result is the failure of the call, or one of no kind that is spoken of here. -/
theorem accept_error {name : String} {result : Value} {fault : Fault}
    (h : accept name result = .error fault) :
    (∃ cause, fault = .failedCall name cause) ∨ fault = .oversized := by
  unfold accept at h
  split at h
  · cases h
  · split at h <;> cases h
    exact .inl ⟨_, rfl⟩
  · split at h <;> cases h
    · exact .inl ⟨_, rfl⟩
    · exact .inr rfl

/-- A call of a recording function leaves its record, whether it fails or not; and a failure bears
its name. -/
theorem Function.Records.call {name : String} {f : Function} (h : f.Records name)
    (arguments : List Number) (j : Journal) :
    ((f.call name arguments).on j).2.calls = j.calls ++ [(name, arguments)] ∧
      ∀ fault, ((f.call name arguments).on j).1 = .error fault →
        (∃ cause, fault = .failedCall name cause) ∨ fault = .oversized := by
  have hrecord := h arguments j
  rw [Function.call_on]
  rcases hrun : (f arguments).on j with ⟨cause | result, j₁⟩ <;> rw [hrun] at hrecord
  · refine ⟨hrecord, fun fault hfault => .inl ⟨cause, ?_⟩⟩
    exact (Except.error.inj hfault).symm
  · exact ⟨hrecord, fun fault => accept_error⟩

/-! ## Evaluation -/

namespace Expr

variable {registry : Registry}

theorem evaluateAll_makes {es : List Expr}
    (h : ∀ e ∈ es, (e.evaluate registry).Makes registry e.calls) :
    (evaluateAll registry es).Makes registry (callsAll es) := by
  induction es with
  | nil => exact .pure []
  | cons e es ih =>
    rw [evaluateAll_cons, callsAll_cons]
    refine (h e (by simp)).bind fun value => ?_
    have hes := (ih fun e he => h e (by simp [he])).bind fun values =>
      Run.Makes.pure (value :: values)
    rwa [List.append_nil] at hes

/-- An unknown function is found before any of its arguments is evaluated. -/
theorem unknown_makes (name : String) (es : List Expr) :
    (throw (.unknownFunction name) : Run Number).Makes registry (call name es).calls := by
  intro j
  refine ⟨[], [], by simp, .nil, List.nil_prefix, ?_, nofun⟩
  rintro _ ⟨rfl⟩
  exact ⟨es, [], rfl⟩

/-- A known function is called behind its arguments, with their values. -/
theorem call_makes {name : String} {f : Function} (hf : f.Records name) {es : List Expr}
    (h : (evaluateAll registry es).Makes registry (callsAll es)) :
    (evaluateAll registry es >>= f.call name).Makes registry (call name es).calls := by
  intro j
  have hes := h j
  rw [Run.on_bind]
  rcases hrun : (evaluateAll registry es).on j with ⟨fault | values, j₁⟩ <;>
    simp only [hrun] at hes ⊢
  · obtain ⟨made, records, hj₁, hmade, hstops⟩ := hes
    exact ⟨made, records, hj₁, hmade, hstops.before [(name, es)]⟩
  · obtain ⟨records, hj₁, hcalls⟩ := hes
    obtain ⟨hrecord, hfault⟩ := hf.call values j₁
    -- the records of the arguments are all that is recorded since they were begun
    have hall : Recorded registry j.calls (call name es).calls (records ++ [(name, values)]) :=
      @Recorded.concat _ _ _ [] _ _ _ _ j hcalls hcalls.length_eq (by simp) (by rw [hrun])
    rcases hcall : (f.call name values).on j₁ with ⟨fault | value, j₂⟩ <;>
      simp only [hcall] at hrecord hfault ⊢
    · refine ⟨_, _, by rw [hrecord, hj₁, List.append_assoc], hall, List.prefix_rfl, ?_, ?_⟩
      · rintro other rfl
        obtain ⟨cause, hcause⟩ | hcause := hfault _ rfl <;> cases hcause
      · rintro other cause rfl
        obtain ⟨cause', hcause⟩ | hcause := hfault _ rfl <;> cases hcause
        exact ⟨callsAll es, es, rfl⟩
    · exact ⟨_, by rw [hrecord, hj₁, List.append_assoc], hall⟩

/-- Over recording functions evaluation makes the calls of the expression. -/
theorem evaluate_makes (hr : registry.Records) (e : Expr) :
    (e.evaluate registry).Makes registry e.calls := by
  induction e using Expr.induction with
  | literal n => exact .pure _
  | signed sign e ih =>
    have h := ih.bind fun value => Run.Makes.pure (sign.apply value)
    rwa [List.append_nil] at h
  | binary op l r ihl ihr =>
    rw [evaluate_binary, calls_binary]
    refine ihl.bind fun x => ?_
    have h := ihr.bind fun y => op.apply_makes registry x y
    rwa [List.append_nil] at h
  | call name es ih =>
    cases hf : registry.get? name with
    | none =>
      rw [evaluate_unknown registry hf]
      exact unknown_makes name es
    | some f =>
      rw [evaluate_call registry hf]
      exact call_makes (hr hf) (evaluateAll_makes ih)

end Expr

/-- **Calls are made in order, and none is left out.** Let all functions record their calls. If an
expression has a value, then all its calls have been made, each once and with the values of its
arguments. If evaluation fails, then the first ones have been made; none of the arguments of an
unknown function is among them, and the call of a failed function is the last one. -/
theorem evaluate_calls {registry : Registry} (hr : registry.Records) (e : Expr) (j j' : Journal) :
    (∀ value, (e.evaluate registry).on j = (.ok value, j') →
      ∃ records, j'.calls = j.calls ++ records ∧ Recorded registry j.calls e.calls records) ∧
    ∀ fault, (e.evaluate registry).on j = (.error fault, j') →
      ∃ made records, j'.calls = j.calls ++ records ∧
        Recorded registry j.calls made records ∧ made <+: e.calls ∧
        (∀ name, fault = .unknownFunction name →
          ∃ es behind, e.calls = made ++ (Expr.callsAll es ++ (name, es) :: behind)) ∧
        ∀ name cause, fault = .failedCall name cause →
          ∃ values, records.getLast? = some (name, values) := by
  have h := e.evaluate_makes hr j
  constructor
  · intro value hrun
    simpa only [hrun] using h
  · intro fault hrun
    simp only [hrun] at h
    obtain ⟨made, records, hj, hmade, hstops⟩ := h
    refine ⟨made, records, hj, hmade, hstops.front, hstops.unknown, ?_⟩
    intro name cause hfault
    obtain ⟨before, es, rfl⟩ := hstops.failed name cause hfault
    exact hmade.last

/-- A function whose result does not matter is called all the same, and the argument of an unknown
function is not. -/
theorem evaluate_calls_unused :
    Registry.Records [("f", .recorded "f" fun _ => .ok (.number (.int 5)))] ∧
      (∃ records, [("f", [Number.int 3])] = [] ++ records ∧
        Recorded [("f", .recorded "f" fun _ => .ok (.number (.int 5)))] []
          [("f", [.literal 3])] records) ∧
      ∃ made records, [("f", [Number.int 3])] = [] ++ records ∧
        Recorded [("f", .recorded "f" fun _ => .ok (.number (.int 5)))] [] made records ∧
        ∃ es behind, [("f", [.literal 3]), ("f", []), ("g", [.call "f" []])] =
          made ++ (Expr.callsAll es ++ ("g", es) :: behind) := by
  have hr : Registry.Records [("f", .recorded "f" fun _ => .ok (.number (.int 5)))] := by
    intro name f h
    cases Assoc.mem_of_get? h with
    | head => exact Function.recorded_records _ _
    | tail _ h => cases h
  -- the first expression is `0 * f(3)`, the second one `f(3) + g(f())`
  have hproduct := (evaluate_calls hr (.binary .mul (.literal 0) (.call "f" [.literal 3]))
    {} ⟨[], [("f", [.int 3])]⟩).1 _ rfl
  obtain ⟨made, records, hj, hmade, -, hunknown, -⟩ := (evaluate_calls hr
    (.binary .add (.call "f" [.literal 3]) (.call "g" [.call "f" []])) {}
    ⟨[], [("f", [.int 3])]⟩).2 (.unknownFunction "g") rfl
  exact ⟨hr, hproduct, made, records, hj, hmade, hunknown "g" rfl⟩

end Reckoner
