import Reckoner.Proofs.Evaluation

/-!
# The calls in an expression

`Expr.calls` lists the calls in an expression in the order in which evaluation comes to an end with
them. What evaluation gives depends on a registry only through the functions of the names that are
called.
-/
namespace Reckoner.Expr

mutual
/-- The calls in an expression, each with its arguments. The calls in the arguments of a call stand
in front of it, and those in a left operand or an earlier argument in front of those in a later
one. -/
def calls : Expr → List (String × List Expr)
  | .literal _ => []
  | .signed _ e => calls e
  | .binary _ l r => calls l ++ calls r
  | .call name es => callsAll es ++ [(name, es)]
termination_by structural e => e

/-- The calls in several expressions, one after the other. -/
def callsAll : List Expr → List (String × List Expr)
  | [] => []
  | e :: es => calls e ++ callsAll es
termination_by structural es => es
end

@[simp] theorem calls_literal (n : Int) : (literal n).calls = [] := rfl

@[simp] theorem calls_signed (sign : Sign) (e : Expr) : (signed sign e).calls = e.calls := rfl

@[simp] theorem calls_binary (op : Operator) (l r : Expr) :
    (binary op l r).calls = l.calls ++ r.calls := rfl

@[simp] theorem calls_call (name : String) (es : List Expr) :
    (call name es).calls = callsAll es ++ [(name, es)] := rfl

@[simp] theorem callsAll_nil : callsAll [] = [] := rfl

@[simp] theorem callsAll_cons (e : Expr) (es : List Expr) :
    callsAll (e :: es) = e.calls ++ callsAll es := rfl

/-- An example with calls in operands and in arguments. -/
example : (binary .add (call "f" [call "g" [], literal 1]) (call "h" [])).calls =
    [("g", []), ("f", [call "g" [], literal 1]), ("h", [])] := by decide

/-- The names that are called in an expression. -/
def called (e : Expr) : List String :=
  e.calls.map Prod.fst

theorem mem_called {e : Expr} {name : String} :
    name ∈ e.called ↔ ∃ es, (name, es) ∈ e.calls := by
  simp [called]

/-! ## Registries that agree on the called names -/

variable {r s : Registry}

theorem evaluateAll_congr {es : List Expr} (h : ∀ e ∈ es, e.evaluate r = e.evaluate s) :
    evaluateAll r es = evaluateAll s es := by
  induction es with
  | nil => rfl
  | cons e es ih =>
    rw [evaluateAll_cons, evaluateAll_cons, h e (by simp), ih fun e he => h e (by simp [he])]

theorem mem_callsAll {es : List Expr} {c : String × List Expr} :
    c ∈ callsAll es ↔ ∃ e ∈ es, c ∈ e.calls := by
  induction es with
  | nil => simp
  | cons e es ih => simp [ih]

/-- An expression means the same over two registries that have the same functions for the names that
it calls. -/
theorem evaluate_congr {e : Expr} (h : ∀ name ∈ e.called, r.get? name = s.get? name) :
    e.evaluate r = e.evaluate s := by
  simp only [mem_called, forall_exists_index] at h
  induction e using Expr.induction with
  | literal n => rfl
  | signed sign e ih => rw [evaluate_signed, evaluate_signed, ih h]
  | binary op a b iha ihb =>
    have ha := iha fun name es hc => h name es (by simp [hc])
    have hb := ihb fun name es hc => h name es (by simp [hc])
    rw [evaluate_binary, evaluate_binary, ha, hb]
  | call name es ih =>
    have hname := h name es (by simp)
    have hes : evaluateAll r es = evaluateAll s es := evaluateAll_congr fun e he =>
      ih e he fun other args hc => h other args (by simp [mem_callsAll.mpr ⟨e, he, hc⟩])
    cases hf : s.get? name with
    | none => rw [evaluate_unknown r (hname.trans hf), evaluate_unknown s hf]
    | some f => rw [evaluate_call r (hname.trans hf), evaluate_call s hf, hes]

end Reckoner.Expr
