import Reckoner.Proofs.Grammar.Reading

/-!
# The places a parser can stand at

The frames of a parser spell what has been read. `Place` says, without running the parser, at which
level of the grammar a stack of frames waits for its next part, and which symbols lie in front of
it: between two brackets there is at most one open sum, in it at most one open product, and in that
any number of signs. `Reached` is the invariant of the parser. Each accepted token keeps it
(`Reached.advance`), at every place an expression can still be completed (`Reached.completable`),
and what is accepted in the end is a sentence with its tree (`Reached.finish`).
-/
namespace Reckoner

open Grammar

namespace Grammar

/-- The levels of the grammar at which a part can be wanted. -/
inductive Level where
  | expression
  | term
  | factor

/-- The phrase that is wanted at a level. -/
def Level.phrase : Level → Expr → Phrase
  | .expression => .expression
  | .term => .term
  | .factor => .factor

/-- The symbols start a list of arguments that only lacks its last one. -/
def LacksLast (es : List Expr) (ss : List Symbol) : Prop :=
  ∀ {e ts}, Derives (.expression e) ts → Derives (.arguments (es ++ [e])) (ss ++ ts)

theorem LacksLast.nil : LacksLast [] [] := by
  intro e ts h
  simpa using Derives.arguments [] h (by simp)

theorem LacksLast.concat {es : List Expr} {e : Expr} {ss ts : List Symbol} (h : LacksLast es ss)
    (he : Derives (.expression e) ts) : LacksLast (es ++ [e]) (ss ++ ts ++ [.comma]) := by
  intro e' us he'
  simpa using (h he).arguments_concat (by simp) he'

/-- Where a stack of frames waits for a part of some level, behind the symbols that it spells. -/
inductive Place : Level → List Frame → List Symbol → Prop
  | start : Place .expression [] []
  | group {frames ss} (outer : Place .factor frames ss) :
      Place .expression (.group :: frames) (ss ++ [.opening])
  | call {frames ss es ts} (name : String) (outer : Place .factor frames ss)
      (arguments : LacksLast es ts) :
      Place .expression (.call name es.reverse :: frames)
        (ss ++ .identifier name :: .opening :: ts)
  | sum {frames ss left ls op} (outer : Place .expression frames ss)
      (hop : op = .add ∨ op = .sub) (hl : Derives (.expression left) ls) :
      Place .term (.operator op left :: frames) (ss ++ ls ++ [op.symbol])
  | term {frames ss} (outer : Place .expression frames ss) : Place .term frames ss
  | product {frames ss left ls op} (outer : Place .term frames ss)
      (hop : op = .mul ∨ op = .div) (hl : Derives (.term left) ls) :
      Place .factor (.operator op left :: frames) (ss ++ ls ++ [op.symbol])
  | factor {frames ss} (outer : Place .term frames ss) : Place .factor frames ss
  | sign {frames ss} (sign : Sign) (outer : Place .factor frames ss) :
      Place .factor (.sign sign :: frames) (ss ++ [sign.symbol])

/-- What is wanted at a place completes it to a sentence. -/
theorem Place.completable {level : Level} {frames : List Frame} {ss ts : List Symbol} {e : Expr}
    (h : Place level frames ss) (he : Derives (level.phrase e) ts) : Completable (ss ++ ts) := by
  induction h generalizing e ts with
  | start => exact ⟨[], e, by simpa [Level.phrase] using he⟩
  | group _ ih =>
    obtain ⟨rest, hs⟩ := ih (Derives.group he)
    exact ⟨.closing :: rest, by simpa using hs⟩
  | call name _ arguments ih =>
    obtain ⟨rest, hs⟩ := ih (Derives.call name (arguments he))
    exact ⟨.closing :: rest, by simpa using hs⟩
  | sum _ hop hl ih =>
    obtain ⟨rest, hs⟩ := ih (hl.expression_concat hop he)
    exact ⟨rest, by simpa using hs⟩
  | term _ ih => exact ih he.term_expression
  | product _ hop hl ih =>
    obtain ⟨rest, hs⟩ := ih (hl.term_concat hop he)
    exact ⟨rest, by simpa using hs⟩
  | factor _ ih => exact ih he.factor_term
  | sign sign _ ih =>
    obtain ⟨rest, hs⟩ := ih (Derives.signed sign he)
    exact ⟨rest, by simpa using hs⟩

theorem Place.firm_expression {frames : List Frame} {ss : List Symbol}
    (h : Place .expression frames ss) : Progress.Firm false frames := by
  cases h <;> trivial

theorem Place.firm_term {frames : List Frame} {ss : List Symbol} (h : Place .term frames ss) :
    Progress.Firm true frames := by
  cases h with
  | sum _ hop => exact ⟨rfl, Operator.not_bindsTightly_iff.mpr hop⟩
  | term outer => exact outer.firm_expression.tight

/-- Settling what binds tightly turns a factor into a term of an outer place. -/
theorem Place.settle_tight {frames : List Frame} {ss ts : List Symbol} {e : Expr}
    (h : Place .factor frames ss) (he : Derives (.factor e) ts) :
    ∃ frames' e' ss' ts', Progress.settle true frames e = (frames', e') ∧ ss ++ ts = ss' ++ ts' ∧
      Place .term frames' ss' ∧ Derives (.term e') ts' := by
  -- the level is an index of the induction, so that it is held by an equation
  generalize hlevel : Level.factor = level at h
  induction h generalizing e ts with
  | start | group | call | sum | term => cases hlevel
  | @product frames ss left ls op outer hop hl =>
    have hs : Progress.settle true (.operator op left :: frames) e =
        (frames, .binary op left e) := by
      have ht := Operator.bindsTightly_iff.mpr hop
      rw [← ht, Progress.settle_operator, ht, Progress.settle_firm outer.firm_term]
    exact ⟨frames, _, ss, _, hs, by simp, outer, hl.term_concat hop he⟩
  | factor outer =>
    exact ⟨_, e, _, ts, Progress.settle_firm outer.firm_term e, rfl, outer, he.factor_term⟩
  | sign sign _ ih =>
    obtain ⟨frames', e', ss', ts', hs, heq, outer, he'⟩ := ih (Derives.signed sign he) rfl
    exact ⟨frames', e', ss', ts', hs, by rw [← heq]; simp, outer, he'⟩

/-- Settling everything turns a factor into an expression of an outer place. -/
theorem Place.settle_all {frames : List Frame} {ss ts : List Symbol} {e : Expr}
    (h : Place .factor frames ss) (he : Derives (.factor e) ts) :
    ∃ frames' e' ss' ts', Progress.settle false frames e = (frames', e') ∧ ss ++ ts = ss' ++ ts' ∧
      Place .expression frames' ss' ∧ Derives (.expression e') ts' := by
  obtain ⟨framesT, eT, ssT, tsT, hs, heq, outer, heT⟩ := h.settle_tight he
  rw [Progress.settle_false_of_true hs, heq]
  cases outer with
  | @sum frames ss left ls op outer hop hl =>
    have hs' : Progress.settle false (.operator op left :: frames) eT =
        (frames, .binary op left eT) := by
      have ht := Operator.not_bindsTightly_iff.mpr hop
      rw [← ht, Progress.settle_operator, ht, Progress.settle_firm outer.firm_expression]
    exact ⟨frames, _, ss, _, hs', by simp, outer, hl.expression_concat hop heT⟩
  | term outer =>
    exact ⟨_, eT, _, tsT, Progress.settle_firm outer.firm_expression eT, rfl, outer,
      heT.term_expression⟩

end Grammar

namespace Progress

/-- The invariant of the parser: what it has read, by what it waits for. -/
def Reached (ss : List Symbol) (p : Progress) : Prop :=
  match p.awaited with
  | .operand => Place .factor p.frames ss
  | .arguments => ∃ name outer before, p.frames = .call name [] :: outer ∧
      ss = before ++ [.identifier name, .opening] ∧ Place .factor outer before
  | .opening name _ => ∃ before, ss = before ++ [.identifier name] ∧ Place .factor p.frames before
  | .operator e => ∃ before spelled, ss = before ++ spelled ∧ Place .factor p.frames before ∧
      Derives (.factor e) spelled

theorem Reached.start : Reached [] .start :=
  Place.factor (.term .start)

/-- An operand may start at the place of a factor. -/
theorem Reached.operand {frames : List Frame} {ss : List Symbol} {t : Token} {q : Progress}
    (h : Place .factor frames ss) (hq : Progress.operand frames t = .ok q) :
    Reached (ss ++ [t.symbol]) q := by
  obtain ⟨s, offset⟩ := t
  cases s <;> cases hq
  case integer n => exact ⟨ss, _, rfl, h, .literal n⟩
  case identifier name => exact ⟨ss, rfl, h⟩
  case plus => exact h.sign .plus
  case minus => exact h.sign .minus
  case opening => exact .factor (.term (.group h))

/-- A complete expression ends its bracket, or one argument of it. -/
theorem Reached.close {frames : List Frame} {ss ts : List Symbol} {e : Expr} {t : Token}
    {q : Progress} (h : Place .expression frames ss) (he : Derives (.expression e) ts)
    (hq : Progress.close frames e t = .ok q) : Reached (ss ++ ts ++ [t.symbol]) q := by
  obtain ⟨s, offset⟩ := t
  cases h with
  | start => cases hq
  | @group frames ss outer =>
    cases s <;> cases hq
    exact ⟨ss, _, by simp, outer, .group he⟩
  | @call frames ss es us name outer arguments =>
    cases s <;> cases hq
    case call.closing.refl =>
      rw [← List.reverse_concat, List.reverse_reverse]
      exact ⟨ss, _, by simp, outer, .call name (arguments he)⟩
    case call.comma.refl =>
      have hplace := Place.call name outer (arguments.concat he)
      rw [List.reverse_concat] at hplace
      exact .factor (.term (by simpa using hplace))

/-- The place of the first argument. -/
theorem Place.first_argument (name : String) {frames : List Frame} {before : List Symbol}
    (h : Place .factor frames before) :
    Place .factor (.call name [] :: frames) (before ++ [.identifier name, .opening]) :=
  .factor (.term (.call name h LacksLast.nil))

/-- **The step**: an accepted token keeps the invariant. -/
theorem Reached.advance {ss : List Symbol} {p q : Progress} {t : Token} (h : Reached ss p)
    (hq : p.advance t = .ok q) : Reached (ss ++ [t.symbol]) q := by
  obtain ⟨frames, awaited⟩ := p
  cases awaited with
  | operand => exact Reached.operand h hq
  | arguments =>
    obtain ⟨name, outer, before, rfl, rfl, hplace⟩ := h
    by_cases hs : t.symbol = .closing
    · simp only [Progress.advance, hs, Except.ok.injEq] at hq
      subst hq
      exact ⟨before, _, by simp [hs], hplace, .call name .noArguments⟩
    · refine Reached.operand (Place.first_argument name hplace) ?_
      simpa [Progress.advance, hs] using hq
  | opening name offset =>
    obtain ⟨before, rfl, hplace⟩ := h
    cases hs : t.symbol <;> simp only [Progress.advance, hs, reduceCtorEq, Except.ok.injEq] at hq
    subst hq
    exact ⟨name, frames, before, rfl, by simp, hplace⟩
  | operator e =>
    obtain ⟨before, spelled, rfl, hplace, he⟩ := h
    simp only [Progress.advance] at hq
    split at hq
    · -- an operator completes what binds at least as tightly, and waits for its right operand
      rename_i op hs
      cases hq
      rw [Operator.symbol_of_ofSymbol? hs]
      by_cases ht : op.bindsTightly = true
      · obtain ⟨frames', e', ss', ts', hs', heq, hterm, hl⟩ := hplace.settle_tight he
        rw [ht, hs', heq]
        exact .product hterm (Operator.bindsTightly_iff.mp ht) hl
      · rw [Bool.not_eq_true] at ht
        obtain ⟨frames', e', ss', ts', hs', heq, hexpr, hl⟩ := hplace.settle_all he
        rw [ht, hs', heq]
        exact .factor (.sum hexpr (Operator.not_bindsTightly_iff.mp ht) hl)
    · -- everything else ends an expression
      obtain ⟨frames', e', ss', ts', hs', heq, hexpr, he'⟩ := hplace.settle_all he
      rw [hs'] at hq
      rw [heq]
      exact Reached.close hexpr he' hq

/-- **The run**: the invariant holds at every state that the parser reaches. -/
theorem Reached.advanceAll {ss : List Symbol} {p q : Progress} {ts : List Token} (h : Reached ss p)
    (hq : p.advanceAll ts = .ok q) : Reached (ss ++ ts.map Token.symbol) q := by
  induction ts generalizing ss p with
  | nil =>
    cases hq
    simpa using h
  | cons t ts ih =>
    obtain ⟨m, ht, hts⟩ := advanceAll_cons_ok.mp hq
    simpa using ih (h.advance ht) hts

/-- What the parser accepts is a sentence with its tree. -/
theorem Reached.finish {ss : List Symbol} {p : Progress} {last : Token} {e : Expr}
    (h : Reached ss p) (he : p.finish last = .ok e) : Derives (.expression e) ss := by
  obtain ⟨frames, awaited⟩ := p
  cases awaited with
  | operand | arguments | opening => cases he
  | operator left =>
    obtain ⟨before, spelled, rfl, hplace, hleft⟩ := h
    obtain ⟨frames', e', ss', ts', hs, heq, hexpr, he'⟩ := hplace.settle_all hleft
    rw [heq]
    simp only [Progress.finish, hs] at he
    cases hexpr with
    | start =>
      cases he
      exact he'
    | group | call => cases he

/-- From every state that the parser reaches there is a way to the end of an expression. -/
theorem Reached.completable {ss : List Symbol} {p : Progress} (h : Reached ss p) :
    Completable ss := by
  obtain ⟨frames, awaited⟩ := p
  cases awaited with
  | operand => exact (Place.completable h (.literal 0)).start
  | arguments =>
    obtain ⟨name, outer, before, -, rfl, hplace⟩ := h
    exact ((Place.first_argument name hplace).completable (.literal 0)).start
  | opening name offset =>
    obtain ⟨before, rfl, hplace⟩ := h
    have hcall : Completable ((before ++ [.identifier name]) ++ [.opening, .closing]) := by
      simpa using hplace.completable (.call name .noArguments)
    exact hcall.start
  | operator e =>
    obtain ⟨before, spelled, rfl, hplace, he⟩ := h
    exact hplace.completable he

end Progress
end Reckoner
