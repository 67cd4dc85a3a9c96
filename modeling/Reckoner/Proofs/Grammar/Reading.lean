import Reckoner.Proofs.Grammar

/-!
# Reading what the grammar derives

The parser keeps its open constructs on a stack and completes signs and operators only when a later
token forces it to. A phrase therefore leaves frames behind that are still to be settled. `Read`
says, for each phrase of the grammar, what its symbols do to the stack up to that settling; it holds
of every derivation, by induction on the derivation. So every sentence is read, with its tree.
-/
namespace Reckoner

open Grammar

namespace Operator

@[simp] theorem ofSymbol?_symbol (op : Operator) : ofSymbol? op.symbol = some op := by
  cases op <;> rfl

theorem symbol_of_ofSymbol? {s : Symbol} {op : Operator} (h : ofSymbol? s = some op) :
    s = op.symbol := by
  cases s <;> simp_all [ofSymbol?] <;> cases h <;> rfl

theorem bindsTightly_iff {op : Operator} : op.bindsTightly = true ↔ op = .mul ∨ op = .div := by
  cases op <;> simp [bindsTightly]

theorem not_bindsTightly_iff {op : Operator} : op.bindsTightly = false ↔ op = .add ∨ op = .sub := by
  cases op <;> simp [bindsTightly]

end Operator

namespace Progress

/-! ## Settling -/

/-- The innermost frame is not completed by settling. -/
def Firm (onlyTight : Bool) : List Frame → Prop
  | .sign _ :: _ => False
  | .operator op _ :: _ => onlyTight = true ∧ op.bindsTightly = false
  | _ => True

theorem Firm.tight {frames : List Frame} (h : Firm false frames) : Firm true frames := by
  unfold Firm at h ⊢
  split <;> simp_all

theorem settle_firm {onlyTight : Bool} {frames : List Frame} (h : Firm onlyTight frames)
    (e : Expr) : settle onlyTight frames e = (frames, e) := by
  unfold Firm at h
  unfold settle
  split <;> simp_all

@[simp] theorem settle_sign (onlyTight : Bool) (sign : Sign) (frames : List Frame) (e : Expr) :
    settle onlyTight (.sign sign :: frames) e = settle onlyTight frames (.signed sign e) := by
  rw [settle]

/-- An operator of the level that is settled takes its right operand. -/
theorem settle_operator (op : Operator) (left e : Expr) (frames : List Frame) :
    settle op.bindsTightly (.operator op left :: frames) e =
      settle op.bindsTightly frames (.binary op left e) := by
  rw [settle]
  simp

/-- Settling everything goes through settling what binds tightly. -/
theorem settle_false_of_true {frames frames' : List Frame} {e e' : Expr}
    (h : settle true frames e = (frames', e')) :
    settle false frames e = settle false frames' e' := by
  induction frames generalizing e with
  | nil =>
    cases h
    rfl
  | cons frame frames ih =>
    cases frame with
    | sign sign =>
      rw [settle_sign] at h ⊢
      exact ih h
    | operator op left =>
      -- an operator that does not bind tightly is where settling for one that does stops
      by_cases ht : op.bindsTightly = true
      · simp only [settle, ht, Bool.not_true, Bool.and_false, Bool.false_eq_true, if_false] at h ⊢
        exact ih h
      · simp only [settle, ht, Bool.not_false, Bool.and_true, if_true] at h
        cases h
        rfl
    | group =>
      cases h
      rfl
    | call name arguments =>
      cases h
      rfl

/-! ## Going on by several tokens -/

/-- Goes on by several tokens. -/
def advanceAll (p : Progress) (ts : List Token) : Except Misfit Progress :=
  ts.foldlM advance p

@[simp] theorem advanceAll_nil (p : Progress) : p.advanceAll [] = .ok p := rfl

theorem advanceAll_cons_ok {p q : Progress} {t : Token} {ts : List Token} :
    p.advanceAll (t :: ts) = .ok q ↔ ∃ m, p.advance t = .ok m ∧ m.advanceAll ts = .ok q := by
  unfold advanceAll
  cases h : p.advance t <;> simp [h, bind, Except.bind]

theorem advanceAll_append_ok {p q : Progress} {ts us : List Token} :
    p.advanceAll (ts ++ us) = .ok q ↔
      ∃ m, p.advanceAll ts = .ok m ∧ m.advanceAll us = .ok q := by
  induction ts generalizing p with
  | nil => simp
  | cons t ts ih =>
    simp only [List.cons_append, advanceAll_cons_ok, ih]
    constructor
    · rintro ⟨m, ht, n, hts, hus⟩
      exact ⟨n, ⟨m, ht, hts⟩, hus⟩
    · rintro ⟨n, ⟨m, ht, hts⟩, hus⟩
      exact ⟨m, ht, n, hts, hus⟩

/-- The symbols lead from one state to another, wherever their tokens stand. -/
def Reads (p : Progress) (ss : List Symbol) (q : Progress) : Prop :=
  ∀ ts : List Token, ts.map Token.symbol = ss → p.advanceAll ts = .ok q

theorem Reads.nil (p : Progress) : Reads p [] p := by
  intro ts h
  rw [List.map_eq_nil_iff.mp h]
  rfl

theorem Reads.append {p q r : Progress} {ss ts : List Symbol} (h : Reads p ss q)
    (h' : Reads q ts r) : Reads p (ss ++ ts) r := by
  intro us hus
  obtain ⟨vs, ws, rfl, hvs, hws⟩ := List.map_eq_append_iff.mp hus
  exact advanceAll_append_ok.mpr ⟨q, h vs hvs, h' ws hws⟩

theorem Reads.cons {p q r : Progress} {s : Symbol} {ss : List Symbol}
    (h : ∀ offset, p.advance ⟨s, offset⟩ = .ok q) (h' : Reads q ss r) : Reads p (s :: ss) r := by
  intro us hus
  obtain ⟨⟨_, offset⟩, ts, rfl, rfl, hts⟩ := List.map_eq_cons_iff.mp hus
  exact advanceAll_cons_ok.mpr ⟨q, h offset, h' ts hts⟩

theorem Reads.single {p q : Progress} {s : Symbol} (h : ∀ offset, p.advance ⟨s, offset⟩ = .ok q) :
    Reads p [s] q :=
  .cons h (.nil q)

/-! ## Single steps -/

variable {frames frames' : List Frame} {e e' : Expr}

theorem reads_sign (sign : Sign) :
    Reads ⟨frames, .operand⟩ [sign.symbol] ⟨.sign sign :: frames, .operand⟩ :=
  .single fun _ => by cases sign <;> rfl

theorem reads_literal (n : Nat) :
    Reads ⟨frames, .operand⟩ [.integer n] ⟨frames, .operator (.literal n)⟩ :=
  .single fun _ => rfl

theorem reads_group_opening :
    Reads ⟨frames, .operand⟩ [.opening] ⟨.group :: frames, .operand⟩ :=
  .single fun _ => rfl

theorem reads_call_opening (name : String) :
    Reads ⟨frames, .operand⟩ [.identifier name, .opening]
      ⟨.call name [] :: frames, .arguments⟩ := by
  intro ts hts
  obtain ⟨⟨_, offset⟩, us, rfl, rfl, hus⟩ := List.map_eq_cons_iff.mp hts
  exact advanceAll_cons_ok.mpr
    ⟨⟨frames, .opening name offset⟩, rfl, Reads.single (fun _ => rfl) us hus⟩

theorem reads_call_closing (name : String) :
    Reads ⟨.call name [] :: frames, .arguments⟩ [.closing] ⟨frames, .operator (.call name [])⟩ :=
  .single fun _ => rfl

/-- An operator completes what binds at least as tightly as it does. -/
theorem reads_operator {op : Operator} (h : settle op.bindsTightly frames e = (frames', e')) :
    Reads ⟨frames, .operator e⟩ [op.symbol] ⟨.operator op e' :: frames', .operand⟩ :=
  .single fun _ => by simp [advance, h]

/-- Any other token completes all signs and operators, and then closes or goes on with a bracket. -/
theorem reads_close {s : Symbol} {q : Progress} (h : settle false frames e = (frames', e'))
    (hs : Operator.ofSymbol? s = none) (hq : ∀ offset, close frames' e' ⟨s, offset⟩ = .ok q) :
    Reads ⟨frames, .operator e⟩ [s] q :=
  .single fun offset => by simp [advance, hs, h, hq offset]

/-- In front of an argument the end of the arguments is the only further possibility. -/
theorem Reads.first_argument {name : String} {s : Symbol} {ss : List Symbol} {q : Progress}
    (h : Reads ⟨.call name [] :: frames, .operand⟩ (s :: ss) q) (hs : s ≠ .closing) :
    Reads ⟨.call name [] :: frames, .arguments⟩ (s :: ss) q := by
  intro ts hts
  have hq := h ts hts
  obtain ⟨⟨_, offset⟩, us, rfl, rfl, hus⟩ := List.map_eq_cons_iff.mp hts
  rw [advanceAll_cons_ok] at hq ⊢
  simpa [advance, hs] using hq

/-! ## Phrases -/

/-- What the symbols of a phrase do: its tree stands behind the frames that were there before, once
the signs and operators of the phrase are settled. -/
def Read : Phrase → List Symbol → Prop
  | .expression e, ss => ∀ frames, Firm false frames → ∃ frames' e',
      Reads ⟨frames, .operand⟩ ss ⟨frames', .operator e'⟩ ∧ settle false frames' e' = (frames, e)
  | .term e, ss => ∀ frames, Firm true frames → ∃ frames' e',
      Reads ⟨frames, .operand⟩ ss ⟨frames', .operator e'⟩ ∧ settle true frames' e' = (frames, e)
  | .factor e, ss => ∀ frames, ∃ frames' e',
      Reads ⟨frames, .operand⟩ ss ⟨frames', .operator e'⟩ ∧
        ∀ onlyTight, settle onlyTight frames' e' = settle onlyTight frames e
  | .arguments es, ss => ∀ frames name,
      Reads ⟨.call name [] :: frames, .arguments⟩ (ss ++ [.closing])
        ⟨frames, .operator (.call name es)⟩

/-- The rounds of a chain, by induction on their list: before and after each round the chain so far
is what settling at the level of its operators leaves. -/
theorem read_chain {onlyTight : Bool} {links : List Link}
    (ops : ∀ l ∈ links, l.op.bindsTightly = onlyTight)
    (operands : ∀ l ∈ links, ∀ frames left, Firm onlyTight frames → ∃ frames' e',
      Reads ⟨.operator l.op left :: frames, .operand⟩ l.symbols ⟨frames', .operator e'⟩ ∧
        settle onlyTight frames' e' = settle onlyTight (.operator l.op left :: frames) l.operand)
    (firm : Firm onlyTight frames) {first : Expr}
    (h : settle onlyTight frames' e' = (frames, first)) :
    ∃ frames'' e'', Reads ⟨frames', .operator e'⟩ (Link.spell links) ⟨frames'', .operator e''⟩ ∧
      settle onlyTight frames'' e'' = (frames, chain first links) := by
  induction links generalizing frames' e' first with
  | nil => exact ⟨frames', e', .nil _, h⟩
  | cons l links ih =>
    have hop : l.op.bindsTightly = onlyTight := ops l (by simp)
    obtain ⟨framesO, eO, hO, sO⟩ := operands l (by simp) frames first firm
    -- the operator of this round is completed by the next round, or by what follows the chain
    rw [← hop, settle_operator, hop, settle_firm firm] at sO
    obtain ⟨frames'', e'', hR, sR⟩ := ih (fun l hl => ops l (by simp [hl]))
      (fun l hl => operands l (by simp [hl])) sO
    have hstep : Reads ⟨frames', .operator e'⟩ [l.op.symbol]
        ⟨.operator l.op first :: frames, .operand⟩ := reads_operator (by rw [hop, h])
    exact ⟨frames'', e'', hstep.append (hO.append hR), sR⟩

/-- The arguments after the first one, by induction on their list, and the end of the call. -/
theorem read_items {items : List Item} {name : String} {before : List Expr}
    (arguments : ∀ i ∈ items, Read (.expression i.argument) i.symbols)
    (h : settle false frames' e' = (.call name before :: frames, e)) :
    Reads ⟨frames', .operator e'⟩ (Item.spell items ++ [.closing])
      ⟨frames, .operator (.call name (before.reverse ++ e :: items.map Item.argument))⟩ := by
  induction items generalizing frames' e' before e with
  | nil => exact reads_close h rfl fun _ => by simp [close]
  | cons i items ih =>
    obtain ⟨framesA, eA, hA, sA⟩ :=
      arguments i (by simp) (.call name (e :: before) :: frames) trivial
    have hcomma : Reads ⟨frames', .operator e'⟩ [.comma]
        ⟨.call name (e :: before) :: frames, .operand⟩ := reads_close h rfl fun _ => rfl
    have hR := hcomma.append (hA.append (ih (fun i hi => arguments i (by simp [hi])) sA))
    simpa using hR

end Progress

/-- A phrase other than a list of arguments starts, and not with a closing parenthesis. -/
theorem Grammar.Derives.head {phrase : Phrase} {ss : List Symbol} (h : Derives phrase ss)
    (hp : ∀ es, phrase ≠ .arguments es) : ∃ s ts, ss = s :: ts ∧ s ≠ .closing := by
  induction h with
  | expression links _ _ _ head =>
    obtain ⟨s, ts, rfl, hs⟩ := head (by simp)
    exact ⟨s, ts ++ Link.spell links, rfl, hs⟩
  | term links _ _ _ head =>
    obtain ⟨s, ts, rfl, hs⟩ := head (by simp)
    exact ⟨s, ts ++ Link.spell links, rfl, hs⟩
  | signed sign => exact ⟨sign.symbol, _, rfl, by cases sign <;> simp [Sign.symbol]⟩
  | literal n => exact ⟨.integer n, [], rfl, by simp⟩
  | call name => exact ⟨.identifier name, _, rfl, by simp⟩
  | group => exact ⟨.opening, _, rfl, by simp⟩
  | noArguments => exact absurd rfl (hp [])
  | arguments items => exact absurd rfl (hp _)

open Progress in
/-- Every phrase of the grammar is read. -/
theorem Grammar.Derives.read {phrase : Phrase} {ss : List Symbol} (h : Derives phrase ss) :
    Read phrase ss := by
  induction h with
  | expression links _ ops _ head operands =>
    intro frames firm
    obtain ⟨framesH, eH, hH, sH⟩ := head frames firm.tight
    -- the terms settle what binds tightly only, the chain of terms settles everything
    have sH' := (settle_false_of_true sH).trans (settle_firm firm _)
    have ops' : ∀ l ∈ links, l.op.bindsTightly = false :=
      fun l hl => Operator.not_bindsTightly_iff.mpr (ops l hl)
    obtain ⟨frames', e', hR, sR⟩ := read_chain ops' (fun l hl framesL left _ => by
      obtain ⟨framesO, eO, hO, sO⟩ :=
        operands l hl (.operator l.op left :: framesL) ⟨rfl, ops' l hl⟩
      exact ⟨framesO, eO, hO, settle_false_of_true sO⟩) firm sH'
    exact ⟨frames', e', hH.append hR, sR⟩
  | term links _ ops _ head operands =>
    intro frames firm
    obtain ⟨framesH, eH, hH, sH⟩ := head frames
    have sH' := (sH true).trans (settle_firm firm _)
    obtain ⟨frames', e', hR, sR⟩ := read_chain
      (fun l hl => Operator.bindsTightly_iff.mpr (ops l hl)) (fun l hl framesL left _ => by
        obtain ⟨framesO, eO, hO, sO⟩ := operands l hl (.operator l.op left :: framesL)
        exact ⟨framesO, eO, hO, sO true⟩) firm sH'
    exact ⟨frames', e', hH.append hR, sR⟩
  | signed sign _ operand =>
    intro frames
    obtain ⟨frames', e', hO, sO⟩ := operand (.sign sign :: frames)
    exact ⟨frames', e', (reads_sign sign).append hO, fun b => (sO b).trans (settle_sign ..)⟩
  | literal n => exact fun frames => ⟨frames, .literal n, reads_literal n, fun _ => rfl⟩
  | call name _ arguments =>
    exact fun frames => ⟨frames, _, (reads_call_opening name).append (arguments frames name),
      fun _ => rfl⟩
  | @group e _ _ inner =>
    intro frames
    obtain ⟨frames', e', hI, sI⟩ := inner (.group :: frames) trivial
    exact ⟨frames, e, reads_group_opening.append (hI.append (reads_close sI rfl fun _ => rfl)),
      fun _ => rfl⟩
  | noArguments => exact fun frames name => reads_call_closing name
  | arguments items head _ inner others =>
    intro frames name
    -- the first argument must not look like the end of an empty list of arguments
    obtain ⟨s, ts, rfl, hs⟩ := head.head (by simp)
    obtain ⟨frames', e', hI, sI⟩ := inner (.call name [] :: frames) trivial
    have hR := (hI.first_argument hs).append (read_items others sI)
    simpa using hR

/-- Every sentence is read to its end, with its tree. -/
theorem Grammar.Derives.finish {e : Expr} {ss : List Symbol} (h : Derives (.expression e) ss)
    {ts : List Token} (hts : ts.map Token.symbol = ss) :
    ∃ p, Progress.start.advanceAll ts = .ok p ∧ ∀ last, p.finish last = .ok e := by
  obtain ⟨frames, e', hR, hs⟩ := h.read [] trivial
  exact ⟨_, hR ts hts, fun _ => by simp [Progress.finish, hs]⟩

/-- The grammar is unambiguous. -/
theorem Grammar.Derives.unique {e e' : Expr} {ss : List Symbol} (h : Derives (.expression e) ss)
    (h' : Derives (.expression e') ss) : e = e' := by
  have hts : (ss.map (Token.mk · 0)).map Token.symbol = ss := by simp [Function.comp_def]
  obtain ⟨p, hp, he⟩ := h.finish hts
  obtain ⟨p', hp', he'⟩ := h'.finish hts
  obtain rfl : p = p' := Except.ok.inj (hp.symm.trans hp')
  exact Except.ok.inj ((he ⟨.finish, 0⟩).symm.trans (he' ⟨.finish, 0⟩))

end Reckoner
