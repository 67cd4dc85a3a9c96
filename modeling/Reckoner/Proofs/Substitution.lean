import Reckoner.Proofs.Resolution
import Reckoner.Proofs.Spelling

/-!
# A parenthesised text in the place of a numeral

The integers of an expression stand in the order of the numerals in its text. If one numeral is
replaced by another text in parentheses, the text is still an expression: the integer gives way to
the expression of the inserted text, and nothing else changes (`Grammar.Derives.replaceLeaf`). If the
inserted text has the value of the numeral, then the whole text keeps its value, or its fault.
-/
namespace Reckoner

/-! ## The integers of an expression -/

namespace Expr

mutual
/-- The integers of an expression, from left to right. -/
def leaves : Expr → List Int
  | .literal n => [n]
  | .signed _ e => leaves e
  | .binary _ l r => leaves l ++ leaves r
  | .call _ es => leavesAll es
termination_by structural e => e

/-- The integers of several expressions, one after the other. -/
def leavesAll : List Expr → List Int
  | [] => []
  | e :: es => leaves e ++ leavesAll es
termination_by structural es => es
end

mutual
/-- An expression with its integer number `k` replaced by the expression `u`. -/
def replaceLeaf : Expr → Nat → Expr → Expr
  | .literal n, k, u => if k = 0 then u else .literal n
  | .signed sign e, k, u => .signed sign (replaceLeaf e k u)
  | .binary op l r, k, u =>
    if k < l.leaves.length then .binary op (replaceLeaf l k u) r
    else .binary op l (replaceLeaf r (k - l.leaves.length) u)
  | .call name es, k, u => .call name (replaceLeafAll es k u)
termination_by structural e => e

/-- Several expressions with the integer number `k` among them replaced by the expression `u`. -/
def replaceLeafAll : List Expr → Nat → Expr → List Expr
  | [], _, _ => []
  | e :: es, k, u =>
    if k < e.leaves.length then replaceLeaf e k u :: es
    else e :: replaceLeafAll es (k - e.leaves.length) u
termination_by structural es => es
end

/-- The integer of an argument, behind those of another one. -/
example : (binary .sub (literal 2) (call "f" [literal 3, literal 4])).replaceLeaf 2 (literal 7) =
    binary .sub (literal 2) (call "f" [literal 3, literal 7]) := by decide

variable {es fs : List Expr} {k : Nat} {u : Expr}

@[simp] theorem leaves_literal (n : Int) : (literal n).leaves = [n] := rfl

@[simp] theorem leaves_signed (sign : Sign) (e : Expr) : (signed sign e).leaves = e.leaves := rfl

@[simp] theorem leaves_binary (op : Operator) (l r : Expr) :
    (binary op l r).leaves = l.leaves ++ r.leaves := rfl

@[simp] theorem leaves_call (name : String) (es : List Expr) :
    (call name es).leaves = leavesAll es := rfl

@[simp] theorem leavesAll_nil : leavesAll [] = [] := rfl

@[simp] theorem leavesAll_cons (e : Expr) (es : List Expr) :
    leavesAll (e :: es) = e.leaves ++ leavesAll es := rfl

theorem leavesAll_append : leavesAll (es ++ fs) = leavesAll es ++ leavesAll fs := by
  induction es with
  | nil => rfl
  | cons e es ih => simp [ih]

theorem replaceLeaf_literal (n : Int) :
    (literal n).replaceLeaf k u = if k = 0 then u else literal n := rfl

@[simp] theorem replaceLeaf_signed (sign : Sign) (e : Expr) :
    (signed sign e).replaceLeaf k u = signed sign (e.replaceLeaf k u) := rfl

theorem replaceLeaf_binary (op : Operator) (l r : Expr) :
    (binary op l r).replaceLeaf k u =
      if k < l.leaves.length then binary op (l.replaceLeaf k u) r
      else binary op l (r.replaceLeaf (k - l.leaves.length) u) := rfl

@[simp] theorem replaceLeaf_call (name : String) (es : List Expr) :
    (call name es).replaceLeaf k u = call name (replaceLeafAll es k u) := rfl

@[simp] theorem replaceLeafAll_nil : replaceLeafAll [] k u = [] := rfl

theorem replaceLeafAll_cons (e : Expr) (es : List Expr) :
    replaceLeafAll (e :: es) k u =
      if k < e.leaves.length then e.replaceLeaf k u :: es
      else e :: replaceLeafAll es (k - e.leaves.length) u := rfl

theorem length_replaceLeafAll : (replaceLeafAll es k u).length = es.length := by
  induction es generalizing k with
  | nil => rfl
  | cons e es ih =>
    rw [replaceLeafAll_cons]
    split
    · rfl
    · simp [ih]

theorem replaceLeafAll_append :
    replaceLeafAll (es ++ fs) k u =
      if k < (leavesAll es).length then replaceLeafAll es k u ++ fs
      else es ++ replaceLeafAll fs (k - (leavesAll es).length) u := by
  induction es generalizing k with
  | nil => simp
  | cons e es ih =>
    rw [List.cons_append, replaceLeafAll_cons, replaceLeafAll_cons, ih, leavesAll_cons,
      List.length_append, Nat.sub_sub]
    by_cases first : k < e.leaves.length
    · rw [if_pos first, if_pos first, if_pos (by omega), List.cons_append]
    · rw [if_neg first, if_neg first]
      by_cases others : k - e.leaves.length < (leavesAll es).length
      · rw [if_pos others, if_pos (by omega), List.cons_append]
      · rw [if_neg others, if_neg (by omega), List.cons_append]

end Expr

/-! ## The numerals of a text -/

/-- The number of a numeral. -/
def Symbol.numeral? : Symbol → Option Int
  | .integer n => some n
  | _ => none

@[simp] theorem Operator.numeral?_symbol (op : Operator) : op.symbol.numeral? = none := by
  cases op <;> rfl

@[simp] theorem Sign.numeral?_symbol (sign : Sign) : sign.symbol.numeral? = none := by
  cases sign <;> rfl

/-- The numbers of the numerals among some symbols. -/
def numerals (ss : List Symbol) : List Int :=
  ss.filterMap Symbol.numeral?

@[simp] theorem numerals_nil : numerals [] = [] := rfl

@[simp] theorem numerals_append (ss ts : List Symbol) :
    numerals (ss ++ ts) = numerals ss ++ numerals ts :=
  List.filterMap_append

theorem numerals_cons_none {s : Symbol} (h : s.numeral? = none) (ss : List Symbol) :
    numerals (s :: ss) = numerals ss :=
  List.filterMap_cons_none h

theorem numerals_cons_some {s : Symbol} {n : Int} (h : s.numeral? = some n) (ss : List Symbol) :
    numerals (s :: ss) = n :: numerals ss :=
  List.filterMap_cons_some h

/-- Symbols with the numeral number `k` among them replaced by the symbols `new`. -/
def replaceNumeral (new : List Symbol) (k : Nat) : List Symbol → List Symbol
  | [] => []
  | s :: ss =>
    if s.numeral? = none then s :: replaceNumeral new k ss
    else if k = 0 then new ++ ss
    else s :: replaceNumeral new (k - 1) ss

section

variable {new ss ts : List Symbol} {k : Nat} {s : Symbol}

@[simp] theorem replaceNumeral_nil : replaceNumeral new k [] = [] := rfl

theorem replaceNumeral_mark (h : s.numeral? = none) :
    replaceNumeral new k (s :: ss) = s :: replaceNumeral new k ss := by
  rw [replaceNumeral, if_pos h]

theorem replaceNumeral_integer (n : Nat) :
    replaceNumeral new k (.integer n :: ss) =
      if k = 0 then new ++ ss else .integer n :: replaceNumeral new (k - 1) ss := rfl

theorem replaceNumeral_append :
    replaceNumeral new k (ss ++ ts) =
      if k < (numerals ss).length then replaceNumeral new k ss ++ ts
      else ss ++ replaceNumeral new (k - (numerals ss).length) ts := by
  induction ss generalizing k with
  | nil => simp
  | cons s ss ih =>
    rw [List.cons_append]
    cases hs : s.numeral? with
    | none =>
      rw [replaceNumeral_mark hs, replaceNumeral_mark hs, numerals_cons_none hs, ih]
      split <;> rfl
    | some n =>
      have numeral : s.numeral? ≠ none := by simp [hs]
      rw [replaceNumeral, replaceNumeral, if_neg numeral, if_neg numeral, numerals_cons_some hs,
        List.length_cons]
      by_cases first : k = 0
      · rw [if_pos first, if_pos first, if_pos (by omega), List.append_assoc]
      · rw [if_neg first, if_neg first, ih]
        by_cases others : k - 1 < (numerals ss).length
        · rw [if_pos others, if_pos (by omega), List.cons_append]
        · rw [if_neg others, if_neg (by omega), List.cons_append, Nat.sub_sub, Nat.add_comm 1]

theorem replaceNumeral_of_le (h : (numerals ss).length ≤ k) : replaceNumeral new k ss = ss := by
  have happend : replaceNumeral new k (ss ++ []) = ss ++ [] := by
    rw [replaceNumeral_append, if_neg (Nat.not_lt.mpr h), replaceNumeral_nil]
  simpa using happend

theorem replaceNumeral_concat (h : s.numeral? = none) :
    replaceNumeral new k (ss ++ [s]) = replaceNumeral new k ss ++ [s] := by
  rw [replaceNumeral_append, replaceNumeral_mark h, replaceNumeral_nil]
  split
  · rfl
  · rw [replaceNumeral_of_le (by omega)]

/-- The numeral behind some symbols is the one whose number is that of the numerals among them. -/
theorem replaceNumeral_here (n : Nat) :
    replaceNumeral new (numerals ss).length (ss ++ .integer n :: ts) = ss ++ (new ++ ts) := by
  rw [replaceNumeral_append, if_neg (Nat.lt_irrefl _), Nat.sub_self, replaceNumeral_integer,
    if_pos rfl]

end

namespace Grammar

/-- The integers of a phrase, from left to right. -/
def Phrase.leaves : Phrase → List Int
  | .expression e => e.leaves
  | .term e => e.leaves
  | .factor e => e.leaves
  | .arguments es => Expr.leavesAll es

/-- A phrase with its integer number `k` replaced by the expression `u`. -/
def Phrase.replaceLeaf : Phrase → Nat → Expr → Phrase
  | .expression e, k, u => .expression (e.replaceLeaf k u)
  | .term e, k, u => .term (e.replaceLeaf k u)
  | .factor e, k, u => .factor (e.replaceLeaf k u)
  | .arguments es, k, u => .arguments (Expr.replaceLeafAll es k u)

/-- The integers of a phrase are the numerals among its symbols. -/
theorem Derives.leaves {p : Phrase} {ss : List Symbol} (h : Derives p ss) :
    p.leaves = numerals ss := by
  induction h using Derives.growth with
  | sum _ _ _ ihl ihr | product _ _ _ ihl ihr =>
    rw [numerals_append, numerals_cons_none (Operator.numeral?_symbol _), ← ihl, ← ihr]
    rfl
  | term _ ih | factor _ ih | argument _ ih => simpa [Phrase.leaves] using ih
  | signed sign _ ih =>
    rw [numerals_cons_none (Sign.numeral?_symbol sign), ← ih]
    rfl
  | literal n => rfl
  | call name _ ih =>
    rw [numerals_cons_none rfl, numerals_cons_none rfl, numerals_append, ← ih]
    simp [Phrase.leaves, numerals, Symbol.numeral?]
  | group _ ih =>
    rw [numerals_cons_none rfl, numerals_append, ← ih]
    simp [Phrase.leaves, numerals, Symbol.numeral?]
  | noArguments => rfl
  | comma _ _ _ ihes ihe =>
    rw [numerals_append, numerals_cons_none rfl, ← ihes, ← ihe]
    simp [Phrase.leaves, Expr.leavesAll_append]

section

variable {u : Expr} {new : List Symbol} {k : Nat}

/-- A numeral of a round stands in its left or in its right operand. -/
theorem replaceLeaf_round {motive : Expr → List Symbol → Prop} {l r : Expr} {ls rs : List Symbol}
    {op : Operator} (hl : l.leaves = numerals ls)
    (left : motive (.binary op (l.replaceLeaf k u) r) (replaceNumeral new k ls ++ op.symbol :: rs))
    (right : ∀ i, motive (.binary op l (r.replaceLeaf i u))
      (ls ++ op.symbol :: replaceNumeral new i rs)) :
    motive ((Expr.binary op l r).replaceLeaf k u)
      (replaceNumeral new k (ls ++ op.symbol :: rs)) := by
  rw [Expr.replaceLeaf_binary, replaceNumeral_append, hl,
    replaceNumeral_mark (Operator.numeral?_symbol op)]
  split
  · exact left
  · exact right _

/-- A single argument is replaced by the expression that the new symbols spell. -/
theorem replaceLeaf_argument {e : Expr} {ss : List Symbol} (he : Derives (.expression e) ss)
    (h : Derives (.expression (e.replaceLeaf k u)) (replaceNumeral new k ss)) :
    ∃ e', Expr.replaceLeafAll [e] k u = [e'] ∧
      Derives (.expression e') (replaceNumeral new k ss) := by
  have hleaves : e.leaves = numerals ss := he.leaves
  rw [Expr.replaceLeafAll_cons, hleaves]
  split
  · exact ⟨_, rfl, h⟩
  · rw [replaceNumeral_of_le (by omega)]
    exact ⟨e, rfl, he⟩

end

/-- **A numeral gives way to an expression in parentheses**, at any depth and behind any pending
operator. -/
theorem Derives.replaceLeaf {u : Expr} {us : List Symbol} (hu : Derives (.expression u) us)
    {p : Phrase} {ss : List Symbol} (h : Derives p ss) (k : Nat) :
    Derives (p.replaceLeaf k u) (replaceNumeral (.opening :: (us ++ [.closing])) k ss) := by
  induction h using Derives.growth generalizing k with
  | sum hl hop hr ihl ihr =>
    exact replaceLeaf_round (motive := fun e ss => Derives (.expression e) ss) hl.leaves
      ((ihl k).expression_concat hop hr) fun i => hl.expression_concat hop (ihr i)
  | product hl hop hr ihl ihr =>
    exact replaceLeaf_round (motive := fun e ss => Derives (.term e) ss) hl.leaves
      ((ihl k).term_concat hop hr) fun i => hl.term_concat hop (ihr i)
  | term _ ih => exact (ih k).term_expression
  | factor _ ih => exact (ih k).factor_term
  | signed sign _ ih =>
    rw [replaceNumeral_mark (Sign.numeral?_symbol sign)]
    exact (ih k).signed sign
  | literal n =>
    rw [Phrase.replaceLeaf, Expr.replaceLeaf_literal, replaceNumeral_integer]
    by_cases here : k = 0
    · rw [if_pos here, if_pos here, List.append_nil]
      exact hu.group
    · rw [if_neg here, if_neg here]
      exact .literal n
  | call name _ ih =>
    rw [replaceNumeral_mark rfl, replaceNumeral_mark rfl, replaceNumeral_concat rfl]
    exact (ih k).call name
  | group _ ih =>
    rw [replaceNumeral_mark rfl, replaceNumeral_concat rfl]
    exact (ih k).group
  | noArguments => exact .noArguments
  | argument he ih =>
    obtain ⟨e', hsingle, he'⟩ := replaceLeaf_argument he (ih k)
    rw [Phrase.replaceLeaf, hsingle]
    exact he'.expression_argument
  | @comma es e ss ts h some he ihes ihe =>
    have hleaves : Expr.leavesAll es = numerals ss := h.leaves
    rw [Phrase.replaceLeaf, Expr.replaceLeafAll_append, replaceNumeral_append, hleaves,
      replaceNumeral_mark rfl]
    split
    · have some' : Expr.replaceLeafAll es k u ≠ [] := by
        rwa [← List.length_pos_iff, Expr.length_replaceLeafAll, List.length_pos_iff]
      exact (ihes k).arguments_concat some' he
    · obtain ⟨e', hsingle, he'⟩ := replaceLeaf_argument he (ihe _)
      rw [hsingle]
      exact h.arguments_concat some he'

end Grammar

/-! ## Values -/

/-- Calling a function ends in the same way whatever journal it finds: what comes of it depends on
the arguments only. -/
def Registry.Settled (registry : Registry) : Prop :=
  ∀ ⦃name f⦄, registry.get? name = some f → ∀ ns, (f ns).SameOutcome (f ns)

theorem Registry.Uniform.settled {registry : Registry} (h : registry.Uniform) : registry.Settled :=
  fun _ _ hf ns => (h hf ns).sameOutcome

theorem Run.sameOutcome_stable : Run.Stable fun x => x.SameOutcome x :=
  ⟨.ofExcept, .logLine, fun h hf => h.bind hf, fun h hh => h.tryCatch hh⟩

namespace Expr

variable {registry : Registry}

theorem evaluate_settled (settled : registry.Settled) (e : Expr) :
    (e.evaluate registry).SameOutcome (e.evaluate registry) :=
  evaluate_stable Run.sameOutcome_stable settled e

theorem evaluateAll_replaceLeafAll (settled : registry.Settled) {u : Expr} {n : Int}
    {es : List Expr} {k : Nat}
    (h : ∀ e ∈ es, ∀ i, e.leaves[i]? = some n →
      ((e.replaceLeaf i u).evaluate registry).SameOutcome (e.evaluate registry))
    (hk : (leavesAll es)[k]? = some n) :
    (evaluateAll registry (replaceLeafAll es k u)).SameOutcome (evaluateAll registry es) := by
  induction es generalizing k with
  | nil => cases hk
  | cons e es ih =>
    obtain ⟨he, hes⟩ := List.forall_mem_cons.mp h
    rw [leavesAll_cons] at hk
    rw [replaceLeafAll_cons]
    by_cases first : k < e.leaves.length
    · rw [List.getElem?_append_left first] at hk
      rw [if_pos first, evaluateAll_cons, evaluateAll_cons]
      have others : (evaluateAll registry es).SameOutcome (evaluateAll registry es) :=
        evaluateAll_stable Run.sameOutcome_stable fun e _ => evaluate_settled settled e
      exact (he k hk).bind fun value => others.bind fun values => .pure _
    · rw [List.getElem?_append_right (Nat.not_lt.mp first)] at hk
      rw [if_neg first, evaluateAll_cons, evaluateAll_cons]
      exact (evaluate_settled settled e).bind fun value => (ih hes hk).bind fun values => .pure _

/-- An expression that evaluates to an integer can stand for it. -/
theorem evaluate_replaceLeaf (settled : registry.Settled) {u : Expr} {n : Int}
    (hu : (u.evaluate registry).SameOutcome (pure (.int n))) {e : Expr} {k : Nat}
    (hk : e.leaves[k]? = some n) :
    ((e.replaceLeaf k u).evaluate registry).SameOutcome (e.evaluate registry) := by
  induction e using Expr.induction generalizing k with
  | literal m =>
    obtain ⟨rfl, rfl⟩ : k = 0 ∧ m = n := by
      cases k with
      | zero => simpa using hk
      | succ k => simp at hk
    rw [replaceLeaf_literal, if_pos rfl]
    exact hu
  | signed sign e ih => exact (ih hk).bind fun value => .pure _
  | binary op l r ihl ihr =>
    rw [leaves_binary] at hk
    rw [replaceLeaf_binary]
    by_cases left : k < l.leaves.length
    · rw [List.getElem?_append_left left] at hk
      rw [if_pos left, evaluate_binary, evaluate_binary]
      exact (ihl hk).bind fun x => (evaluate_settled settled r).bind fun y => .ofExcept _
    · rw [List.getElem?_append_right (Nat.not_lt.mp left)] at hk
      rw [if_neg left, evaluate_binary, evaluate_binary]
      exact (evaluate_settled settled l).bind fun x => (ihr hk).bind fun y => .ofExcept _
  | call name es ih =>
    rw [replaceLeaf_call]
    cases hf : registry.get? name with
    | none =>
      rw [evaluate_unknown registry hf, evaluate_unknown registry hf]
      exact .throw _
    | some f =>
      rw [evaluate_call registry hf, evaluate_call registry hf]
      have hes := evaluateAll_replaceLeafAll settled (fun e he i hi => ih e he hi) hk
      exact hes.bind fun ns => Function.call_stable Run.sameOutcome_stable (settled hf ns) name

end Expr

/-! ## Texts -/

/-- Where a token of a text stops: the place of a cursor that has drawn it. -/
def Token.stop (text : String) (t : Token) : Nat :=
  (Cursor.next ⟨text.toList.drop t.offset, t.offset⟩).2.offset

/-- A text with a token replaced by another text in parentheses. -/
def splice (text : String) (t : Token) (inner : String) : String :=
  String.ofList (text.toList.take t.offset ++
    '(' :: (inner.toList ++ ')' :: text.toList.drop (t.stop text)))

theorem Token.stop_eq {text : String} {t : Token} {front lexeme back : List Char}
    (htext : text.toList = front ++ (lexeme ++ back)) (hoffset : t.offset = front.length)
    (cut : Lexeme.cut (lexeme ++ back) = (lexeme, back))
    (stands : Lexeme.symbol? lexeme = some t.symbol) :
    t.stop text = front.length + lexeme.length := by
  have hdrop : text.toList.drop t.offset = lexeme ++ back := by
    rw [htext, hoffset, List.drop_left]
  have hnext := @Cursor.next_lexeme t.symbol [] lexeme back nofun cut stands t.offset
  rw [List.nil_append] at hnext
  rw [stop, hdrop, hnext, hoffset]
  rfl

/-- A text with a token replaced holds the symbols of the inserted text between those in front of the
token and those behind it. -/
theorem spelled_splice {text inner : String} {t last : Token} {us vs : List Token}
    {ss : List Symbol} (htext : (Cursor.start text).lex.1 = us ++ t :: vs)
    (hlast : (Cursor.start text).lex.2 = .ok last) (hinner : Spelled inner.toList ss) :
    Spelled (splice text t inner).toList
      (us.map Token.symbol ++ .opening :: (ss ++ .closing :: vs.map Token.symbol)) := by
  obtain ⟨front, lexeme, back, hrest, hoffset, hcut, hstands, hfront, hback⟩ :=
    Cursor.lex_split htext hlast
  have hchars : text.toList = front ++ (lexeme ++ back) := hrest
  have hplace : t.offset = front.length := by
    rw [hoffset, Cursor.start, Nat.zero_add]
  have htake : text.toList.take t.offset = front := by
    rw [hchars, hplace, List.take_left]
  have hdrop : text.toList.drop (t.stop text) = back := by
    rw [Token.stop_eq hchars hplace hcut hstands, hchars, ← List.append_assoc,
      ← List.length_append, List.drop_left]
  have hclosing : Spelled (inner.toList ++ ')' :: back) (ss ++ .closing :: vs.map Token.symbol) :=
    hinner.append_mark rfl hback
  rw [splice, String.toList_ofList, htake, hdrop]
  exact hfront.append_mark rfl hclosing

/-- A token other than the end stands in front of the end. -/
theorem lex_of_tokenize {text : String} {t : Token} {us vs : List Token}
    (h : tokenize text = .ok (us ++ t :: vs)) (more : t.symbol ≠ .finish) :
    ∃ vs' last, (Cursor.start text).lex.1 = us ++ t :: vs' ∧
      (Cursor.start text).lex.2 = .ok last := by
  obtain ⟨last, hlast, htokens⟩ := tokenize_eq_ok.mp h
  rcases List.eq_nil_or_concat vs with rfl | ⟨vs', x, rfl⟩
  · obtain ⟨-, hend⟩ := List.append_inj' htokens rfl
    obtain rfl : t = last := by simpa using hend
    exact absurd (Cursor.lex_ends _ hlast) more
  · rw [List.concat_eq_append, ← List.cons_append, ← List.append_assoc] at htokens
    obtain ⟨hfront, -⟩ := List.append_inj' htokens rfl
    exact ⟨vs', last, hfront.symm, hlast⟩

/-- **Textual substitution.** In a text that spells an expression, a numeral can be replaced by any
text in parentheses that spells an expression itself: the result spells the expression with the
integer of the numeral replaced. If the inserted text has the value of the numeral, then both texts
end with the same value or the same fault, whatever functions there are, as long as these depend on
their arguments only. -/
theorem evaluateText_splice {text inner : String} {e u : Expr} (he : parse text = .ok e)
    (hu : parse inner = .ok u) {us vs : List Token} {n offset : Nat}
    (ht : tokenize text = .ok (us ++ ⟨.integer n, offset⟩ :: vs)) :
    let k := (numerals (us.map Token.symbol)).length
    let spliced := splice text ⟨.integer n, offset⟩ inner
    e.leaves[k]? = some (n : Int) ∧ parse spliced = .ok (e.replaceLeaf k u) ∧
      ∀ registry : Registry, registry.Settled →
        ∀ j, ((evaluateText registry inner).on j).1 = .ok (.int n) →
          (evaluateText registry spliced).SameOutcome (evaluateText registry text) := by
  intro k spliced
  obtain ⟨vs', last, htokens, hlast⟩ := lex_of_tokenize ht nofun
  obtain ⟨ss, hss, hinner⟩ := parse_eq_ok_iff_spelled.mp hu
  obtain ⟨-, htext⟩ := parse_eq_ok.mp he
  rw [htokens, List.map_append, List.map_cons] at htext
  have hleaf : e.leaves[k]? = some (n : Int) := by
    have hleaves : e.leaves = numerals _ := htext.leaves
    rw [hleaves, numerals_append, List.getElem?_append_right (Nat.le_refl _), Nat.sub_self]
    rfl
  have hparse : parse spliced = .ok (e.replaceLeaf k u) := by
    refine parse_eq_ok_iff_spelled.mpr ⟨_, spelled_splice htokens hlast hss, ?_⟩
    have hreplaced := hinner.replaceLeaf htext k
    rw [replaceNumeral_here] at hreplaced
    simpa [Grammar.Phrase.replaceLeaf] using hreplaced
  refine ⟨hleaf, hparse, fun registry settled j hvalue => ?_⟩
  simp only [evaluateText, he, hu, hparse] at hvalue ⊢
  have hu' : (u.evaluate registry).SameOutcome (pure (.int n)) := by
    intro i i'
    rw [Expr.evaluate_settled settled u i j, hvalue, Run.on_pure]
  exact Expr.evaluate_replaceLeaf settled hu' hleaf

/-- The second numeral of a text, which has a needless zero. -/
theorem evaluateText_splice_product :
    parse "2 * 013 - abs(4)" = .ok (.binary .sub (.binary .mul (.literal 2) (.literal 13))
        (.call "abs" [.literal 4])) ∧
      splice "2 * 013 - abs(4)" ⟨.integer 13, 4⟩ "10 + 3" = "2 * (10 + 3) - abs(4)" ∧
      parse "2 * (10 + 3) - abs(4)" =
        .ok (.binary .sub (.binary .mul (.literal 2) (.binary .add (.literal 10) (.literal 3)))
          (.call "abs" [.literal 4])) ∧
      (evaluateText Registry.builtins "2 * (10 + 3) - abs(4)").SameOutcome
        (evaluateText Registry.builtins "2 * 013 - abs(4)") := by
  have he : parse "2 * 013 - abs(4)" = .ok (.binary .sub (.binary .mul (.literal 2) (.literal 13))
      (.call "abs" [.literal 4])) := by
    with_unfolding_all rfl
  have hu : parse "10 + 3" = .ok (.binary .add (.literal 10) (.literal 3)) := by
    with_unfolding_all rfl
  have ht : tokenize "2 * 013 - abs(4)" = .ok ([⟨.integer 2, 0⟩, ⟨.times, 2⟩] ++
      ⟨.integer 13, 4⟩ :: [⟨.minus, 8⟩, ⟨.identifier "abs", 10⟩, ⟨.opening, 13⟩, ⟨.integer 4, 14⟩,
        ⟨.closing, 15⟩, ⟨.finish, 16⟩]) := by
    with_unfolding_all rfl
  have hsplice : splice "2 * 013 - abs(4)" ⟨.integer 13, 4⟩ "10 + 3" = "2 * (10 + 3) - abs(4)" := by
    with_unfolding_all rfl
  have settled : Registry.builtins.Settled := (Registry.base_uniform true).settled
  have hvalue : ((evaluateText Registry.builtins "10 + 3").on {}).1 = .ok (.int 13) := by
    rw [evaluateText, hu]
    rfl
  obtain ⟨-, hparse, hsame⟩ := evaluateText_splice he hu ht
  rw [hsplice] at hparse hsame
  exact ⟨he, hsplice, hparse, hsame Registry.builtins settled {} hvalue⟩

end Reckoner
