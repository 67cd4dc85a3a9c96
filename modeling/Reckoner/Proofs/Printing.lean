import Reckoner.Proofs.Lexing
import Reckoner.Proofs.Parsing

/-!
# Writing expressions

An expression is written with as few parentheses as precedence and grouping to the left allow, with
any blanks between its symbols. What is written is read back as the same expression, and everything
that can be read can be written.
-/
namespace Reckoner

open Grammar

namespace Expr

/-- Whether an expression is an operator between two operands. -/
def isBinary : Expr → Bool
  | .binary .. => true
  | _ => false

/-- Whether an expression is a sum or a difference. -/
def isAdditive : Expr → Bool
  | .binary op _ _ => !op.bindsTightly
  | _ => false

/-- The symbols in parentheses, if these are needed. -/
def enclose (needed : Bool) (ss : List Symbol) : List Symbol :=
  if needed then .opening :: (ss ++ [.closing]) else ss

mutual
/-- The symbols of an expression. Parentheses stand around the operand of a sign if it is binary,
around both operands of a multiplication or division if they are additive, and around the right
operand of an operator also if it binds no tighter than the operator. -/
def spell : Expr → List Symbol
  | .literal n => [.integer n.toNat]
  | .signed sign e => sign.symbol :: enclose e.isBinary (spell e)
  | .binary op l r =>
    enclose (op.bindsTightly && l.isAdditive) (spell l) ++
      op.symbol :: enclose (if op.bindsTightly then r.isBinary else r.isAdditive) (spell r)
  | .call name es => .identifier name :: .opening :: (spellAll es ++ [.closing])

/-- The symbols of several expressions, with commas between them. -/
def spellAll : List Expr → List Symbol
  | [] => []
  | [e] => spell e
  | e :: es => spell e ++ .comma :: spellAll es
end

/-- An expression that can be written: no literal is negative, and all names are names. -/
inductive Spellable : Expr → Prop
  | literal {n : Int} (h : 0 ≤ n) : Spellable (.literal n)
  | signed (sign : Sign) {e : Expr} (h : Spellable e) : Spellable (.signed sign e)
  | binary (op : Operator) {l r : Expr} (hl : Spellable l) (hr : Spellable r) :
      Spellable (.binary op l r)
  | call {name : String} (hname : isName name = true) {es : List Expr}
      (h : ∀ e ∈ es, Spellable e) : Spellable (.call name es)

theorem spellAll_cons_cons (e e' : Expr) (es : List Expr) :
    spellAll (e :: e' :: es) = e.spell ++ .comma :: spellAll (e' :: es) := by
  simp [spellAll]

theorem spellAll_cons (e : Expr) (es : List Expr) :
    spellAll (e :: es) = e.spell ++ es.flatMap fun e => .comma :: e.spell := by
  induction es generalizing e with
  | nil => simp [spellAll]
  | cons e' es ih => rw [spellAll_cons_cons, ih e', List.flatMap_cons, List.cons_append]

/-! ## Derivations -/

/-- The symbols of an expression derive it, at every level of the grammar that can hold it without
parentheses. -/
structure Derivable (e : Expr) : Prop where
  /-- As an expression in any case. -/
  expression : Derives (.expression e) e.spell
  /-- As a term, unless it is additive. -/
  term : e.isAdditive = false → Derives (.term e) e.spell
  /-- As a factor, unless it is binary. -/
  factor : e.isBinary = false → Derives (.factor e) e.spell

namespace Derivable

variable {e l r : Expr} {op : Operator}

theorem of_factor (h : Derives (.factor e) e.spell) : e.Derivable :=
  ⟨h.factor_term.term_expression, fun _ => h.factor_term, fun _ => h⟩

/-- In parentheses, where these are needed, every expression is a factor. -/
theorem enclosed_factor (h : e.Derivable) : Derives (.factor e) (enclose e.isBinary e.spell) := by
  cases hb : e.isBinary with
  | true => exact .group h.expression
  | false => exact h.factor hb

theorem enclosed_term (h : e.Derivable) : Derives (.term e) (enclose e.isAdditive e.spell) := by
  cases ha : e.isAdditive with
  | true => exact (Derives.group h.expression).factor_term
  | false => exact h.term ha

theorem signed (sign : Sign) (h : e.Derivable) : (Expr.signed sign e).Derivable :=
  of_factor (.signed sign h.enclosed_factor)

theorem binary (op : Operator) (hl : l.Derivable) (hr : r.Derivable) :
    (Expr.binary op l r).Derivable := by
  by_cases tight : op.bindsTightly = true
  · -- the left operand is the term so far, to which the right one is added as a factor
    have hterm : Derives (.term (.binary op l r)) (Expr.binary op l r).spell := by
      have h := hl.enclosed_term.term_concat (Operator.bindsTightly_iff.mp tight) hr.enclosed_factor
      simpa [spell, tight] using h
    exact ⟨hterm.term_expression, fun _ => hterm, nofun⟩
  · have loose : op.bindsTightly = false := by simpa using tight
    have hexpression : Derives (.expression (.binary op l r)) (Expr.binary op l r).spell := by
      have h := hl.expression.expression_concat (Operator.not_bindsTightly_iff.mp loose)
        hr.enclosed_term
      simpa [spell, loose, enclose] using h
    refine ⟨hexpression, fun hadditive => ?_, nofun⟩
    simp [isAdditive, loose] at hadditive

theorem arguments {es : List Expr} (h : ∀ e ∈ es, e.Derivable) :
    Derives (.arguments es) (spellAll es) := by
  cases es with
  | nil => exact .noArguments
  | cons e es =>
    obtain ⟨first, others⟩ := List.forall_mem_cons.mp h
    have hitems := Derives.arguments (es.map fun e => ⟨e, e.spell⟩) first.expression
      (by simpa using fun e he => (others e he).expression)
    simpa [spellAll_cons, Item.spell, List.flatMap_map, Function.comp_def] using hitems

end Derivable

theorem Spellable.derivable {e : Expr} (h : e.Spellable) : e.Derivable := by
  induction h with
  | @literal n hn =>
    have h := Derives.literal n.toNat
    rw [Int.toNat_of_nonneg hn] at h
    exact .of_factor h
  | signed sign _ ih => exact ih.signed sign
  | binary op _ _ ihl ihr => exact ihl.binary op ihr
  | call _ _ ih => exact .of_factor (.call _ (Derivable.arguments ih))

/-! ## Layouts -/

theorem proper_enclose {needed : Bool} {ss : List Symbol} (h : ∀ s ∈ ss, s.Proper) :
    ∀ s ∈ enclose needed ss, s.Proper := by
  cases needed with
  | false => exact h
  | true =>
    rw [enclose, if_pos rfl, List.forall_mem_cons, List.forall_mem_append]
    exact ⟨trivial, h, by simp [Symbol.Proper]⟩

theorem proper_spellAll {es : List Expr} (h : ∀ e ∈ es, ∀ s ∈ e.spell, s.Proper) :
    ∀ s ∈ spellAll es, s.Proper := by
  induction es with
  | nil => exact nofun
  | cons e es ih =>
    obtain ⟨first, others⟩ := List.forall_mem_cons.mp h
    cases es with
    | nil => exact first
    | cons e' es =>
      rw [spellAll_cons_cons, List.forall_mem_append, List.forall_mem_cons]
      exact ⟨first, trivial, ih others⟩

/-- The symbols of an expression can stand in a text. -/
theorem Spellable.proper {e : Expr} (h : e.Spellable) : ∀ s ∈ e.spell, s.Proper := by
  induction h with
  | literal => simp [spell, Symbol.Proper]
  | signed sign _ ih =>
    rw [spell, List.forall_mem_cons]
    exact ⟨by cases sign <;> trivial, proper_enclose ih⟩
  | binary op _ _ ihl ihr =>
    rw [spell, List.forall_mem_append, List.forall_mem_cons]
    exact ⟨proper_enclose ihl, by cases op <;> trivial, proper_enclose ihr⟩
  | call hname _ ih =>
    rw [spell, List.forall_mem_cons, List.forall_mem_cons, List.forall_mem_append]
    exact ⟨hname, trivial, proper_spellAll ih, by simp [Symbol.Proper]⟩

theorem isChain_enclose {needed : Bool} {ss : List Symbol} (h : ss.IsChain Symbol.Apart) :
    (enclose needed ss).IsChain Symbol.Apart := by
  cases needed with
  | false => exact h
  | true => exact (Symbol.isChain_mark_cons rfl).mpr ((Symbol.isChain_mark rfl).mpr ⟨h, .nil⟩)

theorem isChain_spellAll {es : List Expr} (h : ∀ e ∈ es, e.spell.IsChain Symbol.Apart) :
    (spellAll es).IsChain Symbol.Apart := by
  induction es with
  | nil => exact .nil
  | cons e es ih =>
    obtain ⟨first, others⟩ := List.forall_mem_cons.mp h
    cases es with
    | nil => exact first
    | cons e' es =>
      rw [spellAll_cons_cons]
      exact (Symbol.isChain_mark rfl).mpr ⟨first, ih others⟩

/-- No two words of an expression stand side by side. -/
theorem Spellable.apart {e : Expr} (h : e.Spellable) : e.spell.IsChain Symbol.Apart := by
  induction h with
  | literal => exact .singleton _
  | signed sign _ ih =>
    exact (Symbol.isChain_mark_cons (by cases sign <;> rfl)).mpr (isChain_enclose ih)
  | binary op _ _ ihl ihr =>
    exact (Symbol.isChain_mark (by cases op <;> rfl)).mpr
      ⟨isChain_enclose ihl, isChain_enclose ihr⟩
  | @call name _ es _ ih =>
    -- the parenthesis parts the name from the arguments
    refine (@Symbol.isChain_mark [.identifier name] _ _ rfl).mpr ⟨.singleton _, ?_⟩
    exact (Symbol.isChain_mark rfl).mpr ⟨isChain_spellAll ih, .nil⟩

/-- What is written is read back. -/
theorem Spellable.parse {e : Expr} (h : e.Spellable) {gap : Nat → List Char}
    (blank : ∀ i, ∀ c ∈ gap i, Text.isBlank c = true) :
    Reckoner.parse (String.ofList (Symbol.layOut gap e.spell)) = .ok e := by
  obtain ⟨hlast, hsymbols⟩ := Cursor.lex_layOut h.proper h.apart blank 0
  rw [parse_eq_ok, Cursor.start, String.toList_ofList]
  exact ⟨hlast, by rw [hsymbols]; exact h.derivable.expression⟩

end Expr

/-! ## What can be read -/

/-- The expressions of a phrase can be written. -/
def Grammar.Phrase.Spellable : Phrase → Prop
  | .expression e => e.Spellable
  | .term e => e.Spellable
  | .factor e => e.Spellable
  | .arguments es => ∀ e ∈ es, e.Spellable

theorem Expr.Spellable.chain {first : Expr} {links : List Link} (h : first.Spellable)
    (operands : ∀ l ∈ links, l.operand.Spellable) : (Grammar.chain first links).Spellable := by
  induction links generalizing first with
  | nil => exact h
  | cons l links ih =>
    obtain ⟨hl, others⟩ := List.forall_mem_cons.mp operands
    exact ih (.binary l.op h hl) others

theorem Grammar.Link.mem_spell {links : List Link} {l : Link} (hl : l ∈ links) {s : Symbol}
    (hs : s ∈ l.symbols) : s ∈ Link.spell links :=
  List.mem_flatMap.mpr ⟨l, hl, List.mem_cons_of_mem _ hs⟩

theorem Grammar.Item.mem_spell {items : List Item} {i : Item} (hi : i ∈ items) {s : Symbol}
    (hs : s ∈ i.symbols) : s ∈ Item.spell items :=
  List.mem_flatMap.mpr ⟨i, hi, List.mem_cons_of_mem _ hs⟩

/-- Proper symbols derive only what can be written. -/
theorem Grammar.Derives.spellable {phrase : Phrase} {ss : List Symbol} (h : Derives phrase ss)
    (proper : ∀ s ∈ ss, s.Proper) : phrase.Spellable := by
  induction h with
  | expression links _ _ _ ihhead ihoperands | term links _ _ _ ihhead ihoperands =>
    obtain ⟨hhead, hlinks⟩ := List.forall_mem_append.mp proper
    exact (ihhead hhead).chain fun l hl =>
      ihoperands l hl fun s hs => hlinks s (Link.mem_spell hl hs)
  | signed sign _ ih =>
    exact .signed sign (ih fun s hs => proper s (List.mem_cons_of_mem _ hs))
  | literal n => exact .literal (Int.natCast_nonneg n)
  | call name _ ih =>
    -- the name stands among the symbols, so it is proper
    have hname : isName name = true := proper (.identifier name) (by simp)
    exact .call hname (ih fun s hs => proper s (by simp [hs]))
  | group _ ih => exact ih fun s hs => proper s (by simp [hs])
  | noArguments => exact fun e he => nomatch he
  | arguments items _ _ ihhead ihothers =>
    obtain ⟨hhead, hitems⟩ := List.forall_mem_append.mp proper
    refine List.forall_mem_cons.mpr ⟨ihhead hhead, ?_⟩
    rw [List.forall_mem_map]
    exact fun i hi => ihothers i hi fun s hs => hitems s (Item.mem_spell hi hs)

/-- A token that a text can hold: a proper symbol, or the end. -/
def Token.Proper (t : Token) : Prop :=
  t.symbol = .finish ∨ t.symbol.Proper

theorem proper_of_tokenize {text : String} {ts : List Token} (h : tokenize text = .ok ts) :
    ∀ t ∈ ts, t.Proper := by
  obtain ⟨last, hlast, rfl⟩ := tokenize_eq_ok.mp h
  refine List.forall_mem_append.mpr ⟨fun t ht => .inr (Cursor.lex_proper _ t ht), ?_⟩
  exact List.forall_mem_singleton.mpr (.inl (Cursor.lex_ends _ hlast))

theorem spellable_of_parse {text : String} {e : Expr} (h : parse text = .ok e) : e.Spellable := by
  obtain ⟨-, hderives⟩ := parse_eq_ok.mp h
  refine hderives.spellable ?_
  rw [List.forall_mem_map]
  exact Cursor.lex_proper (Cursor.start text)

/-- **Reading undoes writing.** An expression is read from its symbols, whatever the blanks between
them, and the expressions that are read from any text at all are those that can be written. -/
theorem parse_spell :
    (∀ (e : Expr) (gap : Nat → List Char), e.Spellable →
      (∀ i, ∀ c ∈ gap i, Text.isBlank c = true) →
        parse (String.ofList (Symbol.layOut gap e.spell)) = .ok e) ∧
    ∀ e : Expr, (∃ text, parse text = .ok e) ↔ e.Spellable := by
  refine ⟨fun e gap h blank => h.parse blank, fun e => ⟨?_, fun h => ?_⟩⟩
  · rintro ⟨text, h⟩
    exact spellable_of_parse h
  · -- of the texts that give the expression back, the one without blanks
    have compact : ∀ i : Nat, ∀ c ∈ (fun _ => []) i, Text.isBlank c = true := by simp
    exact ⟨_, h.parse compact⟩

/-- Twice the difference of one and a call, with a blank in front of every symbol. -/
theorem parse_spell_spaced :
    (Expr.binary .mul (.literal 2) (.binary .sub (.literal 1)
      (.call "f" [.literal 3, .literal 4]))).Spellable ∧
    (∀ _i : Nat, ∀ c ∈ [' '], Text.isBlank c = true) ∧
    parse " 2 * ( 1 - f ( 3 , 4 ) ) " = .ok (.binary .mul (.literal 2) (.binary .sub (.literal 1)
      (.call "f" [.literal 3, .literal 4]))) := by
  have spellable : (Expr.binary .mul (.literal 2) (.binary .sub (.literal 1)
      (.call "f" [.literal 3, .literal 4]))).Spellable := by
    have arguments : ∀ e ∈ [Expr.literal 3, .literal 4], e.Spellable := by
      intro e he
      obtain rfl | rfl : e = .literal 3 ∨ e = .literal 4 := by simpa using he
      · exact .literal (by decide)
      · exact .literal (by decide)
    exact .binary .mul (.literal (by decide))
      (.binary .sub (.literal (by decide)) (.call (by decide) arguments))
  have blank : ∀ _i : Nat, ∀ c ∈ [' '], Text.isBlank c = true := by
    intro i c hc
    rw [List.mem_singleton.mp hc]
    decide
  have symbols : (Expr.binary .mul (.literal 2) (.binary .sub (.literal 1)
      (.call "f" [.literal 3, .literal 4]))).spell =
      [.integer 2, .times, .opening, .integer 1, .minus, .identifier "f", .opening, .integer 3,
        .comma, .integer 4, .closing, .closing] := rfl
  have layout : String.ofList (Symbol.layOut (fun _ => [' '])
      [.integer 2, .times, .opening, .integer 1, .minus, .identifier "f", .opening, .integer 3,
        .comma, .integer 4, .closing, .closing]) = " 2 * ( 1 - f ( 3 , 4 ) ) " := by
    simp only [Symbol.layOut, Symbol.text, Numeral.writeInt_eq]
    rfl
  rw [← layout, ← symbols]
  exact ⟨spellable, blank, parse_spell.1 _ _ spellable blank⟩

end Reckoner
