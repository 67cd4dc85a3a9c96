import Reckoner.Expr.Parser

/-!
# The grammar of expressions

The grammar is stated on its own, as derivations over the symbols of a text:

```text
expression  := term (('+' | '-') term)*
term        := factor (('*' | '/') factor)*
factor      := ('+' | '-') factor
             | INTEGER
             | IDENTIFIER '(' arguments ')'
             | '(' expression ')'
arguments   := (expression (',' expression)*)?
```

A derivation carries its tree. A repetition `( ... )*` is a list of its rounds, and a chain of
operators is folded to the left; `Derives.growth` is the induction in which the rounds come one at a
time. Nothing here mentions how a text is read; the parser meets the
grammar in the modules below this one.
-/
namespace Reckoner

/-- The symbol of a sign. -/
def Sign.symbol : Sign → Symbol
  | .plus => .plus
  | .minus => .minus

/-- The symbol of an operator. -/
def Operator.symbol : Operator → Symbol
  | .add => .plus
  | .sub => .minus
  | .mul => .times
  | .div => .divide

namespace Grammar

/-- One round of a chain: an operator, its right operand, and the symbols that spell the operand. -/
structure Link where
  /-- The operator. -/
  op : Operator
  /-- The right operand. -/
  operand : Expr
  /-- How the operand is spelled. -/
  symbols : List Symbol

/-- One further argument of a call and the symbols that spell it. -/
structure Item where
  /-- The argument. -/
  argument : Expr
  /-- How the argument is spelled. -/
  symbols : List Symbol

/-- How the rounds of a chain are spelled. -/
def Link.spell (links : List Link) : List Symbol :=
  links.flatMap fun l => l.op.symbol :: l.symbols

/-- How further arguments are spelled, each behind a comma. -/
def Item.spell (items : List Item) : List Symbol :=
  items.flatMap fun i => .comma :: i.symbols

/-- The tree of a chain: every operator takes all that stands before it as its left operand. -/
def chain (first : Expr) (links : List Link) : Expr :=
  links.foldl (fun left l => .binary l.op left l.operand) first

/-- What a part of a text can be, together with its tree. -/
inductive Phrase where
  | expression (e : Expr)
  | term (e : Expr)
  | factor (e : Expr)
  | arguments (es : List Expr)

/-- The derivations of the grammar: which symbols spell which phrase. -/
inductive Derives : Phrase → List Symbol → Prop
  | expression {first : Expr} {ss : List Symbol} (links : List Link)
      (head : Derives (.term first) ss)
      (ops : ∀ l ∈ links, l.op = .add ∨ l.op = .sub)
      (operands : ∀ l ∈ links, Derives (.term l.operand) l.symbols) :
      Derives (.expression (chain first links)) (ss ++ Link.spell links)
  | term {first : Expr} {ss : List Symbol} (links : List Link)
      (head : Derives (.factor first) ss)
      (ops : ∀ l ∈ links, l.op = .mul ∨ l.op = .div)
      (operands : ∀ l ∈ links, Derives (.factor l.operand) l.symbols) :
      Derives (.term (chain first links)) (ss ++ Link.spell links)
  | signed {e : Expr} {ss : List Symbol} (sign : Sign) (operand : Derives (.factor e) ss) :
      Derives (.factor (.signed sign e)) (sign.symbol :: ss)
  | literal (n : Nat) : Derives (.factor (.literal n)) [.integer n]
  | call {es : List Expr} {ss : List Symbol} (name : String)
      (arguments : Derives (.arguments es) ss) :
      Derives (.factor (.call name es)) (.identifier name :: .opening :: (ss ++ [.closing]))
  | group {e : Expr} {ss : List Symbol} (inner : Derives (.expression e) ss) :
      Derives (.factor e) (.opening :: (ss ++ [.closing]))
  | noArguments : Derives (.arguments []) []
  | arguments {first : Expr} {ss : List Symbol} (items : List Item)
      (head : Derives (.expression first) ss)
      (others : ∀ i ∈ items, Derives (.expression i.argument) i.symbols) :
      Derives (.arguments (first :: items.map Item.argument)) (ss ++ Item.spell items)

/-- The symbols spell an expression. -/
def Sentence (ss : List Symbol) : Prop :=
  ∃ e, Derives (.expression e) ss

/-- The symbols can be continued to an expression. -/
def Completable (ss : List Symbol) : Prop :=
  ∃ rest, Sentence (ss ++ rest)

/-- The symbols are the start of an expression. If the end of the text is among them, as the last
one, then they are a whole expression in front of it. -/
def Viable (ss : List Symbol) : Prop :=
  if ss.getLast? = some .finish then Sentence ss.dropLast else Completable ss

/-! ## Chains and lists of arguments, one round longer -/

@[simp] theorem chain_nil (first : Expr) : chain first [] = first := rfl

@[simp] theorem chain_cons (first : Expr) (l : Link) (links : List Link) :
    chain first (l :: links) = chain (.binary l.op first l.operand) links := rfl

theorem chain_concat (first : Expr) (links : List Link) (l : Link) :
    chain first (links ++ [l]) = .binary l.op (chain first links) l.operand := by
  simp [chain]

@[simp] theorem Link.spell_nil : Link.spell [] = [] := rfl

@[simp] theorem Link.spell_cons (l : Link) (links : List Link) :
    Link.spell (l :: links) = l.op.symbol :: (l.symbols ++ Link.spell links) := rfl

theorem Link.spell_concat (links : List Link) (l : Link) :
    Link.spell (links ++ [l]) = Link.spell links ++ l.op.symbol :: l.symbols := by
  simp [Link.spell]

@[simp] theorem Item.spell_nil : Item.spell [] = [] := rfl

@[simp] theorem Item.spell_cons (i : Item) (items : List Item) :
    Item.spell (i :: items) = .comma :: (i.symbols ++ Item.spell items) := rfl

theorem Item.spell_concat (items : List Item) (i : Item) :
    Item.spell (items ++ [i]) = Item.spell items ++ .comma :: i.symbols := by
  simp [Item.spell]

/-- A factor is a term. -/
theorem Derives.factor_term {e : Expr} {ss : List Symbol} (h : Derives (.factor e) ss) :
    Derives (.term e) ss := by
  have ht := Derives.term [] h (by simp) (by simp)
  simpa using ht

/-- A term is an expression. -/
theorem Derives.term_expression {e : Expr} {ss : List Symbol} (h : Derives (.term e) ss) :
    Derives (.expression e) ss := by
  have he := Derives.expression [] h (by simp) (by simp)
  simpa using he

/-- A further term makes a longer expression. -/
theorem Derives.expression_concat {l r : Expr} {ls rs : List Symbol} {op : Operator}
    (hl : Derives (.expression l) ls) (hop : op = .add ∨ op = .sub)
    (hr : Derives (.term r) rs) :
    Derives (.expression (.binary op l r)) (ls ++ op.symbol :: rs) := by
  cases hl with
  | expression links head ops operands =>
    have h := Derives.expression (links ++ [⟨op, r, rs⟩]) head
      (by simpa [or_imp, forall_and] using ⟨ops, hop⟩)
      (by simpa [or_imp, forall_and] using ⟨operands, hr⟩)
    simpa [chain_concat, Link.spell_concat] using h

/-- A further factor makes a longer term. -/
theorem Derives.term_concat {l r : Expr} {ls rs : List Symbol} {op : Operator}
    (hl : Derives (.term l) ls) (hop : op = .mul ∨ op = .div)
    (hr : Derives (.factor r) rs) :
    Derives (.term (.binary op l r)) (ls ++ op.symbol :: rs) := by
  cases hl with
  | term links head ops operands =>
    have h := Derives.term (links ++ [⟨op, r, rs⟩]) head
      (by simpa [or_imp, forall_and] using ⟨ops, hop⟩)
      (by simpa [or_imp, forall_and] using ⟨operands, hr⟩)
    simpa [chain_concat, Link.spell_concat] using h

/-- An expression is a list of one argument. -/
theorem Derives.expression_argument {e : Expr} {ss : List Symbol}
    (h : Derives (.expression e) ss) : Derives (.arguments [e]) ss := by
  have ha := Derives.arguments [] h (by simp)
  simpa using ha

/-- A further argument makes a longer list of arguments. -/
theorem Derives.arguments_concat {es : List Expr} {e : Expr} {ss ts : List Symbol}
    (h : Derives (.arguments es) ss) (some : es ≠ []) (he : Derives (.expression e) ts) :
    Derives (.arguments (es ++ [e])) (ss ++ .comma :: ts) := by
  cases h with
  | noArguments => exact absurd rfl some
  | arguments items head others =>
    have h := Derives.arguments (items ++ [⟨e, ts⟩]) head
      (by simpa [or_imp, forall_and] using ⟨others, he⟩)
    simpa [Item.spell_concat] using h

/-! ## Induction, one round at a time -/

/-- What holds of the first operand and is kept by every round holds of a chain. -/
theorem chain_induction {motive : Expr → List Symbol → Prop} {first : Expr} {ss : List Symbol}
    {links : List Link} (head : motive first ss)
    (round : ∀ l ∈ links, ∀ e ts, motive e ts →
      motive (.binary l.op e l.operand) (ts ++ l.op.symbol :: l.symbols)) :
    motive (chain first links) (ss ++ Link.spell links) := by
  induction links generalizing first ss with
  | nil => simpa using head
  | cons l links ih =>
    obtain ⟨hl, hlinks⟩ := List.forall_mem_cons.mp round
    have h := ih (hl first ss head) hlinks
    rwa [List.append_assoc, List.cons_append] at h

/-- What holds of some arguments and is kept by every further one holds of all. -/
theorem arguments_induction {motive : List Expr → List Symbol → Prop} {es : List Expr}
    {ss : List Symbol} {items : List Item} (head : motive es ss)
    (further : ∀ i ∈ items, ∀ es ts, motive es ts →
      motive (es ++ [i.argument]) (ts ++ .comma :: i.symbols)) :
    motive (es ++ items.map Item.argument) (ss ++ Item.spell items) := by
  induction items generalizing es ss with
  | nil => simpa using head
  | cons i items ih =>
    obtain ⟨hi, hitems⟩ := List.forall_mem_cons.mp further
    have h := ih (hi es ss head) hitems
    rwa [List.append_assoc, List.append_assoc, List.cons_append] at h

/-- Induction over derivations in which sums, products and lists of arguments grow on the right. -/
@[elab_as_elim]
theorem Derives.growth {motive : (p : Phrase) → (ss : List Symbol) → Derives p ss → Prop}
    (sum : ∀ {l r ls rs} {op : Operator} (hl : Derives (.expression l) ls)
      (hop : op = .add ∨ op = .sub) (hr : Derives (.term r) rs), motive _ _ hl → motive _ _ hr →
        motive _ _ (hl.expression_concat hop hr))
    (term : ∀ {e ss} (h : Derives (.term e) ss), motive _ _ h → motive _ _ h.term_expression)
    (product : ∀ {l r ls rs} {op : Operator} (hl : Derives (.term l) ls)
      (hop : op = .mul ∨ op = .div) (hr : Derives (.factor r) rs), motive _ _ hl → motive _ _ hr →
        motive _ _ (hl.term_concat hop hr))
    (factor : ∀ {e ss} (h : Derives (.factor e) ss), motive _ _ h → motive _ _ h.factor_term)
    (signed : ∀ {e ss} (sign : Sign) (h : Derives (.factor e) ss), motive _ _ h →
      motive _ _ (h.signed sign))
    (literal : ∀ n : Nat, motive _ _ (.literal n))
    (call : ∀ {es ss} (name : String) (h : Derives (.arguments es) ss), motive _ _ h →
      motive _ _ (h.call name))
    (group : ∀ {e ss} (h : Derives (.expression e) ss), motive _ _ h → motive _ _ h.group)
    (noArguments : motive _ _ .noArguments)
    (argument : ∀ {e ss} (h : Derives (.expression e) ss), motive _ _ h →
      motive _ _ h.expression_argument)
    (comma : ∀ {es e ss ts} (h : Derives (.arguments es) ss) (some : es ≠ [])
      (he : Derives (.expression e) ts), motive _ _ h → motive _ _ he →
        motive _ _ (h.arguments_concat some he))
    {p : Phrase} {ss : List Symbol} (h : Derives p ss) : motive p ss h := by
  induction h with
  | @expression first ss links head ops operands ih ihs =>
    have hchain := chain_induction (motive := fun e ss => ∃ h, motive (.expression e) ss h)
      ⟨_, term head ih⟩ fun l hl e ts ⟨_, he⟩ =>
        ⟨_, sum _ (ops l hl) (operands l hl) he (ihs l hl)⟩
    exact hchain.2
  | @term first ss links head ops operands ih ihs =>
    have hchain := chain_induction (motive := fun e ss => ∃ h, motive (.term e) ss h)
      ⟨_, factor head ih⟩ fun l hl e ts ⟨_, he⟩ =>
        ⟨_, product _ (ops l hl) (operands l hl) he (ihs l hl)⟩
    exact hchain.2
  | signed sign operand ih => exact signed sign operand ih
  | literal n => exact literal n
  | call name arguments ih => exact call name arguments ih
  | group inner ih => exact group inner ih
  | noArguments => exact noArguments
  | @arguments first ss items head others ih ihs =>
    have hitems := arguments_induction
      (motive := fun es ss => es ≠ [] ∧ ∃ h, motive (.arguments es) ss h)
      ⟨by simp, _, argument head ih⟩ fun i hi es ts ⟨hne, _, hes⟩ =>
        ⟨by simp, _, comma _ hne (others i hi) hes (ihs i hi)⟩
    exact hitems.2.2

/-! ## Viability -/

/-- What stands in front of a start of an expression is one as well. -/
theorem Completable.start {ss ts : List Symbol} (h : Completable (ss ++ ts)) : Completable ss := by
  obtain ⟨rest, hs⟩ := h
  exact ⟨ts ++ rest, by simpa using hs⟩

theorem viable_finish {ss : List Symbol} : Viable (ss ++ [.finish]) ↔ Sentence ss := by
  simp [Viable]

theorem viable_iff_completable {ss : List Symbol} (h : ss.getLast? ≠ some .finish) :
    Viable ss ↔ Completable ss := by
  simp [Viable, h]

end Grammar
end Reckoner
