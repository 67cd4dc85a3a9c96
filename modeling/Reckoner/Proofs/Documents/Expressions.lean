import Reckoner.Output.Console
import Reckoner.Proofs.Documents.Reading
import Reckoner.Proofs.LongIntegers

/-!
# Expressions are read back from documents

A document shows every part of an expression in a form of its own, so the expression can be decoded
from it (`ofJson?_toJson`). With the reader of documents this makes a decoder of texts: it recovers
each expression from the text that is printed for it, long literals included.
-/
namespace Reckoner

open Text

/-! ## The decoder -/

namespace Expr

mutual
/-- The expression that a document shows. -/
def ofJson? : Json → Option Expr
  | .object [(_, .string form), (_, .number (.int n))] =>
    if form = letters "IntegerLiteral" then some (.literal n) else none
  | .object [(_, .string form), (_, .string sign), (_, .object operand)] => do
    if form = letters "UnaryOp" then
      return .signed (← (ofLetters? sign).bind Sign.ofText?) (← ofJson? (.object operand))
    else none
  | .object [(_, .string form), (_, .string name), (_, .array arguments)] => do
    if form = letters "FunctionCall" then
      return .call (← ofLetters? name) (← ofJsonAll? arguments)
    else none
  | .object [(_, .string form), (_, .string op), (_, left), (_, right)] => do
    if form = letters "BinaryOp" then
      return .binary (← (ofLetters? op).bind Operator.ofText?) (← ofJson? left) (← ofJson? right)
    else none
  | _ => none
termination_by structural value => value

/-- The expressions that documents show. -/
def ofJsonAll? : List Json → Option (List Expr)
  | [] => some []
  | value :: values => do return (← ofJson? value) :: (← ofJsonAll? values)
termination_by structural values => values
end

theorem toJson_eq_object (e : Expr) : ∃ fields, e.toJson = .object fields := by
  cases e <;> exact ⟨_, rfl⟩

theorem ofJsonAll?_toJsonAll {es : List Expr} (h : ∀ e ∈ es, ofJson? e.toJson = some e) :
    ofJsonAll? (toJsonAll es) = some es := by
  induction es with
  | nil => rfl
  | cons e es ih =>
    obtain ⟨first, others⟩ := List.forall_mem_cons.mp h
    rw [toJsonAll, ofJsonAll?, first, ih others]
    rfl

/-- **Every expression is decoded from its document.** -/
theorem ofJson?_toJson (e : Expr) : ofJson? e.toJson = some e := by
  induction e using Expr.induction with
  | literal n => rfl
  | signed sign e ih =>
    have hsign : (ofLetters? (letters sign.text)).bind Sign.ofText? = some sign := by
      rw [ofLetters?_letters]
      exact sign.ofText?_text
    obtain ⟨fields, hfields⟩ := e.toJson_eq_object
    rw [hfields] at ih
    rw [toJson, hfields]
    simp only [Json.fields, Json.text, List.map_cons, List.map_nil, ofJson?, if_true, hsign, ih]
    rfl
  | binary op l r ihl ihr =>
    have hop : (ofLetters? (letters op.text)).bind Operator.ofText? = some op := by
      rw [ofLetters?_letters]
      exact op.ofText?_text
    rw [toJson]
    simp only [Json.fields, Json.text, List.map_cons, List.map_nil, ofJson?, if_true, hop, ihl, ihr]
    rfl
  | call name es ih =>
    rw [toJson]
    simp only [Json.fields, Json.text, List.map_cons, List.map_nil, ofJson?, if_true,
      ofLetters?_letters, ofJsonAll?_toJsonAll ih]
    rfl

/-- The documents of expressions are read back from their texts. -/
theorem legible_toJson (e : Expr) : e.toJson.Legible := by
  induction e using Expr.induction with
  | literal n =>
    refine .fields (by simp) ?_
    simp only [List.forall_mem_cons]
    exact ⟨.text _, .int n, List.forall_mem_nil _⟩
  | signed sign e ih =>
    refine .fields (by simp) ?_
    simp only [List.forall_mem_cons]
    exact ⟨.text _, .text _, ih, List.forall_mem_nil _⟩
  | binary op l r ihl ihr =>
    refine .fields (by simp) ?_
    simp only [List.forall_mem_cons]
    exact ⟨.text _, .text _, ihl, ihr, List.forall_mem_nil _⟩
  | call name es ih =>
    have harguments : ∀ item ∈ toJsonAll es, item.Legible := by
      rw [toJsonAll_eq, List.forall_mem_map]
      exact ih
    refine .fields (by simp) ?_
    simp only [List.forall_mem_cons]
    exact ⟨.text _, .text _, .array harguments, List.forall_mem_nil _⟩

/-- The expression that the text of a document shows. -/
def ofDocument? (text : String) : Option Expr :=
  match Json.read none text.toList with
  | .ok value => ofJson? value
  | .error _ => none

/-- An expression is decoded from its text, and from the line that it is printed on. -/
theorem ofDocument?_dump {e : Expr} (h : ∀ name ∈ e.called, Json.Unmarked name) :
    ofDocument? e.toJson.dump = some e ∧ ofDocument? (e.toJson.dump ++ "\n") = some e := by
  obtain ⟨hplain, hline⟩ := Json.read_render e.legible_toJson
  have hdump : e.toJson.dump.toList = e.toJson.render := by
    rw [(Json.Plain.toJson h).dump, String.toList_ofList]
  have hbreak : "\n".toList = ['\n'] := rfl
  rw [ofDocument?, ofDocument?, String.toList_append, hdump, hbreak, hplain, hline]
  exact ⟨e.ofJson?_toJson, e.ofJson?_toJson⟩

/-- Without colors, the document of an expression is printed on a line of its own. -/
theorem print_document (e : Expr) :
    (Console.mk false).print (prepareExpr e .json false) = .ok (e.toJson.dump ++ "\n") :=
  Console.print_line _ _

/-- **Documents of expressions are faithful.** If no name in an expression holds a NUL character,
then the expression is decoded from its document, as it is made and as it is printed. So the
documents of two such expressions are the same text only if the expressions are the same. -/
theorem dump_toJson_faithful {a b : Expr} (ha : ∀ name ∈ a.called, Json.Unmarked name)
    (hb : ∀ name ∈ b.called, Json.Unmarked name) :
    ofDocument? a.toJson.dump = some a ∧
    (∃ text, (Console.mk false).print (prepareExpr a .json false) = .ok text ∧
      ofDocument? text = some a) ∧
    (a.toJson.dump = b.toJson.dump ↔ a = b) := by
  obtain ⟨hdocument, hline⟩ := ofDocument?_dump ha
  refine ⟨hdocument, ⟨_, print_document a, hline⟩, ?_⟩
  constructor
  · intro hab
    rw [hab, (ofDocument?_dump hb).1] at hdocument
    exact (Option.some.inj hdocument).symm
  · rintro rfl
    rfl

/-- Two expressions that differ in the last digit of a long negative literal. The name in front of it
takes a quotation mark, a backslash, a code unit and two surrogates to write. -/
theorem dump_toJson_faithful_long :
    let e := fun n => call "\"\\é😀" [literal n, call "f" []]
    let a := e (-10 ^ 600)
    let b := e (-10 ^ 600 - 1)
    ((∀ name ∈ a.called, Json.Unmarked name) ∧ ∀ name ∈ b.called, Json.Unmarked name) ∧
      ofDocument? a.toJson.dump = some a ∧
      (∃ text, (Console.mk false).print (prepareExpr a .json false) = .ok text ∧
        ofDocument? text = some a) ∧
      a.toJson.dump ≠ b.toJson.dump := by
  intro e a b
  have hnames : ∀ n, ∀ name ∈ (e n).called, Json.Unmarked name := by
    simp [e, called, Json.Unmarked]
  have hne : a ≠ b := by
    have hpred : ∀ n : Int, n ≠ n - 1 := fun n => by omega
    intro hab
    injection hab with _ harguments
    injection harguments with hliteral _
    injection hliteral with hn
    exact hpred _ hn
  obtain ⟨hdocument, hprinted, hsame⟩ :=
    dump_toJson_faithful (hnames (-10 ^ 600)) (hnames (-10 ^ 600 - 1))
  exact ⟨⟨hnames _, hnames _⟩, hdocument, hprinted, mt hsame.mp hne⟩

end Expr
end Reckoner
