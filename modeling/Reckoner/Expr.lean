import Reckoner.Json

/-!
# Expressions

An expression is an integer literal, a signed expression, two expressions around an operator, or the
call of a function. Parentheses leave no trace in it. The literals of expressions that are read from
text are never negative, but expressions can be built that hold negative ones.
-/
namespace Reckoner

/-- A sign in front of an expression. -/
inductive Sign where
  /-- The value as it is. -/
  | plus
  /-- The opposite value. -/
  | minus
  deriving DecidableEq, Repr

/-- An operator between two expressions. -/
inductive Operator where
  /-- Addition. -/
  | add
  /-- Subtraction. -/
  | sub
  /-- Multiplication. -/
  | mul
  /-- Division without a fraction. -/
  | div
  deriving DecidableEq, Repr

/-- An expression. -/
inductive Expr where
  /-- An integer. -/
  | literal (n : Int)
  /-- A sign and its operand. -/
  | signed (sign : Sign) (operand : Expr)
  /-- An operator and its operands. -/
  | binary (op : Operator) (left right : Expr)
  /-- A function and its arguments. -/
  | call (name : String) (arguments : List Expr)
  deriving Repr, Inhabited

/-- How a sign is written. -/
def Sign.text : Sign → String
  | .plus => "+"
  | .minus => "-"

/-- The sign that is written in a given way. -/
def Sign.ofText? : String → Option Sign
  | "+" => some .plus
  | "-" => some .minus
  | _ => none

/-- How an operator is written. -/
def Operator.text : Operator → String
  | .add => "+"
  | .sub => "-"
  | .mul => "*"
  | .div => "/"

/-- The operator that is written in a given way. -/
def Operator.ofText? : String → Option Operator
  | "+" => some .add
  | "-" => some .sub
  | "*" => some .mul
  | "/" => some .div
  | _ => none

theorem Sign.ofText?_text (sign : Sign) : Sign.ofText? sign.text = some sign := by
  cases sign <;> rfl

theorem Sign.text_injective {s t : Sign} (h : s.text = t.text) : s = t := by
  have hread := congrArg Sign.ofText? h
  rw [ofText?_text, ofText?_text] at hread
  exact Option.some.inj hread

theorem Operator.ofText?_text (op : Operator) : Operator.ofText? op.text = some op := by
  cases op <;> rfl

theorem Operator.text_injective {o p : Operator} (h : o.text = p.text) : o = p := by
  have hread := congrArg Operator.ofText? h
  rw [ofText?_text, ofText?_text] at hread
  exact Option.some.inj hread

namespace Expr

mutual
/-- Whether two expressions are the same. -/
def decEq : (a b : Expr) → Decidable (a = b)
  | .literal m, .literal n => decidable_of_iff (m = n) (by simp)
  | .signed s a, .signed t b =>
    match decEq a b with
    | .isTrue h => decidable_of_iff (s = t) (by simp [h])
    | .isFalse h => .isFalse (by simp [h])
  | .binary o a b, .binary p c d =>
    match decEq a c with
    | .isTrue h =>
      match decEq b d with
      | .isTrue h' => decidable_of_iff (o = p) (by simp [h, h'])
      | .isFalse h' => .isFalse (by simp [h'])
    | .isFalse h => .isFalse (by simp [h])
  | .call f as, .call g bs =>
    match decEqAll as bs with
    | .isTrue h => decidable_of_iff (f = g) (by simp [h])
    | .isFalse h => .isFalse (by simp [h])
  | .literal _, .signed .. => .isFalse (by simp)
  | .literal _, .binary .. => .isFalse (by simp)
  | .literal _, .call .. => .isFalse (by simp)
  | .signed .., .literal _ => .isFalse (by simp)
  | .signed .., .binary .. => .isFalse (by simp)
  | .signed .., .call .. => .isFalse (by simp)
  | .binary .., .literal _ => .isFalse (by simp)
  | .binary .., .signed .. => .isFalse (by simp)
  | .binary .., .call .. => .isFalse (by simp)
  | .call .., .literal _ => .isFalse (by simp)
  | .call .., .signed .. => .isFalse (by simp)
  | .call .., .binary .. => .isFalse (by simp)

/-- Whether two lists of expressions are the same. -/
def decEqAll : (as bs : List Expr) → Decidable (as = bs)
  | [], [] => .isTrue rfl
  | [], _ :: _ => .isFalse (by simp)
  | _ :: _, [] => .isFalse (by simp)
  | a :: as, b :: bs =>
    match decEq a b with
    | .isTrue h =>
      match decEqAll as bs with
      | .isTrue h' => .isTrue (by rw [h, h'])
      | .isFalse h' => .isFalse (by simp [h'])
    | .isFalse h => .isFalse (by simp [h])
end

instance : DecidableEq Expr :=
  decEq

/-- The operands or arguments of an expression, in the order of their evaluation. -/
def children : Expr → List Expr
  | .literal _ => []
  | .signed _ operand => [operand]
  | .binary _ left right => [left, right]
  | .call _ arguments => arguments

/-- The name of the form of an expression. -/
def form : Expr → String
  | .literal _ => "IntegerLiteral"
  | .signed .. => "UnaryOp"
  | .binary .. => "BinaryOp"
  | .call .. => "FunctionCall"

/-- What an expression shows of itself besides its form. -/
def detail : Expr → String
  | .literal n => Numeral.writeInt n
  | .signed sign _ => sign.text
  | .binary op _ _ => op.text
  | .call name _ => name ++ "()"

mutual
/-- An expression as a document. -/
def toJson : Expr → Json
  | .literal n => .fields [("type", .text "IntegerLiteral"), ("value", .int n)]
  | .signed sign operand =>
    .fields [("type", .text "UnaryOp"), ("operator", .text sign.text), ("operand", toJson operand)]
  | .binary op left right =>
    .fields [("type", .text "BinaryOp"), ("operator", .text op.text), ("left", toJson left),
      ("right", toJson right)]
  | .call name arguments =>
    .fields [("type", .text "FunctionCall"), ("name", .text name),
      ("arguments", .array (toJsonAll arguments))]
termination_by structural e => e

/-- Several expressions as documents. -/
def toJsonAll : List Expr → List Json
  | [] => []
  | e :: es => toJson e :: toJsonAll es
termination_by structural es => es
end

end Expr
end Reckoner
