import Reckoner.Expr
import Reckoner.Output.Markup

/-!
# Outlines

An expression is shown as an outline: a line for each part, and the operands or arguments of a part
indented below it.
-/
namespace Reckoner

/-- A label and the parts below it. -/
inductive Outline where
  /-- A label, which is markup, and the parts below it. -/
  | node (label : String) (parts : List Outline)
  deriving Repr

namespace Expr

/-- The label of an expression. -/
def label (colored : Bool) (e : Expr) : String :=
  Markup.brightBlue e.form colored ++ " " ++ if colored then Markup.escape e.detail else e.detail

mutual
/-- The outline of an expression. -/
def outline (colored : Bool) : Expr → Outline
  | .literal n => .node (label colored (.literal n)) []
  | .signed sign operand => .node (label colored (.signed sign operand)) [outline colored operand]
  | .binary op left right =>
    .node (label colored (.binary op left right)) [outline colored left, outline colored right]
  | .call name arguments =>
    .node (label colored (.call name arguments)) (outlineAll colored arguments)
termination_by structural e => e

/-- The outlines of several expressions. -/
def outlineAll (colored : Bool) : List Expr → List Outline
  | [] => []
  | e :: es => outline colored e :: outlineAll colored es
termination_by structural es => es
end

end Expr
end Reckoner
