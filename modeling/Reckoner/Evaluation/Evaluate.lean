import Reckoner.Evaluation.Arithmetic
import Reckoner.Evaluation.Registry

/-!
# Evaluation

Operands are evaluated from left to right and none is left out. The function of a call is looked up
before its arguments are evaluated. A fault inside a function becomes a failed call of that function
and leaves a log line; faults in operands and arguments pass unchanged.
-/
namespace Reckoner

/-- The log line of a failed call. -/
def failureLine (name : String) (arguments : List Number) (cause : Fault) : String :=
  "Function " ++ name ++ "(" ++ ", ".intercalate (arguments.map Number.text) ++ ") failed: " ++
    cause.message

/-- The number that a function gave. -/
def accept (name : String) (result : Value) : Except Fault Number :=
  match result.number? with
  | some (.int n) => .ok (.int n)
  | some (.float x) =>
    if x.isFinite then .ok (.float x) else .error (.failedCall name (.nonFinite x))
  | none =>
    match result.show? with
    | some shown => .error (.failedCall name (.nonNumeric shown))
    | none => .error .oversized

/-- Calls a function. -/
def Function.call (name : String) (f : Function) (arguments : List Number) : Run Number := do
  let result ← tryCatch (f arguments) fun cause => do
    Run.logLine (failureLine name arguments cause)
    throw (.failedCall name cause)
  Run.ofExcept (accept name result)

namespace Expr

mutual
/-- The value of an expression. -/
def evaluate (registry : Registry) : Expr → Run Number
  | .literal n => pure (.int n)
  | .signed sign operand => do
    let value ← evaluate registry operand
    return sign.apply value
  | .binary op left right => do
    let x ← evaluate registry left
    let y ← evaluate registry right
    Run.ofExcept (op.apply x y)
  | .call name arguments =>
    match registry.get? name with
    | none => throw (.unknownFunction name)
    | some f => do
      let values ← evaluateAll registry arguments
      f.call name values
termination_by structural e => e

/-- The values of several expressions, from left to right. -/
def evaluateAll (registry : Registry) : List Expr → Run (List Number)
  | [] => pure []
  | e :: es => do
    let value ← evaluate registry e
    let values ← evaluateAll registry es
    return value :: values
termination_by structural es => es
end

end Expr

/-- The value of the expression that a text spells. -/
def evaluateText (registry : Registry) (text : String) : Run Number :=
  match parse text with
  | .ok e => e.evaluate registry
  | .error fault => throw (.unreadable fault)

end Reckoner
