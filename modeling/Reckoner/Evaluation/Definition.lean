import Reckoner.Evaluation.Builtin
import Reckoner.Evaluation.Evaluate

/-!
# Defined functions

A function can be defined by the text of an expression. It takes no arguments, and its body sees only
the functions that were there when it was defined. So no defined function can call itself, and a
later definition never changes what an earlier one means.
-/
namespace Reckoner

/-- The function of a given name that evaluates an expression. -/
def Expr.function (name : String) (body : Expr) (registry : Registry) : Function :=
  fun arguments =>
    if arguments.isEmpty then do
      let value ← body.evaluate registry
      return .number value
    else throw (.takesNoArguments name arguments.length)

namespace Registry

/-- The function of a given name that the text of an expression defines. -/
def compile (registry : Registry) (name text : String) : Except SyntaxFault Function := do
  let body ← parse text
  return body.function name registry

/-- Adds a defined function. -/
def define (registry : Registry) (name text : String) : Run Registry :=
  match registry.compile name text with
  | .ok f => do
    Run.logLine ("Registered function " ++ name ++ "() = " ++ text)
    return registry.insert name f
  | .error fault => throw (.unreadable fault)

/-- Adds defined functions, one after the other. -/
def defineAll (registry : Registry) (definitions : List (String × String)) : Run Registry :=
  definitions.foldlM (fun registry d => registry.define d.1 d.2) registry

/-- The registry of a command: the builtin functions, if they are wanted, and the defined ones. -/
def build (useBuiltins : Bool) (definitions : List (String × String)) : Run Registry :=
  defineAll (if useBuiltins then builtins else []) definitions

end Registry
end Reckoner
