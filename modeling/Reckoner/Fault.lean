import Reckoner.Expr.Parser

/-!
# Faults

Everything that can go wrong with an expression: its text, its evaluation, the calls of functions,
and what callers' own functions raise. Each fault is a cause; its wording is `Fault.message`.
-/
namespace Reckoner

/-- Why an operator has no result. -/
inductive Overflow where
  /-- An operand or the result is out of range. -/
  | range (fault : RangeFault)
  /-- The result is not finite. -/
  | result (x : Float)
  deriving Repr

/-- What can go wrong with an expression. -/
inductive Fault where
  /-- The text is no expression. -/
  | unreadable (fault : SyntaxFault)
  /-- A divisor is zero. -/
  | divisionByZero
  /-- An operator has no result. -/
  | overflow (op : Operator) (cause : Overflow)
  /-- No function has the name. -/
  | unknownFunction (name : String)
  /-- A function failed, or gave no finite number. -/
  | failedCall (name : String) (cause : Fault)
  /-- A number is out of range. -/
  | range (fault : RangeFault)
  /-- A builtin function got more arguments than it takes. -/
  | tooManyArguments (callee : String) (takes given : Nat)
  /-- A builtin function got fewer arguments than it takes. -/
  | missingArguments (callee : String) (missing : List String)
  /-- A defined function got arguments. -/
  | takesNoArguments (name : String) (given : Nat)
  /-- An exponent is negative. -/
  | negativeExponent
  /-- A lower bound exceeds the upper bound. -/
  | crossedBounds
  /-- There is nothing to choose from. -/
  | nothingToCompare (callee : String)
  /-- The result of a function is no number. -/
  | nonNumeric (shown : String)
  /-- The result of a function is not finite. -/
  | nonFinite (x : Float)
  /-- A value cannot be shown, since it holds an integer of too many digits. -/
  | oversized
  /-- A sign that does not exist. -/
  | unsupportedSign (text : String)
  /-- An operator that does not exist. -/
  | unsupportedOperator (text : String)
  /-- A caller's function failed for a reason of its own. -/
  | raised (label text : String)
  deriving Repr

/-- Whether a fault is one of evaluating an expression. What a function fails for is none: it is only
the cause of a failed call. -/
def Fault.isEvaluation : Fault → Bool
  | .divisionByZero | .overflow .. | .unknownFunction _ | .failedCall .. => true
  | _ => false

/-- Whether a fault is one of the expression language: of reading an expression or of evaluating it. -/
def Fault.isExpression : Fault → Bool
  | .unreadable _ => true
  | fault => fault.isEvaluation

/-- Why an operator has no result, in words. -/
def Overflow.message : Overflow → String
  | .range fault => fault.message
  | .result x => "result is " ++ Double.text x

/-- A list of names in words, each in quotation marks. -/
def enumerate : List String → String
  | [] => ""
  | [a] => Text.quote a
  | [a, b] => Text.quote a ++ " and " ++ Text.quote b
  | names =>
    ", ".intercalate (names.dropLast.map Text.quote) ++ ", and " ++
      Text.quote (names.getLast?.getD "")

/-- A noun with its ending, by count. -/
def plural (noun : String) (count : Nat) : String :=
  if count = 1 then noun else noun ++ "s"

/-- How a fault is reported. -/
def Fault.message : Fault → String
  | .unreadable fault => fault.message
  | .divisionByZero => "Division by zero"
  | .overflow op cause => "Numeric overflow in '" ++ op.text ++ "': " ++ cause.message
  | .unknownFunction name => "Unknown function: " ++ name
  | .failedCall name cause => "Error calling function " ++ name ++ ": " ++ cause.message
  | .range fault => fault.message
  | .tooManyArguments callee takes given =>
    callee ++ "() takes " ++ toString takes ++ plural " positional argument" takes ++ " but " ++
      toString given ++ (if given = 1 then " was given" else " were given")
  | .missingArguments callee missing =>
    callee ++ "() missing " ++ toString missing.length ++
      plural " required positional argument" missing.length ++ ": " ++ enumerate missing
  | .takesNoArguments name given =>
    name ++ "() takes no arguments (" ++ toString given ++ " given)"
  | .negativeExponent => "pow exponent must be non-negative"
  | .crossedBounds => "clamp lower bound exceeds upper bound"
  | .nothingToCompare callee => callee ++ "() arg is an empty sequence"
  | .nonNumeric shown => "returned non-numeric value " ++ shown
  | .nonFinite x => "returned non-finite value " ++ Double.text x
  | .oversized =>
    "Exceeds the limit (" ++ toString Numeral.digitLimit ++ " digits) for integer string " ++
      "conversion; use sys.set_int_max_str_digits() to increase the limit"
  | .unsupportedSign text => "Unsupported unary operator: " ++ text
  | .unsupportedOperator text => "Unsupported binary operator: " ++ text
  | .raised _ text => text

namespace Expr

/-- A signed expression, if the sign exists. -/
def signed? (sign : String) (operand : Expr) : Except Fault Expr :=
  match Sign.ofText? sign with
  | some sign => .ok (.signed sign operand)
  | none => .error (.unsupportedSign sign)

/-- Two expressions around an operator, if the operator exists. -/
def binary? (op : String) (left right : Expr) : Except Fault Expr :=
  match Operator.ofText? op with
  | some op => .ok (.binary op left right)
  | none => .error (.unsupportedOperator op)

end Expr
end Reckoner
