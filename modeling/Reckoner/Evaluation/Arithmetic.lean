import Reckoner.Fault

/-!
# Signs and operators on numbers

Division has no fraction: the quotient is cut toward zero. An operator fails if an integer is too
large for a double that it meets, and if the result is not finite.
-/
namespace Reckoner

/-- The quotient of two numbers, cut toward zero. -/
def divide (left right : Number) : Except Fault Int :=
  if right.isZero then .error .divisionByZero
  else
    match left.quotient right with
    | .ok q => .ok q
    | .error fault => .error (.range fault)

/-- The value under a sign. -/
def Sign.apply : Sign → Number → Number
  | .plus, n => n
  | .minus, n => n.neg

namespace Operator

/-- What an operator gives, finite or not. -/
def raw (op : Operator) (left right : Number) : Except Fault Number :=
  let ranged (result : Except RangeFault Number) : Except Fault Number :=
    match result with
    | .ok n => .ok n
    | .error fault => .error (.range fault)
  match op with
  | .add => ranged (left.add right)
  | .sub => ranged (left.sub right)
  | .mul => ranged (left.mul right)
  | .div => (divide left right).map .int

/-- What an operator gives. Numbers that are too large are an overflow of the operator. -/
def apply (op : Operator) (left right : Number) : Except Fault Number :=
  match op.raw left right with
  | .error (.range .undefined) => .error (.range .undefined)
  | .error (.range fault) => .error (.overflow op (.range fault))
  | .error fault => .error fault
  | .ok (.float x) => if x.isFinite then .ok (.float x) else .error (.overflow op (.result x))
  | .ok (.int n) => .ok (.int n)

end Operator
end Reckoner
