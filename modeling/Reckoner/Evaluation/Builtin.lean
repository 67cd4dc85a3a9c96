import Reckoner.Evaluation.Registry

/-!
# Builtin functions

Seven functions on numbers. Those that compare give back one of their arguments, the first one of
those that are equal. Powers of integers are exact; other powers are those of doubles, and complex
where a negative number is raised to a fraction.
-/
namespace Reckoner

/-- The larger of two things that count as numbers, the first one if neither is larger. -/
def larger {α : Type} (measure : α → Number) (a b : α) : α :=
  if (measure a).lt (measure b) then b else a

/-- The smaller of two things that count as numbers, the first one if neither is smaller. -/
def smaller {α : Type} (measure : α → Number) (a b : α) : α :=
  if (measure b).lt (measure a) then b else a

/-- A power of an integer. The powers of -1, 0 and 1 need no multiplication. -/
def integerPower (base : Int) (exponent : Nat) : Int :=
  if base.natAbs ≤ 1 then
    if exponent = 0 then 1 else if exponent % 2 = 0 then base * base else base
  else base.pow exponent

theorem integerPower_eq (base : Int) (exponent : Nat) :
    integerPower base exponent = base.pow exponent := by
  unfold integerPower
  have power : base.pow exponent = base ^ exponent := rfl
  rw [power]
  split
  · rename_i small
    have cases : base = -1 ∨ base = 0 ∨ base = 1 := by omega
    split
    · simp [*]
    · rename_i positive
      rcases cases with rfl | rfl | rfl
      · split
        · rename_i even
          obtain ⟨k, rfl⟩ := Nat.dvd_of_mod_eq_zero even
          rw [Int.pow_mul]
          exact (Int.one_pow).symm
        · rename_i odd
          obtain ⟨k, rfl⟩ : ∃ k, exponent = 2 * k + 1 := ⟨exponent / 2, by omega⟩
          rw [Int.pow_succ, Int.pow_mul]
          exact congrArg (· * (-1)) (Int.one_pow (n := k)).symm
      · rw [Int.zero_pow positive]
        exact ite_self 0
      · rw [Int.one_pow]
        exact ite_self 1
  · rfl

namespace Double

/-- The power of a negative double whose exponent is a fraction, by length and angle. -/
def complexPower (base exponent : Float) : Except RangeFault Value :=
  let length := (-base).pow exponent
  let angle := Float.atan2 0 base * exponent
  let re := length * angle.cos
  let im := length * angle.sin
  if re.isInf || im.isInf then .error .complexPower else .ok (.complex re im)

/-- A power of doubles. Two finite doubles whose power is infinite are out of range. -/
def power (base exponent : Float) : Except RangeFault Value :=
  if base.isFinite && exponent.isFinite then
    if base < 0 && exponent != exponent.floor then complexPower base exponent
    else
      let result := base.pow exponent
      if result.isInf then .error .power else .ok (.number (.float result))
  else .ok (.number (.float (base.pow exponent)))

end Double

/-- A power of numbers: exact for integers, and that of the nearest doubles otherwise. -/
def Number.power : Number → Number → Except RangeFault Value
  | .int base, .int exponent => .ok (.number (.int (integerPower base exponent.toNat)))
  | base, exponent => do
    let x ← base.toDouble
    let y ← exponent.toDouble
    Double.power x y

/-- The sum of several numbers, added to zero from left to right. -/
def Number.sum (numbers : List Number) : Except RangeFault Number :=
  numbers.foldlM Number.add (.int 0)

/-- The sign of a number as -1, 0 or 1; zero for what is no number. -/
def Number.sign (n : Number) : Number :=
  .int ((if (Number.int 0).lt n then 1 else 0) - (if n.lt (.int 0) then 1 else 0))

/-- The builtin functions. -/
inductive Builtin where
  /-- The number without its sign. -/
  | abs
  /-- A number within bounds. -/
  | clamp
  /-- The largest number. -/
  | max
  /-- The smallest number. -/
  | min
  /-- A power. -/
  | pow
  /-- The sign as -1, 0 or 1. -/
  | sign
  /-- The sum. -/
  | sum
  deriving DecidableEq, Repr

namespace Builtin

/-- All builtin functions. -/
def all : List Builtin :=
  [.abs, .clamp, .max, .min, .pow, .sign, .sum]

/-- The name by which expressions call a builtin function. -/
def name : Builtin → String
  | .abs => "abs"
  | .clamp => "clamp"
  | .max => "max"
  | .min => "min"
  | .pow => "pow"
  | .sign => "sign"
  | .sum => "sum"

/-- The builtin function of a name. -/
def ofName? (name : String) : Option Builtin :=
  all.find? (·.name = name)

/-- The name in complaints about the number of arguments. -/
def label (b : Builtin) : String :=
  "_func_" ++ b.name

/-- The fault of a builtin function with these parameters that got another number of arguments. -/
def arityFault (b : Builtin) (parameters : List String) (given : Nat) : Fault :=
  if parameters.length < given then .tooManyArguments b.label parameters.length given
  else .missingArguments b.label (parameters.drop given)

/-- A result within range. -/
def ranged {α : Type} : Except RangeFault α → Except Fault α
  | .ok a => .ok a
  | .error fault => .error (.range fault)

/-- What a builtin function gives for arguments that count as numbers: `measure` is the number that an
argument counts as, and `wrap` is the argument itself as a value. -/
def applyTo {α : Type} (measure : α → Number) (wrap : α → Value) (b : Builtin)
    (arguments : List α) : Except Fault Value :=
  match b, arguments with
  | .abs, [value] => .ok (.number (measure value).abs)
  | .abs, _ => .error (b.arityFault ["value"] arguments.length)
  | .clamp, [value, low, high] =>
    if (measure high).lt (measure low) then .error .crossedBounds
    else .ok (wrap (larger measure low (smaller measure high value)))
  | .clamp, _ => .error (b.arityFault ["value", "low", "high"] arguments.length)
  | .max, [] => .error (.nothingToCompare b.name)
  | .max, first :: others => .ok (wrap (others.foldl (larger measure) first))
  | .min, [] => .error (.nothingToCompare b.name)
  | .min, first :: others => .ok (wrap (others.foldl (smaller measure) first))
  | .pow, [base, exponent] =>
    if (measure exponent).lt (.int 0) then .error .negativeExponent
    else ranged ((measure base).power (measure exponent))
  | .pow, _ => .error (b.arityFault ["base", "exponent"] arguments.length)
  | .sign, [value] => .ok (.number (measure value).sign)
  | .sign, _ => .error (b.arityFault ["value"] arguments.length)
  | .sum, _ => (ranged (Number.sum (arguments.map measure))).map .number

/-- What a builtin function gives for numbers. -/
def apply (b : Builtin) (arguments : List Number) : Except Fault Value :=
  b.applyTo id .number arguments

/-- What a builtin function gives for values, if all of them count as numbers. -/
def applyValues? (b : Builtin) (arguments : List Value) : Option (Except Fault Value) :=
  let counted := arguments.mapM fun v => v.count?.map fun n => (n, v)
  counted.map (b.applyTo Prod.fst Prod.snd)

/-- A builtin function among others. -/
def function (b : Builtin) : Function :=
  fun arguments => Run.ofExcept (b.apply arguments)

end Builtin

/-- The builtin functions by name. -/
def Registry.builtins : Registry :=
  Builtin.all.map fun b => (b.name, b.function)

end Reckoner
