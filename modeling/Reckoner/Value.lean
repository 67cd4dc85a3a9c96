import Reckoner.Json
import Reckoner.Text.Quoted

/-!
# Values

What functions give back: mostly numbers, but a caller's function may give back any document, and a
power of a negative number may be complex. Values are shown in messages and log lines.
-/
namespace Reckoner

open Text

/-- What a function gives back. -/
inductive Value where
  /-- A number, or another value of a document. -/
  | json (value : Json)
  /-- A complex number. -/
  | complex (re im : Float)
  deriving Repr

namespace Value

/-- A number as a value. -/
def number (n : Number) : Value :=
  .json (.number n)

/-- The number that a value is, if it is one. -/
def number? : Value → Option Number
  | .json (.number n) => some n
  | _ => none

/-- The number that a value counts as, if any: truth values count as one and zero. -/
def count? : Value → Option Number
  | .json (.bool b) => some (.int (if b then 1 else 0))
  | v => v.number?

/-- The texts of several values, with commas between them. -/
def commas : List (List Char) → List Char
  | [] => []
  | [text] => text
  | text :: texts => text ++ ',' :: ' ' :: commas texts

/-- How an integer is shown, unless it has too many digits. -/
def showInt? (n : Int) : Option (List Char) :=
  if Numeral.isConvertible n then some (Numeral.writeInt n).toList else none

mutual
/-- How a document is shown, unless it holds an integer of too many digits. -/
def showJson? : Json → Option (List Char)
  | .null => some "None".toList
  | .bool true => some "True".toList
  | .bool false => some "False".toList
  | .number (.int n) => showInt? n
  | .number (.float x) => some (Double.text x).toList
  | .string s => some (Quoted.ofLetters s).toList
  | .array items => (showItems? items).map fun texts => '[' :: (commas texts ++ [']'])
  | .object fields => (showFields? fields).map fun texts => '{' :: (commas texts ++ ['}'])
termination_by structural value => value

/-- How the items of a list are shown. -/
def showItems? : List Json → Option (List (List Char))
  | [] => some []
  | item :: items => do
    let text ← showJson? item
    let texts ← showItems? items
    return text :: texts
termination_by structural items => items

/-- How the fields of an object are shown. -/
def showFields? : List (List Letter × Json) → Option (List (List Char))
  | [] => some []
  | (name, value) :: fields => do
    let text ← showJson? value
    let texts ← showFields? fields
    return ((Quoted.ofLetters name).toList ++ ':' :: ' ' :: text) :: texts
termination_by structural fields => fields
end

/-- How a complex number is shown: the imaginary part alone if the real part is a plain zero, and
both parts in parentheses otherwise. -/
def showComplex (re im : Float) : String :=
  let part := Double.write Decimal.Layout.part
  let real := part re
  if real = "0" then part im ++ "j"
  else
    let imaginary := part im
    let imaginary := if imaginary.startsWith "-" then imaginary else "+" ++ imaginary
    "(" ++ real ++ imaginary ++ "j)"

/-- How a value is shown, unless it holds an integer of too many digits. -/
def show? : Value → Option String
  | .json value => (showJson? value).map String.ofList
  | .complex re im => some (showComplex re im)

end Value
end Reckoner
