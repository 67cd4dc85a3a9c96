import Reckoner.Number
import Reckoner.Text.Letter

/-!
# Documents

The values of a JSON document. Truth values are no numbers, integers are no doubles, and the fields
of an object keep the order in which they were written.
-/
namespace Reckoner

open Text

/-- A value of a document. -/
inductive Json where
  /-- The absent value. -/
  | null
  /-- A truth value. -/
  | bool (b : Bool)
  /-- A number. -/
  | number (n : Number)
  /-- A text. -/
  | string (s : List Letter)
  /-- A list of values. -/
  | array (items : List Json)
  /-- Fields with their names, in order. -/
  | object (fields : List (List Letter × Json))
  deriving Repr, Inhabited

namespace Json

/-- The integer as a value. -/
def int (n : Int) : Json :=
  .number (.int n)

/-- The string as a value. -/
def text (s : String) : Json :=
  .string (letters s)

/-- An object from its fields. -/
def fields (fs : List (String × Json)) : Json :=
  .object (fs.map fun f => (letters f.1, f.2))

end Json
end Reckoner
