import Reckoner.Config.Defaults
import Reckoner.Expr.Parser

/-!
# Sections of a configuration

A configuration has at most two sections: an object of default options, and an object of functions
that are defined by the text of an expression.
-/
namespace Reckoner

open Text

/-- Whether a name and a text define a function. -/
def isDefinition (name text : String) : Bool :=
  isName name && (parse text).isOk

/-- The sections of a configuration. -/
structure Sections where
  /-- The default options as they stand there. -/
  defaults : Fields
  /-- The defined functions, in order. -/
  functions : List (String × String)
  deriving Repr

namespace Sections

/-- The object of a section; an empty one if the section is not there. -/
def object? (config : Fields) (name : String) : Option Fields :=
  match config.get? name with
  | none => some []
  | some (.object fields) => some fields
  | some _ => none

/-- The function that a field defines. -/
def definition? : List Letter × Json → Option (String × String)
  | (name, .string text) => do
    let name ← ofLetters? name
    let text ← ofLetters? text
    if isDefinition name text then some (name, text) else none
  | _ => none

/-- The sections of a configuration, if it has no others. -/
def ofFields? (config : Fields) : Option Sections := do
  if config.all fun field => field.1 = letters "defaults" || field.1 = letters "functions" then
    let defaults ← object? config "defaults"
    let functions ← object? config "functions"
    let functions ← functions.mapM definition?
    return ⟨defaults, functions⟩
  else none

end Sections
end Reckoner
