import Reckoner.Assoc
import Reckoner.Json
import Reckoner.Output.Format

/-!
# Default options

A configuration may give defaults for the options of the commands. An option that can be switched on
and off has two names there; both must be truth values, and not both true. Every other entry is
checked by itself, and an unknown one makes the whole unacceptable.
-/
namespace Reckoner

open Text

/-- The fields of an object. -/
abbrev Fields : Type :=
  List (List Letter × Json)

/-- The value of a field. -/
def Fields.get? (fields : Fields) (name : String) : Option Json :=
  Assoc.get? (letters name) fields

/-- The truth value of a field, if it is there; none at all if it is no truth value. -/
def Fields.flag? (fields : Fields) (name : String) : Option (Option Bool) :=
  match fields.get? name with
  | none => some none
  | some (.bool b) => some (some b)
  | some _ => none

/-- The two names of an option that can be switched on and off. -/
structure Toggle where
  /-- The name that switches it on. -/
  on : String
  /-- The name that switches it off. -/
  off : String
  deriving DecidableEq, Repr

namespace Toggle

/-- What a configuration says about an option, if it says it in an acceptable way. -/
def read? (t : Toggle) (config : Fields) : Option (Option Bool) := do
  let on ← config.flag? t.on
  let off ← config.flag? t.off
  if on = some true ∧ off = some true then none
  else if off = some true then some (some false)
  else if on = some true then some (some true)
  else some none

/-- Whether output has colors. -/
def color : Toggle :=
  ⟨"--color", "--no-color"⟩

/-- Whether the builtin functions are there. -/
def builtins : Toggle :=
  ⟨"--builtins", "--no-builtins"⟩

/-- All options that can be switched on and off. -/
def all : List Toggle :=
  [color, builtins]

/-- Whether a name is one of the two. -/
def names (t : Toggle) (name : List Letter) : Bool :=
  name = letters t.on || name = letters t.off

end Toggle

/-- The text that a configuration gives to an option, if it is acceptable: the output format must be
one that exists. -/
def stringOption? (name : String) : Json → Option (List Letter)
  | .string s =>
    if name = "--out" then
      if ((ofLetters? s).bind OutputFormat.ofName?).isSome then some s else none
    else some s
  | _ => none

/-- The defaults of the options. -/
structure Defaults where
  /-- Whether output has colors. -/
  color? : Option Bool := none
  /-- Whether the builtin functions are there. -/
  useBuiltins? : Option Bool := none
  /-- Whether the log is shown. -/
  verbose? : Option Bool := none
  /-- The output format. -/
  out? : Option String := none
  deriving DecidableEq, Repr

namespace Defaults

/-- Takes one field of a configuration into the defaults; the names of toggles are left alone. -/
def take? (defaults : Defaults) (field : List Letter × Json) : Option Defaults :=
  if Toggle.all.any (·.names field.1) then some defaults
  else if field.1 = letters "--verbose" then
    match field.2 with
    | .bool b => some { defaults with verbose? := some b }
    | _ => none
  else if field.1 = letters "--out" then
    ((stringOption? "--out" field.2).bind ofLetters?).map fun out =>
      { defaults with out? := some out }
  else none

/-- The defaults that a configuration gives, if all of it is acceptable. -/
def ofFields? (config : Fields) : Option Defaults := do
  let color ← Toggle.color.read? config
  let useBuiltins ← Toggle.builtins.read? config
  config.foldlM take? { color? := color, useBuiltins? := useBuiltins }

/-- The defaults by the names of the parameters that they are for. -/
def entries (defaults : Defaults) : List (String × Json) :=
  (defaults.color?.map fun b => ("color_flag", .bool b)).toList ++
    (defaults.out?.map fun s => ("out", .text s)).toList ++
    (defaults.useBuiltins?.map fun b => ("use_builtins", .bool b)).toList ++
    (defaults.verbose?.map fun b => ("verbose", .bool b)).toList

end Defaults

/-- The names of the commands. -/
def commandNames : List String :=
  ["eval", "tokens", "parse"]

/-- The defaults that are for a command: those of the program as a whole go to none, and only the
evaluation has functions. -/
def forCommand (command : String) (defaults : List (String × Json)) : List (String × Json) :=
  let own := Assoc.erase "verbose" defaults
  if command = "eval" then own else Assoc.erase "use_builtins" own

end Reckoner
