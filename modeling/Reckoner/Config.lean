import Reckoner.Config.Sections
import Reckoner.Files
import Reckoner.Json.Reader
import Reckoner.Text.Utf8

/-!
# Configuration

The configuration is a file with a document in it, named on the command line. A file that is not
there is an empty configuration.
-/
namespace Reckoner

/-- A configuration that has been read. -/
structure Config where
  /-- The default options. -/
  defaults : Defaults := {}
  /-- The defined functions, in order. -/
  functions : List (String × String) := []
  deriving Repr

namespace Config

/-- Why a configuration cannot be used. -/
inductive Fault where
  /-- It cannot be read, or says what it must not say. -/
  | malformed
  /-- Its path holds the NUL character. -/
  | impossiblePath
  /-- It is no UTF-8. -/
  | undecodable (fault : Utf8.Fault)
  /-- It holds an integer of too many digits. -/
  | oversized (limit digits : Nat)
  deriving DecidableEq, Repr

/-- How a configuration that cannot be used is reported. -/
def Fault.message : Fault → String
  | .malformed => "Malformed config"
  | .impossiblePath => "embedded null byte"
  | .undecodable fault => fault.message
  | .oversized limit digits =>
    "Exceeds the limit (" ++ toString limit ++ " digits) for integer string conversion: value has " ++
      toString digits ++ " digits; use sys.set_int_max_str_digits() to increase the limit"

/-- The file that holds the configuration if none is named. -/
def defaultName : String := ".arith.json"

/-- How the name of the file is announced. -/
def nameOption : String := "--config"

/-- The name of the file among arguments: what follows the first announcement, if anything does. -/
def nameAmong : List String → String
  | [] => defaultName
  | argument :: rest =>
    if argument.startsWith (nameOption ++ "=") then
      String.ofList (argument.toList.drop (nameOption.length + 1))
    else
      match if argument = nameOption then rest.head? else none with
      | some name => name
      | none => nameAmong rest

/-- The name of the file on a command line, whose first word is the program. -/
def nameOf (commandLine : List String) : String :=
  nameAmong (commandLine.drop 1)

/-- The object that a file holds. -/
def fields : Opened → Except Fault Fields
  | .missing => .ok []
  | .unreadable => .error .malformed
  | .impossible => .error .impossiblePath
  | .bytes content =>
    match Utf8.decode content with
    | .error fault => .error (.undecodable fault)
    | .ok text =>
      match Json.read (some Numeral.digitLimit) text with
      | .ok (.object fields) => .ok fields
      | .ok _ => .error .malformed
      | .error .malformed => .error .malformed
      | .error (.oversized limit digits) => .error (.oversized limit digits)

/-- The configuration that the fields of an object give, if all of it is acceptable. -/
def ofFields? (config : Fields) : Option Config := do
  let sections ← Sections.ofFields? config
  let defaults ← Defaults.ofFields? sections.defaults
  return ⟨defaults, sections.functions⟩

/-- The configuration that a file holds. -/
def load (file : Opened) : Except Fault Config :=
  match fields file with
  | .error fault => .error fault
  | .ok config =>
    match ofFields? config with
    | some config => .ok config
    | none => .error .malformed

end Config
end Reckoner
