import Reckoner.Config
import Reckoner.Fault
import Reckoner.Output.Markup.Reader
import Reckoner.Text.Quoted

/-!
# Options of a command line

A word that starts with a hyphen, and is not a hyphen alone, is an option. A long option may take a
value, either after an equality sign or as the next word; short options are flags and may stand in one
word. Two hyphens alone end the options. All other words are arguments; whether options may follow
them is up to the reader.
-/
namespace Reckoner

/-- What is wrong with a command line, or with what it asks for. -/
inductive Complaint where
  /-- What is asked for cannot be done. -/
  | usage (text : String)
  /-- There is no command. -/
  | missingCommand
  /-- There is no such command. -/
  | unknownCommand (name : String)
  /-- There is no such option. -/
  | unknownOption (name : String)
  /-- An option that takes no value has one. -/
  | takesNoValue (option : String)
  /-- An option that takes a value has none. -/
  | needsValue (option : String)
  /-- An argument is missing. -/
  | missingArgument (name : String)
  /-- There are too many arguments. -/
  | extraArguments (arguments : List String)
  /-- The configuration cannot be used. -/
  | config (fault : Config.Fault)
  /-- What is to be printed is no markup. -/
  | unprintable (refusal : Markup.Refusal)
  /-- An expression cannot be evaluated, for a reason that is not expected. -/
  | uncaught (fault : Fault)
  deriving Repr

namespace Complaint

/-- How a complaint is worded. -/
def message : Complaint → String
  | .usage text => text
  | .missingCommand => "Missing command."
  | .unknownCommand name => "No such command " ++ Text.quote name ++ "."
  | .unknownOption name => "No such option " ++ Text.quote name ++ "."
  | .takesNoValue option => "Option " ++ Text.quote option ++ " does not take a value."
  | .needsValue option => "Option " ++ Text.quote option ++ " requires an argument."
  | .missingArgument name => "Missing argument " ++ Text.quote name ++ "."
  | .extraArguments arguments =>
    "Got unexpected extra argument" ++ (if arguments.length = 1 then "" else "s") ++ " (" ++
      " ".intercalate arguments ++ ")"
  | .config fault => fault.message
  | .unprintable refusal => refusal.message
  | .uncaught fault => fault.message

/-- The exit code of a program that ends with a complaint. -/
def exitCode : Complaint → Nat
  | .config .malformed => 2
  | .config _ => 1
  | .unprintable _ => 1
  | .uncaught _ => 1
  | _ => 2

/-- What a fault leads to where only certain faults are expected. -/
def ofFault (expected : Fault → Bool) (fault : Fault) : Complaint :=
  if expected fault then .usage fault.message else .uncaught fault

end Complaint

/-- What an option does. -/
inductive Effect (α : Type) where
  /-- It is a setting by itself. -/
  | flag (setting : α)
  /-- It makes a setting of its value. -/
  | valued (setting : String → α)

/-- The options of a command line. -/
structure OptionTable (α : Type) where
  /-- The long options by their names. -/
  long : List (String × Effect α)
  /-- The short options, which are flags, by their letters. -/
  short : List (Char × α)

namespace OptionTable

variable {α : Type}

/-- The settings of a word of short options. -/
def cluster (table : OptionTable α) (letters : List Char) : Except Complaint (List α) :=
  letters.mapM fun letter =>
    match table.short.lookup letter with
    | some setting => .ok setting
    | none => .error (.unknownOption (String.ofList ['-', letter]))

/-- What a word that is an option says: settings, and the option that still lacks its value. -/
structure Reading (α : Type) where
  /-- The settings. -/
  settings : List α
  /-- The option that takes the next word as its value. -/
  open? : Option (String × (String → α))

/-- Reads a word that is an option. -/
def readOption (table : OptionTable α) (word : String) : Except Complaint (Reading α) :=
  let cs := word.toList
  let name := String.ofList (cs.takeWhile (· ≠ '='))
  let value? := match cs.dropWhile (· ≠ '=') with
    | _ :: value => some (String.ofList value)
    | [] => none
  match table.long.lookup name, value? with
  | some (.flag setting), none => .ok ⟨[setting], none⟩
  | some (.flag _), some _ => .error (.takesNoValue name)
  | some (.valued setting), some value => .ok ⟨[setting value], none⟩
  | some (.valued setting), none => .ok ⟨[], some (name, setting)⟩
  | none, _ =>
    if word.startsWith "--" then .error (.unknownOption name)
    else (table.cluster (cs.drop 1)).map fun settings => ⟨settings, none⟩

/-- Whether a word is an option. -/
def isOption (word : String) : Bool :=
  match word.toList with
  | '-' :: _ :: _ => true
  | _ => false

/-- Reads words into settings and arguments. If options may not follow arguments, then the first
argument ends the options. -/
def read (table : OptionTable α) (mixed : Bool) :
    List String → Except Complaint (List α × List String)
  | [] => .ok ([], [])
  | word :: words =>
    if word = "--" then .ok ([], words)
    else if isOption word then
      match table.readOption word with
      | .error complaint => .error complaint
      | .ok ⟨settings, none⟩ => do
        let (more, arguments) ← read table mixed words
        return (settings ++ more, arguments)
      | .ok ⟨settings, some (name, setting)⟩ =>
        match words with
        | [] => .error (.needsValue name)
        | value :: words => do
          let (more, arguments) ← read table mixed words
          return (settings ++ setting value :: more, arguments)
    else if mixed then do
      let (settings, arguments) ← read table mixed words
      return (settings, word :: arguments)
    else .ok ([], word :: words)

end OptionTable
end Reckoner
