import Reckoner.Value

/-!
# Logging

Messages are logged at a level. The logger lets those pass that reach its level, and writes them to
the stream that it was given; without a stream, warnings and worse go to the standard error stream.
Before it is configured, it lets warnings and worse pass.

The other half of the module words the two messages that commands log about themselves.
-/
namespace Reckoner

/-- How grave a message is. -/
inductive Level where
  /-- For those who look for faults. -/
  | debug
  /-- What happens. -/
  | info
  /-- What may be wrong. -/
  | warning
  /-- What is wrong. -/
  | error
  /-- What ends everything. -/
  | critical
  deriving DecidableEq, Repr

namespace Level

/-- The number of a level. -/
def number : Level → Nat
  | .debug => 10
  | .info => 20
  | .warning => 30
  | .error => 40
  | .critical => 50

/-- The name of a level. -/
def name : Level → String
  | .debug => "debug"
  | .info => "info"
  | .warning => "warning"
  | .error => "error"
  | .critical => "critical"

/-- The level of a given name. -/
def ofName? (name : String) : Option Level :=
  [debug, info, warning, error, critical].find? (·.name = name)

end Level

/-- Where log lines go. -/
inductive Stream where
  /-- The standard error stream. -/
  | stderr
  /-- A stream of the caller's, by its number. -/
  | other (index : Nat)
  deriving DecidableEq, Repr

/-- The state of a logger. -/
structure Logger where
  /-- The level that messages must reach; none before the logger is configured. -/
  level? : Option Level := none
  /-- The stream that messages are written to. -/
  stream? : Option Stream := none
  deriving DecidableEq, Repr

namespace Logger

/-- Sets a logger up to show what happens, on a given stream, or only what may be wrong. -/
def configure (verbose : Bool) (stream : Stream) : Logger :=
  if verbose then ⟨some .info, some stream⟩ else ⟨some .warning, none⟩

/-- Whether a logger lets messages of a level pass. -/
def allows (logger : Logger) (level : Level) : Bool :=
  (logger.level?.getD .warning).number ≤ level.number

/-- Where a message of a level goes, if anywhere. -/
def route? (logger : Logger) (level : Level) : Option Stream :=
  if logger.allows level then
    match logger.stream? with
    | some stream => some stream
    | none => if Level.warning.number ≤ level.number then some .stderr else none
  else none

/-- The number of the level; zero before the logger is configured. -/
def levelNumber (logger : Logger) : Nat :=
  (logger.level?.map Level.number).getD 0

/-- How many streams messages are written to. -/
def streamCount (logger : Logger) : Nat :=
  if logger.stream?.isSome then 1 else 0

/-- Whether messages are also passed on; only before the logger is configured. -/
def passesOn (logger : Logger) : Bool :=
  logger.level?.isNone

end Logger

/-- A name and a value in a log line, unless the value cannot be shown. -/
def assignment? (name : String) (value : Json) : Option String :=
  ((Value.json value).show?).map fun text => name ++ "=" ++ text

/-- The option that sets a parameter. -/
def optionName? : String → Option String
  | "color_flag" => some "--color/--no-color"
  | "out" => some "--out"
  | "use_builtins" => some "--builtins/--no-builtins"
  | "verbose" => some "--verbose"
  | _ => none

/-- Entries in the order of their names. -/
def sortByName {α : Type} (entries : List (String × α)) : List (String × α) :=
  entries.mergeSort fun a b => a.1 ≤ b.1

/-- The log line about the configuration of a command, if there is anything to say: the defaults in
the order of their parameters, and the names of the defined functions. Fails if a value cannot be
shown. -/
def defaultsLine? (command : String) (defaults : List (String × Json))
    (functions : List String) : Option (Option String) := do
  let shown ← (sortByName defaults).mapM fun entry =>
    match optionName? entry.1 with
    | some option => (assignment? option entry.2).map some
    | none => some none
  let names ←
    if functions.isEmpty then some []
    else
      let sorted := functions.mergeSort fun a b => a ≤ b
      (assignment? "functions" (.array (sorted.map .text))).map fun text => [text]
  let entries := shown.filterMap id ++ names
  return if entries.isEmpty then none
    else some ("Config defaults applied (" ++ command ++ "): " ++ ", ".intercalate entries)

/-- The log line about the arguments of a command, in the order of their names. Fails if a value
cannot be shown. -/
def argumentsLine? (command : String) (arguments : List (String × Json)) : Option String := do
  let shown ← (sortByName arguments).mapM fun entry => assignment? entry.1 entry.2
  return "Command arguments (" ++ command ++ "): " ++ ", ".intercalate shown

end Reckoner
