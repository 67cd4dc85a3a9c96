import Reckoner.CommandLine.Option

/-!
# Commands and their arguments

There are three commands: one evaluates an expression, one lists its tokens, and one shows its
structure. What the command line leaves open comes from the configuration, and what that leaves open
has a fixed default. Of a setting that is given twice the last one counts.
-/
namespace Reckoner

/-- The commands. -/
inductive Command where
  /-- Evaluates an expression. -/
  | eval
  /-- Lists the tokens of an expression. -/
  | tokens
  /-- Shows the structure of an expression. -/
  | parse
  deriving DecidableEq, Repr

namespace Command

/-- The name of a command. -/
def name : Command → String
  | .eval => "eval"
  | .tokens => "tokens"
  | .parse => "parse"

/-- The command of a given name. -/
def ofName? (name : String) : Option Command :=
  [eval, tokens, parse].find? (·.name = name)

end Command

/-- What an option of a command sets. -/
inductive Setting where
  /-- Whether output has colors. -/
  | color (value : Bool)
  /-- The output format. -/
  | out (name : String)
  /-- Whether the builtin functions are there. -/
  | builtins (value : Bool)
  /-- The file of the configuration. -/
  | config (name : String)
  deriving DecidableEq, Repr

/-- The options of a command. -/
def Command.options (c : Command) : OptionTable Setting where
  long :=
    [("--config", .valued .config), ("--color", .flag (.color true)),
      ("--no-color", .flag (.color false)), ("--out", .valued .out)] ++
    match c with
    | .eval => [("--builtins", .flag (.builtins true)), ("--no-builtins", .flag (.builtins false))]
    | _ => []
  short := []

/-- The options in front of the command; the only setting is that the log is shown. -/
def programOptions : OptionTable Unit where
  long := [("--verbose", .flag ())]
  short := [('v', ())]

/-- The arguments of a command. -/
structure Arguments where
  /-- The text of the expression. -/
  expression : String
  /-- The file of the configuration. -/
  config : String
  /-- Whether output has colors, if it is said anywhere. -/
  color? : Option Bool
  /-- The output format. -/
  out : String
  /-- Whether the builtin functions are there. -/
  useBuiltins : Bool
  deriving DecidableEq, Repr

namespace Arguments

/-- What is set if the command line says nothing. -/
def initial (expression : String) (defaults : Defaults) : Arguments where
  expression := expression
  config := Config.defaultName
  color? := defaults.color?
  out := defaults.out?.getD OutputFormat.text.name
  useBuiltins := defaults.useBuiltins?.getD true

/-- The arguments with one setting changed. -/
def apply (a : Arguments) : Setting → Arguments
  | .color value => { a with color? := some value }
  | .out name => { a with out := name }
  | .builtins value => { a with useBuiltins := value }
  | .config name => { a with config := name }

/-- The arguments of a command from the words after its name. -/
def read (c : Command) (defaults : Defaults) (words : List String) :
    Except Complaint Arguments := do
  let (settings, arguments) ← c.options.read true words
  match arguments with
  | [] => throw (.missingArgument "EXPRESSION")
  | [expression] => return settings.foldl apply (initial expression defaults)
  | _ :: extra => throw (.extraArguments extra)

/-- The arguments by name; only the evaluation has functions. -/
def entries (a : Arguments) (c : Command) : List (String × Json) :=
  [("expression", .text a.expression), ("config", .text a.config),
    ("color_flag", (a.color?.map Json.bool).getD .null), ("out", .text a.out)] ++
  match c with
  | .eval => [("use_builtins", .bool a.useBuiltins)]
  | _ => []

end Arguments

/-- What a command line asks for. -/
structure Invocation where
  /-- Whether the log is shown. -/
  verbose : Bool
  /-- The command. -/
  command : Command
  /-- Its arguments. -/
  arguments : Arguments
  deriving DecidableEq, Repr

namespace Invocation

/-- Reads the words after the name of the program. A word that stands for no command but looks like an
option is also read as one, which may be a better complaint. -/
def read (defaults : Defaults) (words : List String) : Except Complaint Invocation := do
  let (flags, rest) ← programOptions.read false words
  match rest with
  | [] => throw .missingCommand
  | name :: rest =>
    match Command.ofName? name with
    | some command =>
      let arguments ← Arguments.read command defaults rest
      return ⟨!flags.isEmpty || defaults.verbose?.getD false, command, arguments⟩
    | none =>
      let _ ← programOptions.read false (name :: rest)
      throw (.unknownCommand name)

end Invocation
end Reckoner
