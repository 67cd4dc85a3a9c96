import Reckoner.CommandLine.Command
import Reckoner.Evaluation.Definition
import Reckoner.Logging
import Reckoner.Output.Console

/-!
# The command line

A run of the program reads its configuration, then its command line, then does what it is asked for.
It may end with a complaint, and leaves behind what it has printed until then. If the log is shown, it
tells what the configuration and the arguments were, and which functions were defined and failed.

Every step of a command expects faults of one kind, and they become complaints about the use of the
program. Any other fault is a complaint of its own.
-/
namespace Reckoner

/-- What a run of the program leaves behind. -/
structure Report where
  /-- The log lines that are shown. -/
  log : List String := []
  /-- What is printed. -/
  output : String := ""
  /-- The complaint that ends the run, if any. -/
  complaint? : Option Complaint

namespace Report

/-- What is printed, or the complaint that ends the run. -/
def result (report : Report) : Except Complaint String :=
  match report.complaint? with
  | none => .ok report.output
  | some complaint => .error complaint

/-- What a console prints of operations, if there is no complaint in their place, and the log lines
that go with them. -/
def printing (c : Console) : Except Complaint (List Operation) × List String → Report
  | (.error complaint, log) => { log, complaint? := some complaint }
  | (.ok operations, log) =>
    let (lines, refusal?) := c.carryOut operations
    { log, output := Console.printed lines, complaint? := refusal?.map .unprintable }

end Report

namespace Invocation

/-- A result whose fault is a complaint about the use of the program. -/
def orUsage {α ε : Type} (message : ε → String) : Except ε α → Except Complaint α
  | .ok a => .ok a
  | .error fault => .error (.usage (message fault))

/-- The expression of a text, and the registry of the builtin and defined functions. The expression is
read before the functions are defined. -/
def preparation (text : String) (useBuiltins : Bool) (functions : List (String × String)) :
    Run (Expr × Registry) :=
  match parse text with
  | .error fault => throw (.unreadable fault)
  | .ok e => do
    let registry ← Registry.build useBuiltins functions
    return (e, registry)

/-- The value of an expression among builtin and defined functions, and the log lines about it.
Reading and defining may fail with any fault of the expression language, evaluating only with a fault
of evaluation. -/
def evaluation (a : Arguments) (functions : List (String × String)) :
    Except Complaint Number × List String :=
  match (preparation a.expression a.useBuiltins functions).on {} with
  | (.error fault, journal) => (.error (.ofFault Fault.isExpression fault), journal.log)
  | (.ok (e, registry), journal) =>
    let (result, journal) := (e.evaluate registry).on journal
    (result.mapError (.ofFault Fault.isEvaluation), journal.log)

/-- What a command gives, and the log lines that it leaves. -/
def operations (command : Command) (a : Arguments) (functions : List (String × String))
    (format : OutputFormat) (colored : Bool) : Except Complaint (List Operation) × List String :=
  match command with
  | .eval =>
    let (result, log) := evaluation a functions
    (result.map fun value => prepareResult a.expression value format colored, log)
  | .tokens =>
    ((orUsage Stray.message (tokenize a.expression)).map fun tokens =>
      prepareTokens tokens format colored, [])
  | .parse =>
    ((orUsage SyntaxFault.message (parse a.expression)).map fun e => prepareExpr e format colored, [])

/-- Carries out a command. -/
def perform (i : Invocation) (functions : List (String × String)) (isTerminal : Bool) : Report :=
  let colored := Console.wantsColor i.arguments.color? isTerminal
  match OutputFormat.ofName? i.arguments.out with
  | none => { complaint? := some (.usage (OutputFormat.unsupported i.arguments.out)) }
  | some format =>
    .printing ⟨colored⟩ (operations i.command i.arguments functions format colored)

/-- The log lines about the configuration and the arguments of a command. -/
def preamble (i : Invocation) (config : Config) : List String :=
  let defaults := Assoc.erase "verbose" config.defaults.entries
  let functions := config.functions.map (·.1)
  let command := i.command.name
  ((defaultsLine? command defaults functions).bind id).toList ++
    (argumentsLine? command (i.arguments.entries i.command)).toList

/-- Carries out a command and reports on it. -/
def run (i : Invocation) (config : Config) (isTerminal : Bool) : Report :=
  let report := i.perform config.functions isTerminal
  { report with log := if i.verbose then i.preamble config ++ report.log else [] }

end Invocation

/-- A run of the program on the file of its configuration and the words of its command line, the name
of the program first. -/
def runProgram (file : Opened) (isTerminal : Bool) (commandLine : List String) : Report :=
  match Config.load file with
  | .error fault => { complaint? := some (.config fault) }
  | .ok config =>
    match Invocation.read config.defaults (commandLine.drop 1) with
    | .error complaint => { complaint? := some complaint }
    | .ok invocation => invocation.run config isTerminal

end Reckoner
