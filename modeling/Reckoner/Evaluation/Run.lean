import Reckoner.Fault
import Reckoner.Value

/-!
# Runs

An evaluation either gives a result or fails, and leaves a journal in both cases: the log lines, and
the calls of functions that record them.
-/
namespace Reckoner

/-- What an evaluation leaves behind, in order of time. -/
structure Journal where
  /-- The log lines. -/
  log : List String := []
  /-- The recorded calls: the name of the function and its arguments. -/
  calls : List (String × List Number) := []
  deriving Repr

/-- A computation that may fail and writes to a journal. -/
abbrev Run : Type → Type :=
  ExceptT Fault (StateM Journal)

namespace Run

/-- Writes a log line. -/
def logLine (line : String) : Run Unit :=
  modify fun journal => { journal with log := journal.log ++ [line] }

/-- Records the call of a function. -/
def recordCall (name : String) (arguments : List Number) : Run Unit :=
  modify fun journal => { journal with calls := journal.calls ++ [(name, arguments)] }

/-- A result that is already there. -/
def ofExcept {α : Type} : Except Fault α → Run α
  | .ok a => pure a
  | .error fault => throw fault

/-- The result of a computation that finds a given journal, and the journal that it leaves. -/
def on {α : Type} (x : Run α) (j : Journal) : Except Fault α × Journal :=
  (ExceptT.run x).run j

/-- The result of a computation and the journal that it leaves. -/
def start {α : Type} (run : Run α) : Except Fault α × Journal :=
  run.on {}

end Run

/-- A function takes any number of numbers. -/
abbrev Function : Type :=
  List Number → Run Value

/-- A function that records each of its calls. -/
def Function.recorded (name : String) (body : List Number → Except Fault Value) : Function :=
  fun arguments => do
    Run.recordCall name arguments
    Run.ofExcept (body arguments)

end Reckoner
