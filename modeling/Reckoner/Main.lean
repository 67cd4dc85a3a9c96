import Reckoner.CommandLine

/-!
# The program

Opens the file of the configuration, runs the command line, prints what the run reports, and ends with
its exit code.
-/
namespace Reckoner

/-- Opens a file. -/
def openFile (path : String) : IO Opened := do
  try
    let content ← IO.FS.readBinFile path
    return .bytes content.toList
  catch
    | .noFileOrDirectory .. => return .missing
    | _ => return .unreadable

end Reckoner

/-- The program. -/
def main (arguments : List String) : IO UInt32 := do
  let commandLine := "reckoner" :: arguments
  let file ← Reckoner.openFile (Reckoner.Path.normalize (Reckoner.Config.nameOf commandLine))
  let isTerminal ← (← IO.getStdout).isTty
  let report := Reckoner.runProgram file isTerminal commandLine
  for line in report.log do
    IO.eprintln line
  IO.print report.output
  match report.complaint? with
  | none => return 0
  | some complaint =>
    IO.eprintln ("Error: " ++ complaint.message)
    return UInt32.ofNat complaint.exitCode
