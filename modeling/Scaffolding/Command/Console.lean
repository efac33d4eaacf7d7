import Scaffolding.Command.Invocation
import Scaffolding.Command.Problem
import Scaffolding.Report.Json
import Scaffolding.Report.Lines

/-!
# Showing a report

A report is shown line by line on standard output, or as one JSON value.  Standard output may refuse
to be written to; then the first line that is written fails, and nothing is shown.
-/

namespace Scaffolding.Command

/-- Standard output: it takes everything, or refuses everything with a fault. -/
structure Console where
  fault : Option SystemFault
  deriving DecidableEq, Repr

/-- Whether an invocation asks for colour.  Standard output is taken to be no terminal. -/
def Invocation.inColour (invocation : Invocation) : Bool :=
  invocation.format = .human && !invocation.noColour

/-- The lines of a report for people, as an invocation asks for them. -/
def linesFor (invocation : Invocation) (report : Report) : List String :=
  if invocation.quiet then []
  else
    (report.lines invocation.dryRun).map fun line =>
      if invocation.inColour then line.coloured else line.plain

/-- Writes lines: what standard output takes, and the fault it refuses them with. -/
def Console.write (console : Console) (lines : List String) : String × Option SystemFault :=
  match console.fault, lines with
  | some fault, _ :: _ => ("", some fault)
  | _, lines => (String.join (lines.map (· ++ "\n")), none)

/-- Shows a report: what standard output takes, and the problem if there is one. -/
def Console.show (console : Console) (invocation : Invocation) (report : Report) :
    String × Option Problem :=
  if invocation.format = .json then
    match report.json? with
    | none => ("", some .unencodableReport)
    | some value =>
      let (taken, fault) := console.write [value.write .pretty]
      (taken, fault.map (.output "failed to write JSON report"))
  else
    let (taken, fault) := console.write (linesFor invocation report)
    (taken, fault.map .ofFault)

end Scaffolding.Command
