import Scaffolding.Environment.Assignment
import Scaffolding.Environment.Basic
import Scaffolding.Environment.Lines
import Scaffolding.Text.Quoted

/-!
# Loading a file of assignments

The assignments of a file are added to the environment one after another.  A variable that has a
text for its value keeps it, so the environment wins over the file, and an earlier line over a later
one.  References to other names follow the environment first and earlier lines second.

The string of a variable ends at a NUL, so no variable can have one in its value.  A line may well
give it such a value, and nobody looks before it is set: then loading breaks off.
-/

namespace Scaffolding.Environment

/-- What a name refers to: the variable, or else the latest line that gave it a value. -/
def refer (environment : Environment) (earlier : List Assignment) (name : String) : String :=
  match environment.text? name with
  | some value => value
  | none => ((earlier.find? (·.name = name)).map (·.value)).getD ""

/-- Whether no variable can have a text for its value. -/
def isUnfit (value : String) : Bool := value.toList.contains '\x00'

/-- What setting a variable to a value breaks off with that is unfit. -/
def Assignment.crash (assignment : Assignment) : Crash where
  message :=
    "failed to set environment variable `" ++ Text.quotedText assignment.name ++ "` to `"
      ++ Text.quotedText assignment.value ++ "`: " ++ SystemFault.zeroByte.message

/-- The environment with one more assignment, unless the variable has a text already. -/
def assign (environment : Environment) (assignment : Assignment) : Except Crash Environment :=
  if (environment.text? assignment.name).isSome then .ok environment
  else if isUnfit assignment.value then .error assignment.crash
  else .ok (environment.set assignment.name (Text.encode assignment.value))

/-- The environment with the assignments of some lines, where `earlier` has those of the lines
before, the latest first. -/
def loadLines (environment : Environment) (earlier : List Assignment) :
    List (Except Fault (List Char)) → Except Halt Environment
  | [] => .ok environment
  | .error fault :: _ => .error (.fault fault)
  | .ok line :: lines =>
    match Assignment.read (environment.refer earlier) line with
    | .error fault => .error (.fault fault)
    | .ok none => environment.loadLines earlier lines
    | .ok (some assignment) =>
      match environment.assign assignment with
      | .error crash => .error (.crash crash)
      | .ok environment => environment.loadLines (assignment :: earlier) lines

/-- The environment with the assignments of a file. -/
def load (environment : Environment) (content : Bytes) : Except Halt Environment :=
  environment.loadLines [] (logicalLines content)

end Scaffolding.Environment
