import Scaffolding.Command.Conclusion
import Scaffolding.Disk.Surroundings
import Scaffolding.Environment.File

/-!
# A run of the command

A run reads the file of assignments in the working directory, then the arguments and what it is to
log, and then makes or foresees the provider they name on a disk.
-/

namespace Scaffolding.Command

/-- The environment with the assignments of a file that was read, if it was there. -/
def loadEnvironment (environment : Environment) :
    Except SystemFault Bytes → Except Environment.Halt Environment
  | .ok content => environment.load content
  | .error fault =>
    if fault = .noEntry then .ok environment else .error (.fault (.unreadable fault))

/-- A run of the command with some arguments, in an environment and on a disk: how it ends, and the
disk afterwards. -/
def run (words : List Bytes) (environment : Environment) (console : Console) (disk : Disk) :
    Conclusion × Disk :=
  match loadEnvironment environment (disk.read environmentFile) with
  | .error halt => (.ofHalt halt, disk)
  | .ok environment =>
    match Arguments.parse words environment with
    | .error stop => (.ofStop stop console, disk)
    | .ok invocation =>
      match chooseFilter invocation environment with
      | .error crash => (.ofCrash crash, disk)
      | .ok filter =>
        match invocation.request with
        | .error problem => (.ofRefusal invocation filter problem, disk)
        | .ok request =>
          let run := request.script.exec (Disk.surroundings request.templates) disk
          let events := Act.events run.acts
          (.ofAnswer invocation filter console request events run.answer, run.state)

end Scaffolding.Command
