import Scaffolding.Command.Run

/-!
# The command

The command on the disk of the machine it runs on.  Everything that is decided is decided by the
definitions of `Scaffolding.Command`; here files are read and written.
-/

namespace Scaffolding.Main

/-! ## The machine -/

/-- The fault with a number, which an error may carry negated. -/
def numbered (code : UInt32) : SystemFault :=
  .number (min code (0 - code)).toNat

/-- The fault behind an error of the machine. -/
def faultOf : IO.Error → SystemFault
  | .alreadyExists _ code _ | .otherError code _ | .resourceBusy code _
  | .resourceVanished code _ | .unsupportedOperation code _ | .hardwareFault code _
  | .unsatisfiedConstraints code _ | .illegalOperation code _ | .protocolError code _
  | .timeExpired code _ | .interrupted _ code _ | .noFileOrDirectory _ code _
  | .invalidArgument _ code _ | .permissionDenied _ code _ | .resourceExhausted _ code _
  | .inappropriateType _ code _ | .noSuchThing _ code _ => numbered code
  | .unexpectedEof => .wording "unexpected end of file"
  | .userError text => .wording text

/-- Does something and catches the fault. -/
def attempt {α : Type} (action : IO α) : IO (Except SystemFault α) := do
  match ← action.toBaseIO with
  | .ok answer => return .ok answer
  | .error error => return .error (faultOf error)

/-- The bytes of a file. -/
def read (path : Path) : IO (Except SystemFault Bytes) :=
  attempt (return (← IO.FS.readBinFile path.display).toList)

/-- Whether a path leads to a directory. -/
def isDirectory (path : Path) : IO Bool := do
  match ← attempt (IO.FS.realPath path.display) with
  | .ok place => place.isDir
  | .error _ => return false

/-- Whether a path leads anywhere. -/
def isPresent (path : Path) : IO Bool :=
  return (← attempt (IO.FS.realPath path.display)).toOption.isSome

/-- Makes sure that there is a directory at a path. -/
def makeDirectory (path : Path) : IO (Except Failure Unit) := do
  if ← isDirectory path then return .ok ()
  return Disk.directoryAnswer path (← attempt (IO.FS.createDir path.display))

/-- Puts a file with a text at a path. -/
def write (path : Path) (text : String) : IO (Except Failure Unit) :=
  return Disk.fileAnswer path (← attempt (IO.FS.writeFile path.display text))

/-- The variables that the command inherits. -/
def environment : IO Environment := do
  let bytes := (← read (.ofText "/proc/self/environ")).toOption.getD []
  return ⟨(bytes.splitOn 0).filter (· ≠ [])⟩

/-! ## Running -/

/-- Runs a script on the machine. -/
def exec {α : Type} (templates : Path) : Script α → IO (List Event × Except Failure α)
  | .done answer => return ([], .ok answer)
  | .isDirectory path next => do exec templates (next (← isDirectory path))
  | .isPresent path next => do exec templates (next (← isPresent path))
  | .makeDirectory path next => do
    match ← makeDirectory path with
    | .ok () => exec templates next
    | .error failure => return ([], .error failure)
  | .write path text next => do
    match ← write path text with
    | .ok () => exec templates next
    | .error failure => return ([], .error failure)
  | .load template next => do
    let content ← read (Installation.templateFile templates template)
    match Disk.templateAnswer templates template content with
    | .ok text => exec templates (next text)
    | .error failure => return ([], .error failure)
  | .note event next => do
    let (events, answer) ← exec templates next
    return (event :: events, answer)

/-- Writes what a run shows, and gives the exit code.  What the run tells on standard error and the
exit code depend on whether standard output takes what it is given. -/
def conclude (conclusion : Command.Console → Command.Conclusion) : IO UInt32 := do
  let stdout ← IO.getStdout
  let answer ← attempt do
    stdout.putStr (conclusion ⟨none⟩).stdout
    stdout.flush
  let console : Command.Console :=
    match answer with
    | .ok () => ⟨none⟩
    | .error fault => ⟨some fault⟩
  let shown := conclusion console
  (← IO.getStderr).putStr shown.stderr
  return shown.ending.exitCode.toUInt32

/-- Runs the command with some arguments. -/
def run (arguments : List String) : IO UInt32 := do
  match Command.loadEnvironment (← environment) (← read Command.environmentFile) with
  | .error halt => conclude fun _ => .ofHalt halt
  | .ok environment =>
    match Command.Arguments.parse (arguments.map Text.encode) environment with
    | .error stop => conclude (.ofStop stop)
    | .ok invocation =>
      match Command.chooseFilter invocation environment with
      | .error crash => conclude fun _ => .ofCrash crash
      | .ok filter =>
        match invocation.request with
        | .error problem => conclude fun _ => .ofRefusal invocation filter problem
        | .ok request =>
          let (events, answer) ← exec request.templates request.script
          conclude fun console => .ofAnswer invocation filter console request events answer

end Scaffolding.Main

/-- The command line. -/
def main (arguments : List String) : IO UInt32 :=
  Scaffolding.Main.run arguments
