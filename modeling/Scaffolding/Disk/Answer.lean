import Scaffolding.Disk.Fault
import Scaffolding.Failure
import Scaffolding.Installation

/-!
# What the answers of a disk mean to a script

A disk answers an order with a fault, and a script takes failures.  A template is unavailable when
there is no entry where it should be, and unreadable when reading it fails in any other way.
-/

namespace Scaffolding.Disk

variable {α : Type}

/-- What the answer to making a directory means. -/
def directoryAnswer (path : Path) : Except SystemFault α → Except Failure α
  | .ok answer => .ok answer
  | .error fault => .error (.filesystem path ("Failed to create directory: " ++ fault.message))

/-- What the answer to writing a file means. -/
def fileAnswer (path : Path) : Except SystemFault α → Except Failure α
  | .ok answer => .ok answer
  | .error fault => .error (.filesystem path ("Failed to write file: " ++ fault.message))

/-- The text that the bytes of a file spell. -/
def textAnswer : Except SystemFault Bytes → Except SystemFault String
  | .ok content =>
    match Text.decode? content with
    | some text => .ok text
    | none => .error .notText
  | .error fault => .error fault

/-- What the answer to reading the file of a template means. -/
def templateAnswer (templates : Path) (template : Template) (answer : Except SystemFault Bytes) :
    Except Failure String :=
  let path := Installation.templateFile templates template
  match textAnswer answer with
  | .ok text => .ok text
  | .error fault =>
    if fault = .noEntry then
      .error (.templateUnavailable template.fileName path fault.message)
    else .error (.templateUnreadable template.fileName path fault.message)

end Scaffolding.Disk
