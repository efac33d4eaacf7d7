import Scaffolding.Disk.Basic
import Scaffolding.Disk.Fault

/-!
# Where a path leads on a disk

A path is walked step by step.  Every step but the last must lead to a directory, links on the way
are followed, and no more than forty links are followed in all.  What happens at the last step
depends on what the walk is for (`Purpose`): a look follows a link and takes what is there, making a
directory does not follow it, and writing a file follows it to wherever the file is to be.

- `Disk.walk` is the walk with an allowance of links;
- `Disk.locate` walks a path from the working directory.
-/

namespace Scaffolding.Disk

/-- One step of a walk. -/
inductive Step where
  /-- The step `.`, which stays. -/
  | here
  /-- The step `..`, which leads to the parent; the root directory is its own parent. -/
  | up
  /-- The step to the entry with a given name. -/
  | name (name : Bytes)
  /-- A slash at the end: what was reached must be a directory. -/
  | slash
  deriving DecidableEq, Repr

/-- What a walk is for. -/
inductive Purpose where
  /-- To see what is there; a link at the end is followed. -/
  | look
  /-- To make a new entry or remove one; a link at the end is an entry like any other. -/
  | entry
  /-- To write a file; a link at the end is followed, and the file may be missing. -/
  | write
  deriving DecidableEq, Repr

/-- Where a walk ends. -/
inductive Place where
  /-- At a node. -/
  | taken (location : Location) (node : Node)
  /-- At a name that a directory has no entry for. -/
  | free (directory : Location) (name : Bytes)
  deriving DecidableEq, Repr

/-! ## From paths to steps -/

/-- The step that a stretch between slashes stands for. -/
def stepOf? (segment : Bytes) : Option Step :=
  if segment = [] then none
  else if segment = Path.dot then some .here
  else if segment = Path.dots then some .up
  else some (.name segment)

/-- The steps of a path.  A slash behind the last of them is a step of its own. -/
def stepsOf (path : Path) : List Step :=
  let steps := path.segments.filterMap stepOf?
  if path.bytes.getLast? = some Path.slash then steps ++ [.slash] else steps

/-- Where a walk of a path starts that is met in a directory. -/
def startOf (directory : Location) (path : Path) : Location :=
  if path.isAbsolute then [] else directory

/-! ## Walking -/

/-- Whether nothing but a slash follows a step. -/
def isLast (rest : List Step) : Bool :=
  rest = [] || rest = [.slash]

/-- The longest name that an entry can have. -/
def maxNameLength : Nat := 255

/-- The walk from a directory, where `follow` says what becomes of a link. -/
def walkWith (disk : Disk) (purpose : Purpose)
    (follow : Location → List Step → Except SystemFault Place) :
    Location → List Step → Except SystemFault Place
  | directory, [] => .ok (.taken directory .directory)
  | directory, .here :: rest => walkWith disk purpose follow directory rest
  | directory, .slash :: rest => walkWith disk purpose follow directory rest
  | directory, .up :: rest => walkWith disk purpose follow directory.dropLast rest
  | directory, .name name :: rest =>
    if purpose = .write && rest = [.slash] then .error .isDirectory
    else if maxNameLength < name.length then .error .nameTooLong
    else
      let location := directory ++ [name]
      match disk.node? location with
      | none => if isLast rest then .ok (.free directory name) else .error .noEntry
      | some .directory => walkWith disk purpose follow location rest
      | some (.file content) =>
        if rest = [] || purpose = .entry && isLast rest then .ok (.taken location (.file content))
        else .error .notDirectory
      | some (.link target) =>
        if purpose = .entry && isLast rest then .ok (.taken location (.link target))
        else follow (startOf directory ⟨target⟩) (stepsOf ⟨target⟩ ++ rest)

/-- The walk from a directory that may follow so many links. -/
def walk (disk : Disk) (purpose : Purpose) : Nat → Location → List Step → Except SystemFault Place
  | 0 => walkWith disk purpose fun _ _ => .error .tooManyLinks
  | links + 1 => walkWith disk purpose (walk disk purpose links)

/-- How many links a walk may follow. -/
def maxLinks : Nat := 40

/-- How many bytes a path must stay below. -/
def maxPathLength : Nat := 4096

/-- Where a path leads from the working directory. -/
def locate (disk : Disk) (purpose : Purpose) (path : Path) : Except SystemFault Place :=
  if path.bytes.contains 0 then .error .zeroByte
  else if path.bytes = [] then .error .noEntry
  else if maxPathLength ≤ path.bytes.length then .error .nameTooLong
  else disk.walk purpose maxLinks (startOf disk.here path) (stepsOf path)

end Scaffolding.Disk
