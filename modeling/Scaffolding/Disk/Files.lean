import Scaffolding.Disk.Walk
import Scaffolding.Path.Ancestors

/-!
# Looking at a disk and changing it

Each operation walks its path once and does what the end of the walk allows.

- `isDirectory`, `isPresent` and `read` look;
- `makeDirectory` and `write` change one node, or none when they fail;
- `makeDirectories`, `makeLink` and `remove` serve whoever prepares a disk.
-/

namespace Scaffolding.Disk

/-! ## Looking -/

/-- Whether a path leads to a directory. -/
def isDirectory (disk : Disk) (path : Path) : Bool :=
  match disk.locate .look path with
  | .ok (.taken _ .directory) => true
  | _ => false

/-- Whether a path leads anywhere. -/
def isPresent (disk : Disk) (path : Path) : Bool :=
  match disk.locate .look path with
  | .ok (.taken _ _) => true
  | _ => false

/-- The content of the file that a path leads to. -/
def read (disk : Disk) (path : Path) : Except SystemFault Bytes :=
  match disk.locate .look path with
  | .ok (.taken _ (.file content)) => .ok content
  | .ok (.taken _ _) => .error .isDirectory
  | .ok (.free _ _) => .error .noEntry
  | .error fault => .error fault

/-! ## Changing -/

/-- Makes a directory where there is nothing yet. -/
def makeDirectory (disk : Disk) (path : Path) : Except SystemFault Disk :=
  match disk.locate .entry path with
  | .ok (.free directory name) => .ok (disk.insert (directory ++ [name]) .directory)
  | .ok (.taken _ _) => .error .alreadyExists
  | .error fault => .error fault

/-- Puts a file with some content where a path leads, in place of the file that was there. -/
def write (disk : Disk) (path : Path) (content : Bytes) : Except SystemFault Disk :=
  match disk.locate .write path with
  | .ok (.free directory name) => .ok (disk.insert (directory ++ [name]) (.file content))
  | .ok (.taken location (.file _)) => .ok (disk.insert location (.file content))
  | .ok (.taken _ _) => .error .isDirectory
  | .error fault => .error fault

/-! ## Preparing -/

/-- Makes a directory, and before it every ancestor that is missing. -/
def makeDirectories (disk : Disk) (path : Path) : Disk :=
  let make := fun (disk : Disk) (path : Path) =>
    match disk.makeDirectory path with
    | .ok disk => disk
    | .error _ => disk
  make (path.ancestors.foldr (fun ancestor disk => make disk ancestor) disk) path

/-- Makes a symbolic link where there is nothing yet. -/
def makeLink (disk : Disk) (path : Path) (target : Bytes) : Except SystemFault Disk :=
  match disk.locate .entry path with
  | .ok (.free directory name) => .ok (disk.insert (directory ++ [name]) (.link target))
  | .ok (.taken _ _) => .error .alreadyExists
  | .error fault => .error fault

/-- Puts a node where a path leads, and makes the directories on the way to it. -/
def put (disk : Disk) (path : Path) (node : Node) : Except SystemFault Disk :=
  match node with
  | .directory => .ok (disk.makeDirectories path)
  | .file content => (prepare disk).write path content
  | .link target => (prepare disk).makeLink path target
where
  /-- The disk with the directory that the path lies in. -/
  prepare (disk : Disk) : Disk :=
    match path.parent? with
    | some parent => disk.makeDirectories parent
    | none => disk

/-- Removes what is at a path and everything below it. -/
def remove (disk : Disk) (path : Path) : Except SystemFault Disk :=
  match disk.locate .entry path with
  | .ok (.taken location _) => .ok (disk.eraseBelow location)
  | .ok (.free _ _) => .error .noEntry
  | .error fault => .error fault

end Scaffolding.Disk
