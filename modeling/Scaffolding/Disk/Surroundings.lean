import Scaffolding.Disk.Answer
import Scaffolding.Disk.Files
import Scaffolding.Script.Basic

/-!
# A disk as the surroundings of a script

Providers are made on a disk that also holds the templates.
-/

namespace Scaffolding.Disk

/-- The disk after an order: the new one, or the old one if the order failed. -/
def obey (disk : Disk) : Except Failure Disk → Except Failure Unit × Disk
  | .ok disk => (.ok (), disk)
  | .error failure => (.error failure, disk)

/-- Makes a directory unless the path leads to one. -/
def ensureDirectory (disk : Disk) (path : Path) : Except Failure Unit × Disk :=
  if disk.isDirectory path then (.ok (), disk)
  else disk.obey (directoryAnswer path (disk.makeDirectory path))

/-- Puts a file with a text where a path leads. -/
def writeText (disk : Disk) (path : Path) (text : String) : Except Failure Unit × Disk :=
  disk.obey (fileAnswer path (disk.write path (Text.encode text)))

/-- The text of a template in a directory of templates. -/
def loadTemplate (disk : Disk) (templates : Path) (template : Template) : Except Failure String :=
  templateAnswer templates template (disk.read (Installation.templateFile templates template))

/-- A disk with its directory of templates. -/
def surroundings (templates : Path) : Surroundings Disk where
  isDirectory path disk := (disk.isDirectory path, disk)
  isPresent path disk := (disk.isPresent path, disk)
  makeDirectory path disk := disk.ensureDirectory path
  write path text disk := disk.writeText path text
  load template disk := (disk.loadTemplate templates template, disk)

end Scaffolding.Disk
