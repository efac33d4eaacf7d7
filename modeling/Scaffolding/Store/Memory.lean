import Scaffolding.Script.Basic
import Scaffolding.Store.Basic
import Scaffolding.Store.Guarded

/-!
# Surroundings in memory

A memory holds a store and a set of templates, each under a lock of its own.  As the surroundings of
a script it answers `Failure.lockPoisoned` where a lock is poisoned, and says that nothing is there.
All other uses of a poisoned lock break off.
-/

namespace Scaffolding

/-! ## Templates in memory -/

/-- The texts of the templates that are known. -/
structure Shelf where
  text? : Template → Option String

namespace Shelf

/-- No template. -/
def empty : Shelf := ⟨fun _ => none⟩

/-- The shelf with a text for one more template. -/
def insert (shelf : Shelf) (template : Template) (text : String) : Shelf :=
  ⟨fun other => if other = template then some text else shelf.text? other⟩

/-- How many templates are known. -/
def size (shelf : Shelf) : Nat :=
  Template.all.countP fun template => (shelf.text? template).isSome

/-- The text of a template. -/
def load (shelf : Shelf) (template : Template) : Except Failure String :=
  match shelf.text? template with
  | some text => .ok text
  | none =>
    .error <| .templateUnavailable template.fileName
      ((Path.ofText "<memory>").child template.fileName) "not registered"

end Shelf

/-! ## The surroundings -/

/-- A store and a shelf, each under a lock. -/
structure Memory where
  store : Guarded Store
  shelf : Guarded Shelf

namespace Memory

/-- A memory that holds nothing. -/
def empty : Memory := ⟨.fresh .empty, .fresh .empty⟩

/-- Whether there is a directory at a path. -/
def isDirectory (memory : Memory) (path : Path) : Bool :=
  (memory.store.view? (·.isDirectory path)).getD false

/-- Whether there is anything at a path. -/
def isPresent (memory : Memory) (path : Path) : Bool :=
  (memory.store.view? (·.isPresent path)).getD false

/-- An order to the store, and the memory after it. -/
def order (memory : Memory) (change : Store → Except Failure Store) :
    Except Failure Unit × Memory :=
  match memory.store.view? change with
  | none => (.error .lockPoisoned, memory)
  | some (.error failure) => (.error failure, memory)
  | some (.ok store) => (.ok (), { memory with store := memory.store.replace store })

/-- Makes sure that there is a directory at a path. -/
def makeDirectory (memory : Memory) (path : Path) : Except Failure Unit × Memory :=
  memory.order (·.makeDirectory path)

/-- Puts a file at a path. -/
def write (memory : Memory) (path : Path) (text : String) : Except Failure Unit × Memory :=
  memory.order (·.write path text)

/-- The text of a template. -/
def load (memory : Memory) (template : Template) : Except Failure String :=
  (memory.shelf.view? (·.load template)).getD (.error .lockPoisoned)

/-- The memory as the surroundings of a script. -/
def surroundings : Surroundings Memory where
  isDirectory path memory := (memory.isDirectory path, memory)
  isPresent path memory := (memory.isPresent path, memory)
  makeDirectory path memory := memory.makeDirectory path
  write path text memory := memory.write path text
  load template memory := (memory.load template, memory)

/-! ## Other uses -/

/-- Puts a file at a path and a directory at every ancestor of it; the text is made last. -/
def seed (memory : Memory) (path : Path) (text : Except Crash String) :
    Except Crash Unit × Memory :=
  let (answer, store) :=
    memory.store.use (·.insertAncestors path) text fun text store => store.insertFile path text
  (answer, { memory with store })

/-- Puts a template on the shelf; the text is made last. -/
def insertTemplate (memory : Memory) (template : Template) (text : Except Crash String) :
    Except Crash Unit × Memory :=
  let (answer, shelf) := memory.shelf.use id text fun text shelf => shelf.insert template text
  (answer, { memory with shelf })

/-- The text of the file at a path. -/
def read (memory : Memory) (path : Path) : Except Crash (Option String) :=
  memory.store.view (·.read? path)

/-- The files in order. -/
def listFiles (memory : Memory) : Except Crash (List (Path × String)) :=
  memory.store.view (·.listFiles)

/-- The directories in order. -/
def listDirectories (memory : Memory) : Except Crash (List Path) :=
  memory.store.view (·.listDirectories)

/-- How many templates are on the shelf. -/
def templateCount (memory : Memory) : Except Crash Nat :=
  memory.shelf.view (·.size)

/-- Whether no template is on the shelf. -/
def isShelfEmpty (memory : Memory) : Except Crash Bool :=
  memory.templateCount.map (· = 0)

end Memory

end Scaffolding
