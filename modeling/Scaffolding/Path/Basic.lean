import Scaffolding.Text.Utf8

/-!
# Paths

A path is a sequence of bytes, and keeps the spelling it was given.  Two paths mean the same place
when their components agree: repeated and trailing slashes, and every `.` but a leading one, make
no difference, while `..` is a step of its own.

- `components` is the meaning of a path, and `p ≈ q` says that two paths share it;
- `compare` orders paths by their components, so that a directory comes right before what it holds;
- `join` goes on from one path to another.
-/

namespace Scaffolding

/-- A path as it is spelled. -/
structure Path where
  bytes : Bytes
  deriving DecidableEq, Repr

namespace Path

/-- One step of a path. -/
inductive Component where
  /-- The root directory, at the start of an absolute path. -/
  | root
  /-- A leading `.`. -/
  | here
  /-- The step `..`. -/
  | up
  /-- A step to an entry of a directory. -/
  | name (bytes : Bytes)
  deriving DecidableEq, Repr

/-! ## Spelling -/

/-- The byte between two steps. -/
def slash : UInt8 := 0x2F

/-- The step `.`. -/
def dot : Bytes := [0x2E]

/-- The step `..`. -/
def dots : Bytes := [0x2E, 0x2E]

/-- The path that a text spells. -/
def ofText (text : String) : Path := ⟨Text.encode text⟩

/-- A path as a message shows it. -/
def display (path : Path) : String := Text.decodeLossy path.bytes

/-- The path without a component. -/
def empty : Path := ⟨[]⟩

/-- Whether a path starts at the root directory. -/
def isAbsolute (path : Path) : Bool := path.bytes.head? = some slash

/-- The stretches between the slashes of a path; an absolute path starts with an empty one. -/
def segments (path : Path) : List Bytes := path.bytes.splitOn slash

/-! ## Meaning -/

/-- Whether a stretch after the first is no step. -/
def isIdle (segment : Bytes) : Bool := segment = [] || segment = dot

/-- The step that a stretch after the first stands for. -/
def step? (segment : Bytes) : Option Component :=
  if isIdle segment then none
  else if segment = dots then some .up
  else some (.name segment)

/-- The components of the path with given stretches. -/
def componentsOf : List Bytes → List Component
  | [] => []
  | [] :: [] => []
  | [] :: rest => .root :: rest.filterMap step?
  | first :: rest =>
    if first = dot then .here :: rest.filterMap step?
    else (first :: rest).filterMap step?

/-- The steps of a path. -/
def components (path : Path) : List Component := componentsOf path.segments

/-- Paths with the same components mean the same place. -/
instance : Setoid Path where
  r p q := p.components = q.components
  iseqv := ⟨fun _ => rfl, fun h => h.symm, fun h h' => h.trans h'⟩

instance (p q : Path) : Decidable (p ≈ q) :=
  inferInstanceAs (Decidable (p.components = q.components))

theorem equiv_iff {p q : Path} : p ≈ q ↔ p.components = q.components := Iff.rfl

/-! ## Order -/

/-- The place of a component among components of other kinds. -/
def Component.rank : Component → Nat
  | .root => 0
  | .here => 1
  | .up => 2
  | .name _ => 3

/-- The bytes of a name, and none for any other component. -/
def Component.spelling : Component → Bytes
  | .name bytes => bytes
  | _ => []

/-- The root comes first, then a leading `.`, then `..`, then the names in the order of their
bytes. -/
instance : Ord Component where
  compare a b := (compare a.rank b.rank).then (compare a.spelling b.spelling)

/-- Paths are ordered by their components, a path before its extensions. -/
instance : Ord Path where
  compare p q := compare p.components q.components

/-! ## Joining -/

/-- The path that goes on from `left` to `right`.  An absolute `right` starts again, and a slash
comes between unless nothing stands before it or a slash does. -/
def join (left right : Path) : Path :=
  if right.isAbsolute then right
  else if left.bytes = [] ∨ left.bytes.getLast? = some slash then ⟨left.bytes ++ right.bytes⟩
  else ⟨left.bytes ++ slash :: right.bytes⟩

/-- The path that goes on from `left` to the step that a text spells. -/
def child (left : Path) (text : String) : Path := left.join (ofText text)

end Path

end Scaffolding
