import Scaffolding.Path.Basic

/-!
# Disks

A disk is a tree of directories, files and symbolic links.  A node has a location: the names that
lead to it from the root directory, none of them through a link.  The root directory is always
there.  Relative paths start from the working directory.

- `Disk.node?` is the view of a disk: what is at a location;
- `Disk.insert` and `Disk.eraseBelow` change it.
-/

namespace Scaffolding

/-- The names that lead to a place from the root directory. -/
abbrev Location := List Bytes

/-- What a disk holds at one place. -/
inductive Node where
  | directory
  | file (content : Bytes)
  | link (target : Bytes)
  deriving DecidableEq, Repr

/-- A disk and the working directory on it. -/
structure Disk where
  nodes : List (Location × Node)
  here : Location
  deriving DecidableEq, Repr

namespace Disk

/-- What is at a location. -/
def node? (disk : Disk) (location : Location) : Option Node :=
  if location = [] then some .directory else disk.nodes.lookup location

/-- The disk with a node at a location, in place of what was there. -/
def insert (disk : Disk) (location : Location) (node : Node) : Disk :=
  { disk with nodes := (location, node) :: disk.nodes.filter (·.1 ≠ location) }

/-- The disk without a location and all that lies below it. -/
def eraseBelow (disk : Disk) (location : Location) : Disk :=
  { disk with nodes := disk.nodes.filter fun entry => !location.isPrefixOf entry.1 }

/-- A disk that has a working directory, the directories on the way to it, and nothing else. -/
def fresh (here : Location) : Disk where
  nodes := (List.range here.length).map fun k => (here.take (k + 1), .directory)
  here := here

/-- The path that leads to a location from a directory above it. -/
def pathBelow (directory location : Location) : Path :=
  ⟨[Path.slash].intercalate (location.drop directory.length)⟩

/-- Everything below a location, with its path from there, in the order of the paths' bytes. -/
def listBelow (disk : Disk) (directory : Location) : List (Path × Node) :=
  let below := disk.nodes.filter fun entry =>
    directory.isPrefixOf entry.1 && entry.1 ≠ directory
  (below.map fun entry => (pathBelow directory entry.1, entry.2)).mergeSort fun a b =>
    (compare a.1.bytes b.1.bytes).isLE

/-! ## Laws -/

private theorem lookup_filter_ne {location other : Location} (hother : other ≠ location)
    (nodes : List (Location × Node)) :
    (nodes.filter (·.1 ≠ location)).lookup other = nodes.lookup other := by
  induction nodes with
  | nil => rfl
  | cons entry rest ih =>
    obtain ⟨key, node⟩ := entry
    rw [List.filter_cons, List.lookup_cons]
    by_cases hkey : key = location
    · subst hkey
      rw [if_neg (by simp), ih, beq_eq_false_iff_ne.mpr hother]
    · rw [if_pos (by simpa using hkey), List.lookup_cons, ih]

/-- An insertion changes what is at its own location and nothing else. -/
theorem node?_insert (disk : Disk) {location : Location} (hroot : location ≠ [])
    (other : Location) (node : Node) :
    (disk.insert location node).node? other =
      if other = location then some node else disk.node? other := by
  by_cases hother : other = location
  · subst hother
    simp [node?, insert, hroot]
  · unfold node? insert
    rw [if_neg hother, List.lookup_cons, beq_eq_false_iff_ne.mpr hother]
    simp only [lookup_filter_ne hother]

@[simp]
theorem here_insert (disk : Disk) (location : Location) (node : Node) :
    (disk.insert location node).here = disk.here := rfl

end Disk

end Scaffolding
