import Scaffolding.Failure
import Scaffolding.Path.Ancestors

/-!
# A store of files and directories

A store keeps texts and directories under paths.  Paths with the same components are the same place,
and a place keeps the spelling under which it was first stored.

- `makeDirectory` and `write` keep to the rules of a disk: the parent must be there, and a place is
  not both a file and a directory;
- `seed` puts a file anywhere, with all its ancestors, and keeps to no rule;
- `listFiles` and `listDirectories` are sorted by components;
- `read?` and `isDirectory` are the view of a store, and the laws at the end say what each insertion
  does to them.
-/

namespace Scaffolding

/-- Files with their texts, and directories. -/
structure Store where
  files : List (Path × String)
  directories : List Path
  deriving DecidableEq

namespace Store

/-- The store without files and directories. -/
def empty : Store := ⟨[], []⟩

/-! ## Looking -/

/-- Whether there is a directory at a path. -/
def isDirectory (store : Store) (path : Path) : Bool :=
  store.directories.any fun directory => directory ≈ path

/-- The text of the file at a path. -/
def read? (store : Store) (path : Path) : Option String :=
  (store.files.find? fun file => file.1 ≈ path).map (·.2)

/-- Whether there is a file at a path. -/
def isFile (store : Store) (path : Path) : Bool :=
  (store.read? path).isSome

/-- Whether there is a file or a directory at a path. -/
def isPresent (store : Store) (path : Path) : Bool :=
  store.isFile path || store.isDirectory path

/-- Whether the parent of a path is not there.  A path of one step lies in the directory that is
always there. -/
def isParentMissing (store : Store) (path : Path) : Bool :=
  match path.parent? with
  | some parent => parent ≠ Path.empty && !store.isDirectory parent
  | none => false

/-- The files in order. -/
def listFiles (store : Store) : List (Path × String) :=
  store.files.mergeSort fun a b => (compare a.1 b.1).isLE

/-- The directories in order. -/
def listDirectories (store : Store) : List Path :=
  store.directories.mergeSort fun a b => (compare a b).isLE

/-! ## Changing -/

/-- The store with a directory at a path. -/
def insertDirectory (store : Store) (path : Path) : Store :=
  if store.isDirectory path then store
  else { store with directories := store.directories ++ [path] }

/-- The store with a file at a path. -/
def insertFile (store : Store) (path : Path) (text : String) : Store :=
  if store.isFile path then
    { store with
      files := store.files.map fun file => if file.1 ≈ path then (file.1, text) else file }
  else { store with files := store.files ++ [(path, text)] }

/-- The store with a directory at every ancestor of a path, the nearest put there first. -/
def insertAncestors (store : Store) (path : Path) : Store :=
  (path.ancestors.filter (· ≠ Path.empty)).foldl insertDirectory store

/-- The store with a file at a path and a directory at every ancestor of it. -/
def seed (store : Store) (path : Path) (text : String) : Store :=
  (store.insertAncestors path).insertFile path text

/-- Makes sure that there is a directory at a path. -/
def makeDirectory (store : Store) (path : Path) : Except Failure Store :=
  if store.isDirectory path then .ok store
  else if store.isFile path then
    .error (.filesystem path "Failed to create directory: a file exists at this path")
  else if store.isParentMissing path then
    .error (.filesystem path "Failed to create directory: parent directory does not exist")
  else .ok (store.insertDirectory path)

/-- Puts a file at a path. -/
def write (store : Store) (path : Path) (text : String) : Except Failure Store :=
  if store.isParentMissing path || store.isDirectory path then
    .error <| .filesystem path <|
      "Failed to write file: parent directory does not exist or path is a directory"
  else .ok (store.insertFile path text)

/-! ## Laws -/

@[simp]
theorem files_insertDirectory (store : Store) (path : Path) :
    (store.insertDirectory path).files = store.files := by
  unfold insertDirectory
  split <;> rfl

@[simp]
theorem directories_insertFile (store : Store) (path : Path) (text : String) :
    (store.insertFile path text).directories = store.directories := by
  unfold insertFile
  split <;> rfl

@[simp]
theorem read?_insertDirectory (store : Store) (path other : Path) :
    (store.insertDirectory path).read? other = store.read? other := by
  unfold read?
  rw [files_insertDirectory]

@[simp]
theorem isDirectory_insertFile (store : Store) (path other : Path) (text : String) :
    (store.insertFile path text).isDirectory other = store.isDirectory other := by
  unfold isDirectory
  rw [directories_insertFile]

/-- The same directory is there under every spelling of its path. -/
theorem isDirectory_congr (store : Store) {path other : Path} (hsame : path ≈ other) :
    store.isDirectory path = store.isDirectory other := by
  unfold isDirectory
  simp only [Path.equiv_iff, Path.equiv_iff.mp hsame]

/-- The same file is there under every spelling of its path. -/
theorem read?_congr (store : Store) {path other : Path} (hsame : path ≈ other) :
    store.read? path = store.read? other := by
  unfold read?
  simp only [Path.equiv_iff, Path.equiv_iff.mp hsame]

/-- An insertion adds the directory at its path and no other. -/
theorem isDirectory_insertDirectory (store : Store) (path other : Path) :
    (store.insertDirectory path).isDirectory other
      = (decide (path ≈ other) || store.isDirectory other) := by
  unfold insertDirectory
  split
  · next hthere =>
    by_cases hsame : path ≈ other
    · rw [← store.isDirectory_congr hsame, hthere, Bool.or_true]
    · rw [decide_eq_false hsame, Bool.false_or]
  · unfold isDirectory
    rw [List.any_append, List.any_cons, List.any_nil, Bool.or_false, Bool.or_comm]

/-- Looking for a file in a list of files that keep their paths. -/
theorem find?_map_of_path {files : List (Path × String)} {other : Path}
    {change : Path × String → Path × String} (hpath : ∀ file, (change file).1 = file.1) :
    (files.map change).find? (fun file => decide (file.1 ≈ other))
      = (files.find? fun file => decide (file.1 ≈ other)).map change := by
  rw [List.find?_map]
  congr 2
  funext file
  rw [Function.comp_apply, hpath]

/-- An insertion changes the text at its path and no other. -/
theorem read?_insertFile (store : Store) (path other : Path) (text : String) :
    (store.insertFile path text).read? other
      = if path ≈ other then some text else store.read? other := by
  unfold insertFile
  split
  · next hthere =>
    unfold read?
    rw [find?_map_of_path fun file => by split <;> rfl]
    by_cases hsame : path ≈ other
    · obtain ⟨old, hold⟩ := Option.isSome_iff_exists.mp hthere
      rw [read?_congr store hsame] at hold
      obtain ⟨file, hfile, _⟩ := Option.map_eq_some_iff.mp hold
      have hfound := List.find?_some hfile
      have hat : file.1 ≈ other := of_decide_eq_true hfound
      have hsource : file.1 ≈ path := Setoid.trans hat (Setoid.symm hsame)
      rw [hfile, if_pos hsame, Option.map_some, Option.map_some, if_pos hsource]
    · rw [if_neg hsame]
      cases hfile : store.files.find? fun file => decide (file.1 ≈ other) with
      | none => rfl
      | some file =>
        have hfound := List.find?_some hfile
        have hat : file.1 ≈ other := of_decide_eq_true hfound
        have hsource : ¬ file.1 ≈ path := fun hpath =>
          hsame (Setoid.trans (Setoid.symm hpath) hat)
        rw [Option.map_some, Option.map_some, if_neg hsource, Option.map_some]
  · next hfree =>
    unfold read?
    rw [List.find?_append, List.find?_singleton]
    by_cases hsame : path ≈ other
    · have hnone : store.read? other = none := by
        rw [← read?_congr store hsame]
        exact Option.not_isSome_iff_eq_none.mp hfree
      have hfind : store.files.find? (fun file => decide (file.1 ≈ other)) = none :=
        Option.map_eq_none_iff.mp hnone
      rw [hfind, decide_eq_true hsame, if_pos rfl, if_pos hsame, Option.none_or, Option.map_some]
    · rw [decide_eq_false hsame, if_neg Bool.false_ne_true, if_neg hsame, Option.or_none]

end Store

end Scaffolding
