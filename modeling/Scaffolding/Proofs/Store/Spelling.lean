import Scaffolding.Proofs.Script.Respelling
import Scaffolding.Proofs.Store.Source

/-!
# Stores whose paths are spelled otherwise

A store keeps every path as it was spelled first, and finds it under each
of its spellings.  What it finds and what becomes of it depends on what the
paths mean, and so nobody who asks a store can tell how they are spelled.

* `Store.Respelled` relates stores with the same meaning.  For each look at
  a store and each change of it there is one lemma.
* `Memory.around_surroundings` puts them together, for templates from any
  source, so that `Likeness.exec` applies.
-/

namespace Scaffolding

variable {path path' : Path} {text : String} {store store' : Store}

namespace Store

/-- What the paths of the files mean, with the texts. -/
def fileMeanings (store : Store) : List (List Path.Component × String) :=
  store.files.map fun file => (file.1.components, file.2)

/-- What the paths of the directories mean. -/
def directoryMeanings (store : Store) : List (List Path.Component) :=
  store.directories.map Path.components

/-- That two stores differ in the spelling of paths only. -/
structure Respelled (store store' : Store) : Prop where
  files_eq : store.fileMeanings = store'.fileMeanings
  directories_eq : store.directoryMeanings = store'.directoryMeanings

/-! ## Looking -/

theorem isDirectory_eq_meanings (store : Store) (path : Path) :
    store.isDirectory path =
      store.directoryMeanings.any fun meaning => decide (meaning = path.components) := by
  unfold directoryMeanings
  rw [List.any_map]
  rfl

theorem read?_eq_meanings (store : Store) (path : Path) :
    store.read? path =
      (store.fileMeanings.find? fun meaning => decide (meaning.1 = path.components)).map (·.2) := by
  unfold fileMeanings
  rw [List.find?_map, Option.map_map]
  rfl

namespace Respelled

theorem isDirectory_eq (hstores : store.Respelled store') (hpath : path ≈ path') :
    store.isDirectory path = store'.isDirectory path' := by
  rw [isDirectory_eq_meanings, isDirectory_eq_meanings, hstores.directories_eq,
    Path.equiv_iff.mp hpath]

theorem read?_eq (hstores : store.Respelled store') (hpath : path ≈ path') :
    store.read? path = store'.read? path' := by
  rw [read?_eq_meanings, read?_eq_meanings, hstores.files_eq, Path.equiv_iff.mp hpath]

theorem isFile_eq (hstores : store.Respelled store') (hpath : path ≈ path') :
    store.isFile path = store'.isFile path' := by
  unfold isFile
  rw [hstores.read?_eq hpath]

theorem isPresent_eq (hstores : store.Respelled store') (hpath : path ≈ path') :
    store.isPresent path = store'.isPresent path' := by
  unfold isPresent
  rw [hstores.isFile_eq hpath, hstores.isDirectory_eq hpath]

theorem isParentMissing_eq (hstores : store.Respelled store') (hpath : path ≈ path') :
    store.isParentMissing path = store'.isParentMissing path' := by
  have hparents := Path.map_components_parent?_congr hpath
  unfold isParentMissing
  cases hparent : path.parent? with
  | none =>
    cases hparent' : path'.parent? with
    | none => rfl
    | some parent' =>
      rw [hparent, hparent'] at hparents
      cases hparents
  | some parent =>
    cases hparent' : path'.parent? with
    | none =>
      rw [hparent, hparent'] at hparents
      cases hparents
    | some parent' =>
      rw [hparent, hparent'] at hparents
      have hsame : parent ≈ parent' := Option.some.inj hparents
      simp only [ne_eq, Path.eq_empty_congr hsame, hstores.isDirectory_eq hsame]

theorem listDirectories (hstores : store.Respelled store') :
    List.Forall₂ (· ≈ ·) store.listDirectories store'.listDirectories := by
  have hsorted : ∀ store : Store, store.listDirectories.map Path.components =
      store.directoryMeanings.mergeSort fun a b => (compare a b).isLE := fun store =>
    List.map_mergeSort fun _ _ _ _ => rfl
  rw [Path.forall₂_equiv_iff, hsorted, hsorted, hstores.directories_eq]

theorem listFiles (hstores : store.Respelled store') :
    List.Forall₂ (fun file file' => file.1 ≈ file'.1 ∧ file.2 = file'.2) store.listFiles
      store'.listFiles := by
  have hsorted : ∀ store : Store,
      (store.listFiles.map fun file => (file.1.components, file.2)) =
        store.fileMeanings.mergeSort fun a b => (compare a.1 b.1).isLE := fun store =>
    List.map_mergeSort fun _ _ _ _ => rfl
  have hmeanings := hsorted store
  rw [hstores.files_eq, ← hsorted store'] at hmeanings
  exact (forall₂_meaning_iff.mpr hmeanings).imp fun _ _ => Prod.mk.inj

end Respelled

/-! ## Changing -/

theorem directoryMeanings_insertDirectory (store : Store) (path : Path) :
    (store.insertDirectory path).directoryMeanings =
      if store.isDirectory path then store.directoryMeanings
      else store.directoryMeanings ++ [path.components] := by
  unfold insertDirectory directoryMeanings
  split
  · rfl
  · rw [List.map_append, List.map_singleton]

theorem fileMeanings_insertFile (store : Store) (path : Path) (text : String) :
    (store.insertFile path text).fileMeanings =
      if store.isFile path then
        store.fileMeanings.map fun meaning =>
          if meaning.1 = path.components then (meaning.1, text) else meaning
      else store.fileMeanings ++ [(path.components, text)] := by
  unfold insertFile fileMeanings
  split
  · rw [List.map_map, List.map_map]
    refine List.map_congr_left fun file _ => ?_
    simp only [Function.comp_apply, Path.equiv_iff]
    split <;> rfl
  · rw [List.map_append, List.map_singleton]

namespace Respelled

theorem insertDirectory (hstores : store.Respelled store') (hpath : path ≈ path') :
    (store.insertDirectory path).Respelled (store'.insertDirectory path') where
  files_eq := by
    unfold fileMeanings
    rw [files_insertDirectory, files_insertDirectory]
    exact hstores.files_eq
  directories_eq := by
    rw [directoryMeanings_insertDirectory, directoryMeanings_insertDirectory,
      hstores.isDirectory_eq hpath, hstores.directories_eq, Path.equiv_iff.mp hpath]

theorem insertFile (hstores : store.Respelled store') (hpath : path ≈ path') (text : String) :
    (store.insertFile path text).Respelled (store'.insertFile path' text) where
  files_eq := by
    rw [fileMeanings_insertFile, fileMeanings_insertFile, hstores.isFile_eq hpath,
      hstores.files_eq, Path.equiv_iff.mp hpath]
  directories_eq := by
    unfold directoryMeanings
    rw [directories_insertFile, directories_insertFile]
    exact hstores.directories_eq

theorem foldl_insertDirectory {paths paths' : List Path}
    (hpaths : List.Forall₂ (· ≈ ·) paths paths') (hstores : store.Respelled store') :
    (paths.foldl Store.insertDirectory store).Respelled
      (paths'.foldl Store.insertDirectory store') := by
  induction hpaths generalizing store store' with
  | nil => exact hstores
  | cons hpath _ ih => exact ih (hstores.insertDirectory hpath)

theorem insertAncestors (hstores : store.Respelled store') (hpath : path ≈ path') :
    (store.insertAncestors path).Respelled (store'.insertAncestors path') := by
  have hproper : ∀ path : Path, (path.ancestors.filter (· ≠ Path.empty)).map Path.components =
      (path.ancestors.map Path.components).filter (· ≠ []) := by
    intro path
    rw [List.filter_map]
    congr 1
    refine List.filter_congr fun ancestor _ => ?_
    simp only [Function.comp_apply, ne_eq, Path.components_eq_nil_iff]
  refine foldl_insertDirectory (Path.forall₂_equiv_iff.mpr ?_) hstores
  rw [hproper, hproper, Path.map_components_ancestors_congr hpath]

/-- Making a directory comes to the same. -/
theorem makeDirectory (hstores : store.Respelled store') (hpath : path ≈ path') :
    Likeness.spelling.Answers Respelled (store.makeDirectory path) (store'.makeDirectory path') := by
  unfold Store.makeDirectory
  rw [hstores.isDirectory_eq hpath, hstores.isFile_eq hpath, hstores.isParentMissing_eq hpath]
  split
  · exact .ok hstores
  · split
    · exact .error (Failure.Respelled.filesystem hpath _)
    · split
      · exact .error (Failure.Respelled.filesystem hpath _)
      · exact .ok (hstores.insertDirectory hpath)

/-- Writing a file comes to the same. -/
theorem write (hstores : store.Respelled store') (hpath : path ≈ path') (text : String) :
    Likeness.spelling.Answers Respelled (store.write path text) (store'.write path' text) := by
  unfold Store.write
  rw [hstores.isDirectory_eq hpath, hstores.isParentMissing_eq hpath]
  split
  · exact .error (Failure.Respelled.filesystem hpath _)
  · exact .ok (hstores.insertFile hpath text)

end Respelled

end Store

namespace Memory

variable {τ : Type} {memory memory' : Memory}

/-- That two memories differ in the spelling of paths only. -/
structure Respelled (memory memory' : Memory) : Prop where
  store : memory.store.value.Respelled memory'.store.value
  isPoisoned_eq : memory.store.isPoisoned = memory'.store.isPoisoned
  shelf_eq : memory.shelf = memory'.shelf

namespace Respelled

theorem view?_eq {β : Type} (hmemories : memory.Respelled memory') {look look' : Store → β}
    (hlook : look memory.store.value = look' memory'.store.value) :
    memory.store.view? look = memory'.store.view? look' := by
  unfold Guarded.view?
  rw [hmemories.isPoisoned_eq, hlook]

theorem order (hmemories : memory.Respelled memory')
    (change change' : Store → Except Failure Store)
    (hchange : Likeness.spelling.Answers Store.Respelled (change memory.store.value)
      (change' memory'.store.value)) :
    Likeness.spelling.Answers Eq (memory.order change).1 (memory'.order change').1 ∧
      (memory.order change).2.Respelled (memory'.order change').2 := by
  unfold Memory.order Guarded.view?
  rw [hmemories.isPoisoned_eq]
  cases memory'.store.isPoisoned with
  | true => exact ⟨.error Failure.Respelled.lockPoisoned, hmemories⟩
  | false =>
    generalize change memory.store.value = answer at hchange ⊢
    generalize change' memory'.store.value = answer' at hchange ⊢
    cases hchange with
    | ok hstores => exact ⟨.ok rfl, hstores, hmemories.isPoisoned_eq, hmemories.shelf_eq⟩
    | error hfailure => exact ⟨.error hfailure, hmemories⟩

theorem read_eq (hmemories : memory.Respelled memory') (hpath : path ≈ path') :
    memory.read path = memory'.read path' := by
  unfold Memory.read Guarded.view
  simp only [hmemories.isPoisoned_eq, hmemories.store.read?_eq hpath]

theorem seed (hmemories : memory.Respelled memory') (hpath : path ≈ path')
    (text : Except Crash String) :
    (memory.seed path text).1 = (memory'.seed path' text).1 ∧
      (memory.seed path text).2.Respelled (memory'.seed path' text).2 := by
  have hancestors := hmemories.store.insertAncestors hpath
  unfold Memory.seed Guarded.use
  rw [hmemories.isPoisoned_eq]
  cases memory'.store.isPoisoned with
  | true => exact ⟨rfl, hmemories⟩
  | false =>
    cases text with
    | ok text =>
      exact ⟨rfl, hancestors.insertFile hpath text, hmemories.isPoisoned_eq, hmemories.shelf_eq⟩
    | error crash => exact ⟨rfl, hancestors, rfl, hmemories.shelf_eq⟩

end Respelled

/-- That two memories differ in the spelling of paths only, and have one source of templates. -/
structure StatesRespelled (state state' : Memory × τ) : Prop where
  memory : state.1.Respelled state'.1
  source_eq : state.2 = state'.2

/-- The surroundings of two memories that differ in the spelling of paths only answer the same, with
templates from one source. -/
theorem around_surroundings (load : Template → τ → Except Failure String × τ) :
    Likeness.spelling.Around StatesRespelled (surroundingsWith load) (surroundingsWith load) where
  isDirectory := by
    intro path path' state state' hpath hstates
    refine ⟨?_, hstates⟩
    exact congrArg (Option.getD · false)
      (hstates.memory.view?_eq (hstates.memory.store.isDirectory_eq hpath))
  isPresent := by
    intro path path' state state' hpath hstates
    refine ⟨?_, hstates⟩
    exact congrArg (Option.getD · false) (hstates.memory.view?_eq (hstates.memory.store.isPresent_eq hpath))
  makeDirectory := by
    intro path path' state state' hpath hstates
    obtain ⟨hanswer, hafter⟩ := hstates.memory.order (·.makeDirectory path) (·.makeDirectory path')
      (hstates.memory.store.makeDirectory hpath)
    exact ⟨hanswer, hafter, hstates.source_eq⟩
  write := by
    intro path path' state state' text hpath hstates
    obtain ⟨hanswer, hafter⟩ := hstates.memory.order (·.write path text) (·.write path' text)
      (hstates.memory.store.write hpath text)
    exact ⟨hanswer, hafter, hstates.source_eq⟩
  load := by
    rintro ⟨memory, source⟩ ⟨memory', _⟩ template ⟨hmemories, rfl⟩
    exact ⟨Likeness.Answers.refl Failure.Respelled.refl _, hmemories, rfl⟩

end Memory

end Scaffolding
