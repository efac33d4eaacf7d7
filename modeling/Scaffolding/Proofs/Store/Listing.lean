import Scaffolding.Proofs.Store.Poison
import Scaffolding.Proofs.Store.Session

/-!
# What is listed of a store

A store finds its places by components, and so it never holds two paths for
one place, whatever is done with it.  Its listings are sorted by the same
components: they go up strictly, and do not tell in which order the store
keeps what it holds.

* `IsApart` is the invariant.  `KeptByOrders.perform` is one use of a
  memory, and `isApart_afterUses` the induction.
* `IsListing` is what a listing is to what is stored.
* `Listed` collects what a memory shows of itself, and `listed_of_isApart`
  says that it shows all it has.  `isPoisoned_afterUses` says until when.
-/

namespace Scaffolding

open Scaffolding.Path (Apart Increasing)

namespace Store

variable {store : Store}

/-! ## One path for a place -/

/-- That a store has one path for a file, and one for a directory, at every place. -/
structure IsApart (store : Store) : Prop where
  files : Apart (·.1) store.files
  directories : Apart id store.directories

theorem IsApart.insertDirectory (hstore : store.IsApart) (path : Path) :
    (store.insertDirectory path).IsApart where
  files := by
    rw [files_insertDirectory]
    exact hstore.files
  directories := by
    rw [directories_insertDirectory]
    exact apart_keep hstore.directories path

theorem IsApart.insertFile (hstore : store.IsApart) (path : Path) (text : String) :
    (store.insertFile path text).IsApart where
  files := by
    rw [← Path.apart_map_iff, files_insertFile]
    exact apart_keep (Path.apart_map_iff.mpr hstore.files) path
  directories := by
    rw [directories_insertFile]
    exact hstore.directories

theorem IsApart.insertAncestors (hstore : store.IsApart) (path : Path) :
    (store.insertAncestors path).IsApart := by
  unfold Store.insertAncestors
  induction path.ancestors.filter (· ≠ Path.empty) generalizing store with
  | nil => exact hstore
  | cons ancestor rest ih => exact ih (hstore.insertDirectory ancestor)

theorem IsApart.seed (hstore : store.IsApart) (path : Path) (text : String) :
    (store.seed path text).IsApart :=
  (hstore.insertAncestors path).insertFile path text

/-! ## Listings -/

/-- That a list shows what is stored: every entry once, from place to place upwards, and so that no
other list does. -/
structure IsListing {α : Type} (place : α → Path) (stored listing : List α) : Prop where
  perm : listing.Perm stored
  increasing : Increasing place listing
  only : ∀ other, Increasing place other → (∀ entry, entry ∈ other ↔ entry ∈ stored) →
    other = listing

theorem isListing_mergeSort {α : Type} {place : α → Path} {stored : List α}
    (hstored : Apart place stored) : IsListing place stored
      (stored.mergeSort fun entry other => (compare (place entry) (place other)).isLE) where
  perm := List.mergeSort_perm stored _
  increasing := hstored.increasing_mergeSort
  only other hother hmem := by
    refine hother.eq_of_mem_iff hstored.increasing_mergeSort fun entry => ?_
    rw [hmem, List.mem_mergeSort]

theorem IsApart.listFiles (hstore : store.IsApart) :
    IsListing (·.1) store.files store.listFiles :=
  isListing_mergeSort hstore.files

theorem IsApart.listDirectories (hstore : store.IsApart) :
    IsListing id store.directories store.listDirectories :=
  isListing_mergeSort hstore.directories

theorem isApart_empty : Store.empty.IsApart := ⟨.nil, .nil⟩

end Store

namespace Memory

variable {memory : Memory} {invariant : Store → Prop}

/-! ## From orders and seeds to all uses -/

/-- A fact on stores that orders and seeds keep outlasts every use of a memory. -/
theorem KeptByOrders.perform (hkept : KeptByOrders invariant)
    (hancestors : ∀ store path, invariant store → invariant (store.insertAncestors path))
    (hseed : ∀ store path text, invariant store → invariant (store.seed path text))
    (hstore : invariant memory.store.value) (use : Use) :
    invariant (use.perform memory).store.value := by
  cases use with
  | store call =>
    cases call with
    | makeDirectory path => exact order_preserves (fun _ => hkept.makeDirectory hstore) hstore
    | write path text => exact order_preserves (fun _ => hkept.write hstore) hstore
    | seed path text =>
      exact seed_preserves path text (fun store => hancestors store path)
        (fun store => hseed store path) hstore
    | isDirectory | isPresent | read | listFiles | listDirectories => exact hstore
  | shelf call =>
    rw [Use.perform, call.store_perform]
    exact hstore
  | run task => exact Script.exec_preserves hkept.scripts task.script hstore
  | runWith load source task =>
    exact Script.exec_preserves (preserves_surroundingsWith hkept.scripts load) task.script hstore

theorem keptByOrders_isApart : KeptByOrders Store.IsApart where
  makeDirectory hstore hmake := by
    obtain ⟨rfl, -⟩ := Store.eq_insertDirectory_of_ok hmake
    exact hstore.insertDirectory _
  write hstore hwrite := by
    obtain ⟨rfl, -⟩ := Store.eq_insertFile_of_ok hwrite
    exact hstore.insertFile _ _

/-- No uses make a store hold a second path for a place. -/
theorem isApart_afterUses (uses : List Use) (hstore : memory.store.value.IsApart) :
    (afterUses uses memory).store.value.IsApart := by
  induction uses generalizing memory with
  | nil => exact hstore
  | cons use rest ih =>
    exact ih (keptByOrders_isApart.perform (fun _ path hstore => hstore.insertAncestors path)
      (fun _ path text hstore => hstore.seed path text) hstore use)

/-! ## Uses that break off -/

/-- Whether a use leaves the lock of the store poisoned. -/
def Use.breaksOff : Use → Bool
  | store (.seed _ (.error _)) => true
  | _ => false

theorem Use.isPoisoned_perform (use : Use) (memory : Memory) :
    (use.perform memory).store.isPoisoned = (memory.store.isPoisoned || use.breaksOff) := by
  have hscripts := preserves_isPoisoned memory.store.isPoisoned
  cases use with
  | store call =>
    cases call with
    | makeDirectory path | write path text =>
      exact (isPoisoned_order _ _).trans (Bool.or_false _).symm
    | seed path text =>
      obtain ⟨⟨store, isPoisoned⟩, shelf⟩ := memory
      cases isPoisoned <;> cases text <;> rfl
    | isDirectory | isPresent | read | listFiles | listDirectories =>
      exact (Bool.or_false _).symm
  | shelf call =>
    rw [Use.perform, call.store_perform]
    exact (Bool.or_false _).symm
  | run task =>
    exact (Script.exec_preserves hscripts task.script rfl).trans (Bool.or_false _).symm
  | runWith load source task =>
    exact (Script.exec_preserves (preserves_surroundingsWith hscripts load) task.script rfl).trans
      (Bool.or_false _).symm

/-- The lock is poisoned from the first use on that breaks off. -/
theorem isPoisoned_afterUses (uses : List Use) (memory : Memory) :
    (afterUses uses memory).store.isPoisoned =
      (memory.store.isPoisoned || uses.any Use.breaksOff) := by
  induction uses generalizing memory with
  | nil => exact (Bool.or_false _).symm
  | cons use rest ih =>
    rw [List.any_cons, ← Bool.or_assoc, ← Use.isPoisoned_perform]
    exact ih (use.perform memory)

/-! ## What is shown -/

/-- That a memory shows its files and directories in two lists, and finds what is in them. -/
structure Listed (memory : Memory) (files : List (Path × String)) (directories : List Path) :
    Prop where
  listFiles_eq : memory.listFiles = .ok files
  listDirectories_eq : memory.listDirectories = .ok directories
  lists_files : Store.IsListing (·.1) memory.store.value.files files
  lists_directories : Store.IsListing id memory.store.value.directories directories
  read_eq : ∀ path, memory.read path = .ok ((files.find? (·.1 ≈ path)).map (·.2))
  isDirectory_eq : ∀ path, memory.isDirectory path = directories.any (· ≈ path)

/-- That a memory refuses to show its files and directories. -/
structure Unlisted (memory : Memory) : Prop where
  listFiles_eq : memory.listFiles = .error Guarded.poisonCrash
  listDirectories_eq : memory.listDirectories = .error Guarded.poisonCrash

theorem view_of_healthy {α : Type} (hlock : memory.store.isPoisoned = false) (look : Store → α) :
    memory.store.view look = .ok (look memory.store.value) := by
  unfold Guarded.view
  rw [hlock, if_neg Bool.false_ne_true]

theorem view_of_poisoned {α : Type} (hlock : memory.store.isPoisoned = true) (look : Store → α) :
    memory.store.view look = .error Guarded.poisonCrash := by
  unfold Guarded.view
  rw [hlock, if_pos rfl]

theorem view?_of_healthy {α : Type} (hlock : memory.store.isPoisoned = false) (look : Store → α) :
    memory.store.view? look = some (look memory.store.value) := by
  unfold Guarded.view?
  rw [hlock, if_neg Bool.false_ne_true]

theorem view?_of_poisoned {α : Type} (hlock : memory.store.isPoisoned = true) (look : Store → α) :
    memory.store.view? look = none := by
  unfold Guarded.view?
  rw [hlock, if_pos rfl]

theorem isDirectory_of_healthy (hlock : memory.store.isPoisoned = false) (path : Path) :
    memory.isDirectory path = memory.store.value.isDirectory path := by
  unfold isDirectory
  rw [view?_of_healthy hlock, Option.getD_some]

theorem unlisted_of_poisoned (hlock : memory.store.isPoisoned = true) : memory.Unlisted :=
  ⟨view_of_poisoned hlock _, view_of_poisoned hlock _⟩

theorem listed_of_isApart (hlock : memory.store.isPoisoned = false)
    (hstore : memory.store.value.IsApart) :
    memory.Listed memory.store.value.listFiles memory.store.value.listDirectories where
  listFiles_eq := view_of_healthy hlock _
  listDirectories_eq := view_of_healthy hlock _
  lists_files := hstore.listFiles
  lists_directories := hstore.listDirectories
  read_eq path := by
    unfold read
    rw [view_of_healthy hlock, Store.read?,
      hstore.files.find?_eq_of_perm hstore.listFiles.perm.symm]
  isDirectory_eq path := by
    rw [isDirectory_of_healthy hlock, hstore.listDirectories.perm.any_eq]
    rfl

end Memory

end Scaffolding
