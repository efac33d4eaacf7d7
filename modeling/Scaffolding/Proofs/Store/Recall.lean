import Scaffolding.Proofs.Path.Order
import Scaffolding.Proofs.Store.WellFormed

/-!
# What a store remembers

A store is made of insertions, whoever made them: orders that went through,
the scripts that gave them, or seeds.  It has forgotten the texts that were
replaced later, and it keeps the spelling of a path from the first time.

* `Store.Insertion` is an insertion, and `Store.after` makes some of them
  one after another.
* `read?_after` says which text is found, and `find?_of_mem_files_after`
  and `find?_of_mem_directories_after` which spelling is kept.  Behind both
  is `mem_foldl_keep_iff`: what is kept was there, or is the first of its
  meaning.
* `store_exec` and `store_perform` say that scripts and operations do
  nothing to a store but make their insertions.
-/

namespace Scaffolding

namespace Store

variable {path key : Path} {paths : List Path}

/-- Something that is put into a store. -/
inductive Insertion where
  | directory (path : Path)
  | file (path : Path) (text : String)

namespace Insertion

/-- The store with what is put into it. -/
def enact (store : Store) : Insertion → Store
  | directory path => store.insertDirectory path
  | file path text => store.insertFile path text

/-- The path of a directory that is put there. -/
def directory? : Insertion → Option Path
  | directory path => some path
  | file _ _ => none

/-- The path of a file that is put there. -/
def file? : Insertion → Option Path
  | directory _ => none
  | file path _ => some path

/-- The text that is put at a path, however it is spelled. -/
def textAt? (path : Path) : Insertion → Option String
  | directory _ => none
  | file other text => if other ≈ path then some text else none

end Insertion

/-- The store after some insertions. -/
def after (store : Store) (insertions : List Insertion) : Store :=
  insertions.foldl Insertion.enact store

theorem after_append (store : Store) (insertions others : List Insertion) :
    store.after (insertions ++ others) = (store.after insertions).after others :=
  List.foldl_append

theorem after_concat (store : Store) (insertions : List Insertion) (insertion : Insertion) :
    store.after (insertions ++ [insertion]) = insertion.enact (store.after insertions) :=
  after_append store insertions [insertion]

/-! ## The last text -/

/-- The text that was put at a path last. -/
def lastText? (insertions : List Insertion) (path : Path) : Option String :=
  insertions.reverse.findSome? (Insertion.textAt? path)

theorem read?_enact (store : Store) (insertion : Insertion) (path : Path) :
    (insertion.enact store).read? path = (insertion.textAt? path).or (store.read? path) := by
  cases insertion with
  | directory other => exact read?_insertDirectory store other path
  | file other text =>
    show (store.insertFile other text).read? path =
      (if other ≈ path then some text else none).or (store.read? path)
    rw [read?_insertFile]
    split <;> rfl

/-- What is found at a path is what was put there last, or was there before. -/
theorem read?_after_eq_or (store : Store) (insertions : List Insertion) (path : Path) :
    (store.after insertions).read? path =
      (lastText? insertions path).or (store.read? path) := by
  induction insertions using List.reverseRecOn with
  | nil => rfl
  | append_singleton earlier last ih =>
    unfold lastText? at ih ⊢
    rw [after_concat, read?_enact, ih, List.reverse_concat, List.findSome?_cons]
    cases last.textAt? path <;> rfl

theorem read?_after (insertions : List Insertion) (path : Path) :
    (empty.after insertions).read? path = lastText? insertions path := by
  rw [read?_after_eq_or]
  exact Option.or_none

/-! ## The first spelling -/

/-- Paths with one more, unless it is there under some spelling. -/
def keep (keys : List Path) (path : Path) : List Path :=
  if keys.any (· ≈ path) then keys else keys ++ [path]

theorem mem_keep_iff {keys : List Path} :
    key ∈ keep keys path ↔ key ∈ keys ∨ key = path ∧ ∀ other ∈ keys, ¬ other ≈ path := by
  unfold keep
  split
  · rename_i hthere
    obtain ⟨other, hmem, hsame⟩ := List.any_eq_true.mp hthere
    constructor
    · exact .inl
    · rintro (hkey | ⟨-, hfree⟩)
      · exact hkey
      · exact absurd (of_decide_eq_true hsame) (hfree other hmem)
  · rename_i hmissing
    have hfree : ∀ other ∈ keys, ¬ other ≈ path := fun other hmem hsame =>
      hmissing (List.any_eq_true.mpr ⟨other, hmem, decide_eq_true hsame⟩)
    rw [List.mem_append, List.mem_singleton]
    exact or_congr_right (iff_self_and.mpr fun _ => hfree)

/-- Paths that are apart are kept as they are, and of those that are put there later each that is
the first of its spellings. -/
theorem mem_foldl_keep_iff {keys : List Path} (hkeys : Path.Apart id keys) :
    key ∈ paths.foldl keep keys ↔ (keys ++ paths).find? (· ≈ key) = some key := by
  induction paths using List.reverseRecOn generalizing key with
  | nil =>
    rw [List.append_nil]
    exact hkeys.find?_eq_some_iff.symm
  | append_singleton earlier last ih =>
    have hsplit : (keys ++ (earlier ++ [last])).find? (· ≈ key) =
        ((keys ++ earlier).find? (· ≈ key)).or ([last].find? (· ≈ key)) := by
      rw [← List.append_assoc, List.find?_append]
    rw [List.foldl_concat, mem_keep_iff, hsplit]
    cases hearlier : (keys ++ earlier).find? (· ≈ key) with
    | some other =>
      -- The place is taken by `other`, and `last` is not kept.
      have hsame : other ≈ key := of_decide_eq_true (List.find?_some hearlier :)
      have hkept : other ∈ earlier.foldl keep keys := by
        rw [ih, ← hearlier]
        simp only [Path.equiv_iff, Path.equiv_iff.mp hsame]
      rw [Option.some_or, ← hearlier, ← ih]
      refine or_iff_left ?_
      rintro ⟨rfl, hfree⟩
      exact hfree other hkept hsame
    | none =>
      have hnew : key ∉ earlier.foldl keep keys := by
        rw [ih, hearlier]
        exact nofun
      rw [Option.none_or, or_iff_right hnew, List.find?_singleton]
      constructor
      · rintro ⟨rfl, -⟩
        rw [if_pos (decide_eq_true (Setoid.refl key))]
      · intro hlast
        split at hlast
        · cases hlast
          refine ⟨rfl, fun other hother hsame => ?_⟩
          have hmem := List.mem_of_find?_eq_some (ih.mp hother)
          exact List.find?_eq_none.mp hearlier other hmem (decide_eq_true hsame)
        · cases hlast

theorem apart_keep {keys : List Path} (hkeys : Path.Apart id keys) (path : Path) :
    Path.Apart id (keep keys path) := by
  unfold keep
  split
  · exact hkeys
  · rename_i hmissing
    refine List.pairwise_append.mpr ⟨hkeys, List.pairwise_singleton _ _, ?_⟩
    intro key hkey other hother hsame
    rw [List.mem_singleton.mp hother] at hsame
    exact hmissing (List.any_eq_true.mpr ⟨key, hkey, decide_eq_true hsame⟩)

theorem files_insertFile (store : Store) (path : Path) (text : String) :
    (store.insertFile path text).files.map (·.1) = keep (store.files.map (·.1)) path := by
  have hthere : store.isFile path = (store.files.map (·.1)).any (· ≈ path) := by
    unfold isFile read?
    rw [Option.isSome_map, List.isSome_find?, List.any_map]
    rfl
  unfold insertFile keep
  rw [← hthere]
  split
  · rw [List.map_map]
    refine List.map_congr_left fun file _ => ?_
    simp only [Function.comp_apply]
    split <;> rfl
  · rw [List.map_append, List.map_singleton]

theorem directories_insertDirectory (store : Store) (path : Path) :
    (store.insertDirectory path).directories = keep store.directories path := by
  unfold insertDirectory keep isDirectory
  split <;> rfl

theorem files_after (store : Store) (insertions : List Insertion) :
    (store.after insertions).files.map (·.1) =
      (insertions.filterMap Insertion.file?).foldl keep (store.files.map (·.1)) := by
  induction insertions generalizing store with
  | nil => rfl
  | cons insertion rest ih =>
    rw [after, List.foldl_cons, ← after, ih]
    cases insertion with
    | directory path =>
      rw [List.filterMap_cons_none rfl, Insertion.enact, files_insertDirectory]
    | file path text =>
      have hfirst : (Insertion.file path text).file? = some path := rfl
      rw [List.filterMap_cons_some hfirst, List.foldl_cons, Insertion.enact, files_insertFile]

theorem directories_after (store : Store) (insertions : List Insertion) :
    (store.after insertions).directories =
      (insertions.filterMap Insertion.directory?).foldl keep store.directories := by
  induction insertions generalizing store with
  | nil => rfl
  | cons insertion rest ih =>
    rw [after, List.foldl_cons, ← after, ih]
    cases insertion with
    | directory path =>
      have hfirst : (Insertion.directory path).directory? = some path := rfl
      rw [List.filterMap_cons_some hfirst, List.foldl_cons, Insertion.enact,
        directories_insertDirectory]
    | file path text =>
      rw [List.filterMap_cons_none rfl, Insertion.enact, directories_insertFile]

/-- A file is kept under the first of its spellings. -/
theorem find?_of_mem_files_after {insertions : List Insertion}
    (hkey : key ∈ (empty.after insertions).files.map (·.1)) :
    (insertions.filterMap Insertion.file?).find? (· ≈ key) = some key := by
  rw [files_after] at hkey
  exact (mem_foldl_keep_iff .nil).mp hkey

/-- A directory is kept under the first of its spellings. -/
theorem find?_of_mem_directories_after {insertions : List Insertion}
    (hkey : key ∈ (empty.after insertions).directories) :
    (insertions.filterMap Insertion.directory?).find? (· ≈ key) = some key := by
  rw [directories_after] at hkey
  exact (mem_foldl_keep_iff .nil).mp hkey

theorem after_directories (store : Store) (paths : List Path) :
    store.after (paths.map Insertion.directory) = paths.foldl insertDirectory store := by
  unfold after
  rw [List.foldl_map]
  rfl

end Store

/-! ## What is put into a store -/

open Store (Insertion)

/-- What is put into a store by an act. -/
def Act.insertion? : Act → Option Insertion
  | .makeDirectory path (.ok _) => some (.directory path)
  | .write path text (.ok _) => some (.file path text)
  | _ => none

namespace Memory

variable {τ α : Type} (load : Template → τ → Except Failure String × τ)

/-- What an order leaves of a store is what its answer says was put there. -/
theorem store_makeDirectory (memory : Memory) (path : Path) :
    (memory.makeDirectory path).2.store.value = memory.store.value.after
      (Act.makeDirectory path (memory.makeDirectory path).1).insertion?.toList := by
  unfold makeDirectory
  rcases memory.order_cases (·.makeDirectory path) with ⟨store, hok, hdone⟩ | ⟨failure, hkept⟩
  · rw [hdone]
    exact (Store.eq_insertDirectory_of_ok hok).1
  · rw [hkept]
    rfl

theorem store_write (memory : Memory) (path : Path) (text : String) :
    (memory.write path text).2.store.value = memory.store.value.after
      (Act.write path text (memory.write path text).1).insertion?.toList := by
  unfold write
  rcases memory.order_cases (·.write path text) with ⟨store, hok, hdone⟩ | ⟨failure, hkept⟩
  · rw [hdone]
    exact (Store.eq_insertFile_of_ok hok).1
  · rw [hkept]
    rfl

theorem store_exec (script : Script α) (state : Memory × τ) :
    let run := script.exec (surroundingsWith load) state
    run.state.1.store.value = state.1.store.value.after (run.acts.filterMap Act.insertion?) := by
  induction script generalizing state with
  | done answer => rfl
  | isDirectory path next ih => exact ih _ state
  | isPresent path next ih => exact ih _ state
  | note event next ih => exact ih state
  | makeDirectory path next ih =>
    have hstore := store_makeDirectory state.1 path
    have haround : (surroundingsWith load).makeDirectory path state =
        ((state.1.makeDirectory path).1, ((state.1.makeDirectory path).2, state.2)) := rfl
    simp only [Script.exec, haround]
    generalize state.1.makeDirectory path = outcome at hstore ⊢
    obtain ⟨answer, memory⟩ := outcome
    cases answer with
    | ok done =>
      refine (ih (memory, state.2)).trans ?_
      rw [hstore]
      rfl
    | error failure => exact hstore
  | write path text next ih =>
    have hstore := store_write state.1 path text
    have haround : (surroundingsWith load).write path text state =
        ((state.1.write path text).1, ((state.1.write path text).2, state.2)) := rfl
    simp only [Script.exec, haround]
    generalize state.1.write path text = outcome at hstore ⊢
    obtain ⟨answer, memory⟩ := outcome
    cases answer with
    | ok done =>
      refine (ih (memory, state.2)).trans ?_
      rw [hstore]
      rfl
    | error failure => exact hstore
  | load template next ih =>
    have haround : (surroundingsWith load).load template state =
        ((load template state.2).1, (state.1, (load template state.2).2)) := rfl
    simp only [Script.exec, haround]
    cases (load template state.2).1 with
    | ok text => exact ih text _
    | error failure => rfl

/-- What is put into a store by a seed.  The ancestors are put there before the text is made. -/
def seedInsertions (memory : Memory) (path : Path) (text : Except Crash String) : List Insertion :=
  if memory.store.isPoisoned then []
  else
    (path.ancestors.filter (· ≠ Path.empty)).map .directory ++
      text.toOption.toList.map (.file path)

theorem store_seed (memory : Memory) (path : Path) (text : Except Crash String) :
    (memory.seed path text).2.store.value =
      memory.store.value.after (memory.seedInsertions path text) := by
  obtain ⟨⟨store, isPoisoned⟩, shelf⟩ := memory
  unfold seedInsertions
  cases isPoisoned with
  | true => rfl
  | false =>
    rw [if_neg Bool.false_ne_true, Store.after_append, Store.after_directories]
    cases text with
    | ok text => rfl
    | error crash => rfl

/-- What is put into a store by an operation. -/
def Operation.insertions (load : Template → τ → Except Failure String × τ) :
    Operation → Memory × τ → List Insertion
  | makeDirectory path, (memory, _) =>
    (Act.makeDirectory path (memory.makeDirectory path).1).insertion?.toList
  | write path text, (memory, _) =>
    (Act.write path text (memory.write path text).1).insertion?.toList
  | run task, state =>
    (task.script.exec (surroundingsWith load) state).acts.filterMap Act.insertion?
  | seed path text, (memory, _) => memory.seedInsertions path text

/-- An operation does nothing to a store but make its insertions. -/
theorem store_perform (operation : Operation) (state : Memory × τ) :
    (operation.perform load state).1.store.value =
      state.1.store.value.after (operation.insertions load state) := by
  cases operation with
  | makeDirectory path => exact store_makeDirectory state.1 path
  | write path text => exact store_write state.1 path text
  | run task => exact store_exec load task.script state
  | seed path text => exact store_seed state.1 path text

end Memory

end Scaffolding
