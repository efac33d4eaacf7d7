import Scaffolding.Proofs.Store.Listing

/-!
# Seeds in any order

Files that are seeded at different places do not get in each other's way.
Their ancestors may be the same, and then the first seed has its spelling
kept; nothing else tells in which order the seeds came.

* `Store.seedAll` makes the seeds, and there is one lemma for each look at
  the store afterwards.
* `Store.Reordered` is what two orders of the same seeds have in common,
  and `reordered_seedAll` proves it from these lemmas.
* `canonical_listings` is the result, on listings and on seeds.
-/

namespace Scaffolding

open Scaffolding.Path (Apart)

namespace Store

variable {store : Store} {path : Path} {seeds seeds' : List (Path × String)}

/-! ## One seed after another -/

/-- The store with some files and a directory at every ancestor of them. -/
def seedAll (store : Store) (seeds : List (Path × String)) : Store :=
  seeds.foldl (fun store seed => store.seed seed.1 seed.2) store

/-- The ancestors that are made for some files, one file after another. -/
def ancestorsOf (seeds : List (Path × String)) : List Path :=
  seeds.flatMap fun seed => seed.1.ancestors.filter (· ≠ Path.empty)

theorem directories_insertAncestors (store : Store) (path : Path) :
    (store.insertAncestors path).directories =
      (path.ancestors.filter (· ≠ Path.empty)).foldl keep store.directories := by
  unfold insertAncestors
  induction path.ancestors.filter (· ≠ Path.empty) generalizing store with
  | nil => rfl
  | cons ancestor rest ih => rw [List.foldl_cons, ih, directories_insertDirectory, List.foldl_cons]

/-- Of the paths of the files each is kept that is the first of its spellings. -/
theorem files_seedAll (store : Store) (seeds : List (Path × String)) :
    (store.seedAll seeds).files.map (·.1) =
      (seeds.map (·.1)).foldl keep (store.files.map (·.1)) := by
  induction seeds generalizing store with
  | nil => rfl
  | cons first rest ih =>
    rw [seedAll, List.foldl_cons, ← seedAll, ih, seed, files_insertFile, files_insertAncestors,
      List.map_cons, List.foldl_cons]

/-- Of the ancestors each is kept that is the first of its spellings. -/
theorem directories_seedAll (store : Store) (seeds : List (Path × String)) :
    (store.seedAll seeds).directories = (ancestorsOf seeds).foldl keep store.directories := by
  induction seeds generalizing store with
  | nil => rfl
  | cons first rest ih =>
    rw [seedAll, List.foldl_cons, ← seedAll, ih, seed, directories_insertFile,
      directories_insertAncestors, ← List.foldl_append]
    rfl

/-- The last text is found. -/
theorem read?_seedAll (store : Store) (seeds : List (Path × String)) (path : Path) :
    (store.seedAll seeds).read? path =
      ((seeds.reverse.find? (·.1 ≈ path)).map (·.2)).or (store.read? path) := by
  induction seeds using List.reverseRecOn with
  | nil => rfl
  | append_singleton earlier last ih =>
    have hlast : store.seedAll (earlier ++ [last]) = (store.seedAll earlier).seed last.1 last.2 :=
      List.foldl_concat _ _ _ _
    rw [hlast, seed, read?_insertFile, read?_insertAncestors, ih, List.reverse_concat,
      List.find?_cons]
    by_cases hsame : last.1 ≈ path
    · rw [if_pos hsame, decide_eq_true hsame]
      rfl
    · rw [if_neg hsame, decide_eq_false hsame]

theorem isDirectory_seedAll_iff :
    (store.seedAll seeds).isDirectory path = true ↔
      store.isDirectory path = true ∨ ∃ seed ∈ seeds, path.Above seed.1 := by
  induction seeds generalizing store with
  | nil => simp [seedAll]
  | cons first rest ih =>
    rw [seedAll, List.foldl_cons, ← seedAll, ih, seed, isDirectory_insertFile,
      isDirectory_insertAncestors_iff, List.exists_mem_cons_iff, or_assoc]

theorem IsApart.seedAll (hstore : store.IsApart) (seeds : List (Path × String)) :
    (store.seedAll seeds).IsApart := by
  induction seeds generalizing store with
  | nil => exact hstore
  | cons first rest ih => exact ih (hstore.seed first.1 first.2)

/-! ## Another order -/

/-- What two stores have in common that came from one by the same files, put there in different
orders: everything but how directories are spelled that are new and lie above several files. -/
structure Reordered (start : Store) (seeds : List (Path × String)) (store store' : Store) :
    Prop where
  listFiles_eq : store.listFiles = store'.listFiles
  read?_eq : ∀ path, store.read? path = store'.read? path
  isDirectory_eq : ∀ path, store.isDirectory path = store'.isDirectory path
  meanings_eq : store.listDirectories.map Path.components =
    store'.listDirectories.map Path.components
  respelled : ∀ directory ∈ store.directories, ∀ directory' ∈ store'.directories,
    directory ≈ directory' → directory = directory' ∨
      start.isDirectory directory = false ∧ ∃ seed ∈ seeds, ∃ other ∈ seeds,
        ¬ seed.1 ≈ other.1 ∧ directory.Above seed.1 ∧ directory.Above other.1

theorem isDirectory_eq_of_perm (hperm : seeds.Perm seeds') (path : Path) :
    (store.seedAll seeds).isDirectory path = (store.seedAll seeds').isDirectory path := by
  rw [Bool.eq_iff_iff, isDirectory_seedAll_iff, isDirectory_seedAll_iff]
  simp only [hperm.mem_iff]

theorem read?_eq_of_perm (hperm : seeds.Perm seeds') (hseeds : Apart (·.1) seeds) (path : Path) :
    (store.seedAll seeds).read? path = (store.seedAll seeds').read? path := by
  have hreverse : seeds.reverse.Perm seeds'.reverse :=
    (seeds.reverse_perm.trans hperm).trans seeds'.reverse_perm.symm
  rw [read?_seedAll, read?_seedAll,
    (hseeds.perm seeds.reverse_perm.symm).find?_eq_of_perm hreverse]

/-- A file is stored if its path is, and if it is found there. -/
theorem IsApart.mem_files_iff (hstore : store.IsApart) {file : Path × String} :
    file ∈ store.files ↔
      file.1 ∈ store.files.map (·.1) ∧ store.read? file.1 = some file.2 := by
  have hread : ∀ {file : Path × String}, file ∈ store.files →
      store.read? file.1 = some file.2 := by
    intro file hfile
    unfold read?
    rw [hstore.files.find?_eq_some_iff.mpr hfile, Option.map_some]
  constructor
  · exact fun hfile => ⟨List.mem_map_of_mem hfile, hread hfile⟩
  · rintro ⟨hpath, hfound⟩
    obtain ⟨other, hother, hsame⟩ := List.mem_map.mp hpath
    have hboth := hread hother
    rw [hsame, hfound] at hboth
    rwa [Prod.ext hsame.symm (Option.some.inj hboth)]

theorem mem_files_iff_of_perm (hstore : store.IsApart) (hperm : seeds.Perm seeds')
    (hseeds : Apart (·.1) seeds) (file : Path × String) :
    file ∈ (store.seedAll seeds).files ↔ file ∈ (store.seedAll seeds').files := by
  have hkeys : Apart id (store.files.map (·.1)) := Path.apart_map_iff.mpr hstore.files
  have hfind : (seeds.map (·.1)).find? (· ≈ file.1) = (seeds'.map (·.1)).find? (· ≈ file.1) :=
    (Path.apart_map_iff.mpr hseeds).find?_eq_of_perm (hperm.map _) file.1
  rw [(hstore.seedAll seeds).mem_files_iff, (hstore.seedAll seeds').mem_files_iff,
    read?_eq_of_perm hperm hseeds, files_seedAll, files_seedAll, mem_foldl_keep_iff hkeys,
    mem_foldl_keep_iff hkeys, List.find?_append, List.find?_append, hfind]

/-- A directory that is stored was there already, or is an ancestor of a file and was missing. -/
theorem IsApart.mem_directories_cases (hstore : store.IsApart) {directory : Path}
    (hmem : directory ∈ (store.seedAll seeds).directories) :
    directory ∈ store.directories ∨ store.isDirectory directory = false ∧
      ∃ seed ∈ seeds, directory ∈ seed.1.ancestors ∧ directory ≠ .empty := by
  rw [directories_seedAll, mem_foldl_keep_iff hstore.directories, List.find?_append] at hmem
  cases hold : store.directories.find? (· ≈ directory) with
  | some other =>
    rw [hold, Option.some_or] at hmem
    cases hmem
    exact .inl (List.mem_of_find?_eq_some hold)
  | none =>
    rw [hold, Option.none_or] at hmem
    obtain ⟨seed, hseed, hancestor⟩ := List.mem_flatMap.mp (List.mem_of_find?_eq_some hmem)
    obtain ⟨hancestor, hne⟩ := List.mem_filter.mp hancestor
    have hmissing : store.isDirectory directory = false := by
      unfold isDirectory
      exact List.any_eq_false.mpr (List.find?_eq_none.mp hold)
    exact .inr ⟨hmissing, seed, hseed, hancestor, of_decide_eq_true hne⟩

/-- A directory that two orders spell differently is new and lies above several files. -/
theorem respelled_of_perm (hstore : store.IsApart) (hperm : seeds.Perm seeds')
    (hseeds : Apart (·.1) seeds) {directory directory' : Path}
    (hmem : directory ∈ (store.seedAll seeds).directories)
    (hmem' : directory' ∈ (store.seedAll seeds').directories) (hsame : directory ≈ directory')
    (hne : directory ≠ directory') :
    store.isDirectory directory = false ∧ ∃ seed ∈ seeds, ∃ other ∈ seeds,
      ¬ seed.1 ≈ other.1 ∧ directory.Above seed.1 ∧ directory.Above other.1 := by
  have hthere : ∀ {path : Path}, path ∈ store.directories → store.isDirectory path = true :=
    fun hpath => List.any_eq_true.mpr ⟨_, hpath, decide_eq_true (Setoid.refl _)⟩
  have hlook := store.isDirectory_congr hsame
  rcases hstore.mem_directories_cases hmem with hold | ⟨hmissing, seed, hseed, hancestor, hproper⟩
  · rcases hstore.mem_directories_cases hmem' with hold' | ⟨hmissing', -⟩
    · exact absurd (hstore.directories.eq_of_equiv hold hold' hsame) hne
    · rw [hthere hold, hmissing'] at hlook
      cases hlook
  · rcases hstore.mem_directories_cases hmem' with hold' | ⟨-, other, hother, hancestor', hproper'⟩
    · rw [hthere hold', hmissing] at hlook
      cases hlook
    · have hother := hperm.mem_iff.mpr hother
      refine ⟨hmissing, seed, hseed, other, hother, ?_, ?_, ?_⟩
      · -- One seed makes one ancestor for a place.
        intro hfile
        obtain rfl := hseeds.eq_of_equiv hseed hother hfile
        exact hne ((Path.apart_ancestors _).eq_of_equiv hancestor hancestor' hsame)
      · exact Path.above_of_mem_ancestors hancestor hproper
      · exact (Path.above_of_mem_ancestors hancestor' hproper').congr
          (Path.equiv_iff.mp (Setoid.symm hsame)) rfl

theorem mem_meanings_iff (hstore : store.IsApart) {steps : List Path.Component} :
    steps ∈ store.listDirectories.map Path.components ↔
      ∃ path : Path, path.components = steps ∧ store.isDirectory path = true := by
  have hperm := hstore.listDirectories.perm
  constructor
  · intro hsteps
    obtain ⟨path, hpath, hmeans⟩ := List.mem_map.mp hsteps
    refine ⟨path, hmeans, List.any_eq_true.mpr ⟨path, hperm.mem_iff.mp hpath, ?_⟩⟩
    exact decide_eq_true (Setoid.refl path)
  · rintro ⟨path, rfl, hthere⟩
    obtain ⟨directory, hdirectory, hsame⟩ := List.any_eq_true.mp hthere
    exact List.mem_map.mpr ⟨directory, hperm.mem_iff.mpr hdirectory, of_decide_eq_true hsame⟩

/-- Files at different places can be put into a store in any order. -/
theorem reordered_seedAll (hstore : store.IsApart) (hperm : seeds.Perm seeds')
    (hseeds : Apart (·.1) seeds) :
    Reordered store seeds (store.seedAll seeds) (store.seedAll seeds') where
  listFiles_eq := by
    have hlisted := (hstore.seedAll seeds).listFiles
    refine (hstore.seedAll seeds').listFiles.only _ hlisted.increasing fun file => ?_
    rw [hlisted.perm.mem_iff, mem_files_iff_of_perm hstore hperm hseeds]
  read?_eq := read?_eq_of_perm hperm hseeds
  isDirectory_eq := isDirectory_eq_of_perm hperm
  meanings_eq := by
    refine (hstore.seedAll seeds).listDirectories.increasing.map_components_eq
      (hstore.seedAll seeds').listDirectories.increasing fun steps => ?_
    rw [mem_meanings_iff (hstore.seedAll seeds), mem_meanings_iff (hstore.seedAll seeds')]
    simp only [isDirectory_eq_of_perm hperm]
  respelled directory hmem directory' hmem' hsame := by
    by_cases heq : directory = directory'
    · exact .inl heq
    · exact .inr (respelled_of_perm hstore hperm hseeds hmem hmem' hsame heq)

end Store

namespace Memory

variable {memory : Memory} {seeds seeds' : List (Path × Except Crash String)}

/-! ## Seeds of a memory -/

/-- The memory after some seeds. -/
def afterSeeds (seeds : List (Path × Except Crash String)) (memory : Memory) : Memory :=
  afterUses (seeds.map fun seed => .store (.seed seed.1 seed.2)) memory

/-- The seeds whose text could be made. -/
def madeSeeds (seeds : List (Path × Except Crash String)) : List (Path × String) :=
  seeds.filterMap fun seed => seed.2.toOption.map (seed.1, ·)

/-- A lock that is not poisoned after some seeds was not poisoned before, and all of them went
through. -/
theorem store_afterSeeds (hlock : (afterSeeds seeds memory).store.isPoisoned = false) :
    (afterSeeds seeds memory).store.value = memory.store.value.seedAll (madeSeeds seeds) := by
  induction seeds generalizing memory with
  | nil => rfl
  | cons first rest ih =>
    obtain ⟨path, text⟩ := first
    obtain ⟨⟨store, isPoisoned⟩, shelf⟩ := memory
    have hbefore := isPoisoned_afterUses
      (((path, text) :: rest).map fun seed => .store (.seed seed.1 seed.2))
      ⟨⟨store, isPoisoned⟩, shelf⟩
    rw [← afterSeeds, hlock, List.map_cons, List.any_cons] at hbefore
    obtain ⟨rfl, hfirst⟩ := Bool.or_eq_false_iff.mp hbefore.symm
    cases text with
    | error crash => cases hfirst
    | ok text => exact ih hlock

/-- That a directory is new to a memory and lies above several of the files that are seeded. -/
def IsShared (memory : Memory) (seeds : List (Path × Except Crash String)) (directory : Path) :
    Prop :=
  memory.isDirectory directory = false ∧ ∃ seed ∈ seeds, ∃ other ∈ seeds,
    ¬ seed.1 ≈ other.1 ∧ directory.Above seed.1 ∧ directory.Above other.1

/-- That two memories, which come from one by the same seeds, answer the same whatever they are
asked for, but for how directories are spelled that the seeds share. -/
structure SameListings (start : Memory) (seeds : List (Path × Except Crash String))
    (memory memory' : Memory) : Prop where
  listFiles_eq : memory.listFiles = memory'.listFiles
  read_eq : ∀ path, memory.read path = memory'.read path
  isDirectory_eq : ∀ path, memory.isDirectory path = memory'.isDirectory path
  isPresent_eq : ∀ path, memory.isPresent path = memory'.isPresent path
  meanings_eq : memory.listDirectories.map (·.map Path.components) =
    memory'.listDirectories.map (·.map Path.components)
  respelled : ∀ directories directories', memory.listDirectories = .ok directories →
    memory'.listDirectories = .ok directories' →
      ∀ directory ∈ directories, ∀ directory' ∈ directories', directory ≈ directory' →
        directory = directory' ∨ start.IsShared seeds directory

theorem isPoisoned_afterSeeds (hperm : seeds.Perm seeds') :
    (afterSeeds seeds memory).store.isPoisoned = (afterSeeds seeds' memory).store.isPoisoned := by
  unfold afterSeeds
  rw [isPoisoned_afterUses, isPoisoned_afterUses, List.any_map, List.any_map, hperm.any_eq]

theorem sameListings_of_poisoned {memory' : Memory} (hlock : memory.store.isPoisoned = true)
    (hlock' : memory'.store.isPoisoned = true) (start : Memory) :
    SameListings start seeds memory memory' := by
  have hview {α : Type} (look : Store → α) : memory.store.view look = memory'.store.view look := by
    rw [view_of_poisoned hlock, view_of_poisoned hlock']
  have hview? {α : Type} (look : Store → α) :
      memory.store.view? look = memory'.store.view? look := by
    rw [view?_of_poisoned hlock, view?_of_poisoned hlock']
  refine ⟨hview _, fun path => hview _, ?_, ?_, ?_, ?_⟩
  · exact fun path => congrArg (Option.getD · false) (hview? _)
  · exact fun path => congrArg (Option.getD · false) (hview? _)
  · exact congrArg (Except.map _) (hview _)
  · intro directories directories' hlisted
    rw [listDirectories, view_of_poisoned hlock] at hlisted
    cases hlisted

theorem exists_of_mem_madeSeeds {seed : Path × String} (hmade : seed ∈ madeSeeds seeds) :
    ∃ other ∈ seeds, other.1 = seed.1 := by
  obtain ⟨other, hother, hsome⟩ := List.mem_filterMap.mp hmade
  obtain ⟨text, -, rfl⟩ := Option.map_eq_some_iff.mp hsome
  exact ⟨other, hother, rfl⟩

theorem apart_madeSeeds (hseeds : Apart (·.1) seeds) : Apart (·.1) (madeSeeds seeds) := by
  refine List.pairwise_filterMap.mpr (hseeds.imp ?_)
  intro seed other hapart made hmade made' hmade'
  obtain ⟨text, -, rfl⟩ := Option.map_eq_some_iff.mp hmade
  obtain ⟨text', -, rfl⟩ := Option.map_eq_some_iff.mp hmade'
  exact hapart

/-- What two stores have in common shows in the memories that hold them. -/
theorem sameListings_of_reordered {start memory' : Memory}
    (hstart : start.store.isPoisoned = false) (hlock : memory.store.isPoisoned = false)
    (hlock' : memory'.store.isPoisoned = false)
    (hstores : Store.Reordered start.store.value (madeSeeds seeds) memory.store.value
      memory'.store.value) : SameListings start seeds memory memory' where
  listFiles_eq := by
    unfold listFiles
    rw [view_of_healthy hlock, view_of_healthy hlock', hstores.listFiles_eq]
  read_eq path := by
    unfold read
    rw [view_of_healthy hlock, view_of_healthy hlock', hstores.read?_eq]
  isDirectory_eq path := by
    rw [isDirectory_of_healthy hlock, isDirectory_of_healthy hlock', hstores.isDirectory_eq]
  isPresent_eq path := by
    have hpresent : memory.store.value.isPresent path = memory'.store.value.isPresent path := by
      unfold Store.isPresent Store.isFile
      rw [hstores.read?_eq, hstores.isDirectory_eq]
    unfold isPresent
    rw [view?_of_healthy hlock, view?_of_healthy hlock', hpresent]
  meanings_eq := by
    unfold listDirectories
    rw [view_of_healthy hlock, view_of_healthy hlock', Except.map, Except.map, hstores.meanings_eq]
  respelled := by
    unfold listDirectories
    rw [view_of_healthy hlock, view_of_healthy hlock']
    rintro _ _ ⟨⟩ ⟨⟩ directory hmem directory' hmem' hsame
    have hstored := List.mem_mergeSort.mp hmem
    have hstored' := List.mem_mergeSort.mp hmem'
    refine (hstores.respelled directory hstored directory' hstored' hsame).imp_right ?_
    rintro ⟨hmissing, made, hmade, made', hmade', hapart, habove, habove'⟩
    obtain ⟨seed, hseed, hpath⟩ := exists_of_mem_madeSeeds hmade
    obtain ⟨other, hother, hpath'⟩ := exists_of_mem_madeSeeds hmade'
    rw [← isDirectory_of_healthy hstart] at hmissing
    rw [← hpath] at hapart habove
    rw [← hpath'] at hapart habove'
    exact ⟨hmissing, seed, hseed, other, hother, hapart, habove, habove'⟩

/-- Seeds at different places can be made in any order. -/
theorem sameListings_afterSeeds (hstore : memory.store.value.IsApart) (hperm : seeds.Perm seeds')
    (hseeds : Apart (·.1) seeds) :
    SameListings memory seeds (afterSeeds seeds memory) (afterSeeds seeds' memory) := by
  cases hlock : (afterSeeds seeds memory).store.isPoisoned with
  | true => exact sameListings_of_poisoned hlock (isPoisoned_afterSeeds hperm ▸ hlock) memory
  | false =>
    have hlock' := isPoisoned_afterSeeds hperm ▸ hlock
    have hstart : memory.store.isPoisoned = false := by
      have hafter := isPoisoned_afterUses _ memory ▸ hlock
      exact (Bool.or_eq_false_iff.mp hafter).1
    have hmade : (madeSeeds seeds).Perm (madeSeeds seeds') := hperm.filterMap _
    have hreordered := Store.reordered_seedAll hstore hmade (apart_madeSeeds hseeds)
    rw [← store_afterSeeds hlock, ← store_afterSeeds hlock'] at hreordered
    exact sameListings_of_reordered hstart hlock hlock' hreordered

/-! ## The result -/

/-- Whatever a fresh memory is used for, it lists its files and directories, each once and in the
order of the places that `compare` decides, or refuses to since a use broke off.  Seeds at different
places then leave the same listings in every order, but for how directories are spelled that they
share. -/
theorem canonical_listings (shelf : Guarded Shelf) (uses : List Use) :
    let memory := afterUses uses ⟨.fresh .empty, shelf⟩
    Path.OrdersPlaces Path.Precedes ∧
      (uses.any Use.breaksOff = false → ∃ files directories, memory.Listed files directories) ∧
      (uses.any Use.breaksOff = true → memory.Unlisted) ∧
      ∀ seeds seeds' : List (Path × Except Crash String), seeds.Perm seeds' → Apart (·.1) seeds →
        SameListings memory seeds (afterSeeds seeds memory) (afterSeeds seeds' memory) := by
  intro memory
  have hstore : memory.store.value.IsApart := isApart_afterUses uses Store.isApart_empty
  have hlock : memory.store.isPoisoned = uses.any Use.breaksOff := isPoisoned_afterUses uses _
  refine ⟨Path.ordersPlaces_precedes, ?_, ?_, ?_⟩
  · exact fun hfine => ⟨_, _, listed_of_isApart (hlock.trans hfine) hstore⟩
  · exact fun hbroken => unlisted_of_poisoned (hlock.trans hbroken)
  · exact fun seeds seeds' => sameListings_afterSeeds hstore

/-- Two files below one directory that they spell in two ways: its first spelling is kept, and all
else is listed alike. -/
theorem canonical_listings_of_slashes :
    let memory := afterSeeds [(.ofText "a-b", .ok "one")] .empty
    let seeds := [(Path.ofText "a//b/f", .ok "two"), (.ofText "a/b/g", .ok "three")]
    let left := afterSeeds seeds memory
    let right := afterSeeds seeds.reverse memory
    left.listFiles = .ok [(.ofText "a//b/f", "two"), (.ofText "a/b/g", "three"),
        (.ofText "a-b", "one")] ∧
      left.listFiles = right.listFiles ∧
      left.listDirectories = .ok [.ofText "a", .ofText "a//b"] ∧
      right.listDirectories = .ok [.ofText "a", .ofText "a/b"] := by
  intro memory seeds left right
  let uses (seeds : List (Path × Except Crash String)) : List Use :=
    seeds.map fun seed => .store (.seed seed.1 seed.2)
  have hlisted (seeds : List (Path × Except Crash String))
      (hfine : (uses ((.ofText "a-b", .ok "one") :: seeds)).any Use.breaksOff = false) :
      ∃ files directories, (afterSeeds seeds memory).Listed files directories :=
    (canonical_listings (.fresh .empty) (uses ((.ofText "a-b", .ok "one") :: seeds))).2.1 hfine
  obtain ⟨-, -, -, hsame⟩ := canonical_listings (.fresh .empty) (uses [(.ofText "a-b", .ok "one")])
  obtain ⟨files, directories, hleft⟩ := hlisted seeds rfl
  obtain ⟨files', directories', hright⟩ := hlisted seeds.reverse rfl
  obtain rfl := hleft.lists_files.only
    [(.ofText "a//b/f", "two"), (.ofText "a/b/g", "three"), (.ofText "a-b", "one")]
    (by decide +kernel) fun _ => List.Perm.mem_iff (by decide +kernel)
  obtain rfl := hleft.lists_directories.only [.ofText "a", .ofText "a//b"]
    (by decide +kernel) fun _ => List.Perm.mem_iff (by decide +kernel)
  obtain rfl := hright.lists_directories.only [.ofText "a", .ofText "a/b"]
    (by decide +kernel) fun _ => List.Perm.mem_iff (by decide +kernel)
  refine ⟨hleft.listFiles_eq, ?_, hleft.listDirectories_eq, hright.listDirectories_eq⟩
  exact (hsame seeds seeds.reverse seeds.reverse_perm.symm (by decide +kernel)).listFiles_eq

end Memory

end Scaffolding
