import Scaffolding.Proofs.Disk.Stop
import Scaffolding.Proofs.Script.Concurrence
import Scaffolding.Proofs.Store.Foresight

/-!
# What a poisoned lock lets through

Whoever breaks off while it holds a lock leaves its work half done.  Nobody
sees that half, and nobody adds to it: every call is refused from then on.

* `StoreCall` and `ShelfCall` list the calls with the answer that refuses
  them, and `afterUses` does them one after another, with scripts between.
* `Script.FailClosed` is what scripts come to over a poisoned store, and
  `Script.TemplatesShut` what a scaffold comes to over a poisoned shelf.
* `StoreShut` and `ShelfShut` collect what is left of a memory, and
  `shut_for_ever` is the result.
-/

namespace Scaffolding

open Report (Entry)

namespace Script

variable {σ : Type} {around : Surroundings σ} {provider : Provider} {root : Path} {state : σ}

/-! ## Where nothing can be looked at or made -/

/-- A scaffold whose first directory is missing and refused ends there. -/
theorem scaffold_of_refused_home {failure : Failure}
    (hlook : around.isDirectory (provider.home root) state = (false, state))
    (hmake : around.makeDirectory (provider.home root) state = (.error failure, state)) :
    (scaffold provider root).exec around state =
      ⟨[.isDirectory (provider.home root) false,
          .makeDirectory (provider.home root) (.error failure)], .error failure, state⟩ := by
  obtain ⟨acts, result, state', htour, hexec⟩ := @exec_scaffold _ around provider root state
  rw [hexec]
  cases htour with
  | go hvisit =>
    cases hvisit with
    | directoryFound hfound => cases hlook.symm.trans hfound
    | directoryMade hmissing hmade =>
      cases hlook.symm.trans hmissing
      cases hmake.symm.trans hmade
  | stop hvisit =>
    cases hvisit with
    | directoryRefused hmissing hrefused =>
      cases hlook.symm.trans hmissing
      cases hmake.symm.trans hrefused
      rfl

/-- What the two scripts come to where a lock is poisoned: a scaffold fails before it asks for a
template, and a plan says that nothing is there. -/
structure FailClosed (around : Surroundings σ) (state : σ) : Prop where
  scaffold : ∀ provider root, (scaffold provider root).exec around state =
    ⟨[.isDirectory (provider.home root) false,
        .makeDirectory (provider.home root) (.error .lockPoisoned)], .error .lockPoisoned, state⟩
  plan : ∀ provider root,
    ((plan provider root).exec around state).answer = .ok ⟨provider, provider.home root,
        (provider.sites root).map fun site => site.entry .wouldCreate⟩ ∧
      ((plan provider root).exec around state).state = state

/-- What a scaffold comes to where every template is behind a poisoned lock: it fails for that
exactly if it looks for a file in vain, with all directories in place, and never writes. -/
structure TemplatesShut (around : Surroundings σ) (state : σ) : Prop where
  failed_iff : ∀ provider root, let run := (scaffold provider root).exec around state
    run.answer = .error .lockPoisoned ↔
      ∃ template, .isPresent (provider.file root template) false ∈ run.acts
  in_place : ∀ provider root, let run := (scaffold provider root).exec around state
    run.answer = .error .lockPoisoned → ∀ path ∈ provider.directories root,
      (around.isDirectory path run.state).1 = true
  no_write : ∀ provider root path text answer,
    .write path text answer ∉ ((scaffold provider root).exec around state).acts

theorem failClosed_of_refused (hdirectory : ∀ path, around.isDirectory path state = (false, state))
    (hpresent : ∀ path, around.isPresent path state = (false, state))
    (hmake : ∀ path, around.makeDirectory path state = (.error .lockPoisoned, state)) :
    FailClosed around state where
  scaffold _ _ := scaffold_of_refused_home (hdirectory _) (hmake _)
  plan provider root := by
    obtain ⟨hanswer, hstate⟩ := @exec_plan _ around provider root state
      (fun path => congrArg Prod.snd (hdirectory path))
      (fun path => congrArg Prod.snd (hpresent path))
    refine ⟨?_, hstate⟩
    have hnone : ∀ site, around.finds state site = false := by
      intro site
      cases site with
      | directory path => exact congrArg Prod.fst (hdirectory path)
      | file template path => exact congrArg Prod.fst (hpresent path)
    rw [hanswer]
    simp only [hnone, Bool.false_eq_true, if_false]

/-- It is enough that looks and templates change nothing, and that a directory that was visited
is found. -/
theorem templatesShut_of_withholds {shut : σ → Prop}
    (hwithholds : around.Withholds .lockPoisoned shut) (hshut : shut state)
    (hlook : ∀ path state, (around.isPresent path state).2 = state)
    (hload : ∀ template state, (around.load template state).2 = state)
    (hholds : ∀ {provider root before after acts entries middle},
      provider.sites root = before ++ after →
      Tour around provider before state acts (.ok entries) middle →
      ∀ path, .directory path ∈ before → (around.isDirectory path middle).1 = true) :
    TemplatesShut around state where
  failed_iff provider root := (scaffold_withheld hwithholds hshut provider root).1
  no_write provider root := (scaffold_withheld hwithholds hshut provider root).2.2.1
  in_place provider root := by
    intro run hfailed path hpath
    obtain ⟨acts, result, htour, hanswer, -⟩ := exists_tour around provider root state
    have hanswer : run.answer = _ := hanswer
    cases result with
    | ok entries => cases hanswer.symm.trans hfailed
    | error failure =>
      cases hanswer.symm.trans hfailed
      obtain ⟨before, template, after, first, last, entries, middle, looked, hsites, hdirectories,
        -, hbefore, hmissing, hrefused⟩ := htour.exists_stop_withheld hwithholds hshut
      have hlooked := hlook (provider.file root template) middle
      rw [hmissing] at hlooked
      have hend := hload template looked
      rw [hrefused] at hend
      have hstate : run.state = middle := hend.trans hlooked
      rw [hstate]
      exact hholds hsites hbefore path (hdirectories path hpath)

end Script

namespace Memory

/-! ## Calls and how they are refused -/

/-- What can be asked of the store, with the type of the answer. -/
inductive StoreCall : Type → Type 1 where
  | makeDirectory (path : Path) : StoreCall (Except Failure Unit)
  | write (path : Path) (text : String) : StoreCall (Except Failure Unit)
  | isDirectory (path : Path) : StoreCall Bool
  | isPresent (path : Path) : StoreCall Bool
  | seed (path : Path) (text : Except Crash String) : StoreCall (Except Crash Unit)
  | read (path : Path) : StoreCall (Except Crash (Option String))
  | listFiles : StoreCall (Except Crash (List (Path × String)))
  | listDirectories : StoreCall (Except Crash (List Path))

/-- What can be asked of the shelf, with the type of the answer. -/
inductive ShelfCall : Type → Type 1 where
  | load (template : Template) : ShelfCall (Except Failure String)
  | insert (template : Template) (text : Except Crash String) : ShelfCall (Except Crash Unit)
  | count : ShelfCall (Except Crash Nat)
  | isEmpty : ShelfCall (Except Crash Bool)

variable {α : Type} {memory : Memory}

/-- The answer to a call to the store, and the memory afterwards. -/
def StoreCall.perform : StoreCall α → Memory → α × Memory
  | makeDirectory path, memory => memory.makeDirectory path
  | write path text, memory => memory.write path text
  | isDirectory path, memory => (memory.isDirectory path, memory)
  | isPresent path, memory => (memory.isPresent path, memory)
  | seed path text, memory => memory.seed path text
  | read path, memory => (memory.read path, memory)
  | listFiles, memory => (memory.listFiles, memory)
  | listDirectories, memory => (memory.listDirectories, memory)

/-- The answer to a call to the shelf, and the memory afterwards. -/
def ShelfCall.perform : ShelfCall α → Memory → α × Memory
  | load template, memory => (memory.load template, memory)
  | insert template text, memory => memory.insertTemplate template text
  | count, memory => (memory.templateCount, memory)
  | isEmpty, memory => (memory.isShelfEmpty, memory)

/-- The answer that refuses a call to the store. -/
def StoreCall.refusal : StoreCall α → α
  | makeDirectory _ | write _ _ => .error .lockPoisoned
  | isDirectory _ | isPresent _ => false
  | seed _ _ | read _ | listFiles | listDirectories => .error Guarded.poisonCrash

/-- The answer that refuses a call to the shelf. -/
def ShelfCall.refusal : ShelfCall α → α
  | load _ => .error .lockPoisoned
  | insert _ _ | count | isEmpty => .error Guarded.poisonCrash

/-- Every call to a poisoned store is refused and changes nothing. -/
theorem StoreCall.perform_of_poisoned (hpoisoned : memory.store.isPoisoned = true)
    (call : StoreCall α) : call.perform memory = (call.refusal, memory) := by
  obtain ⟨⟨store, _⟩, shelf⟩ := memory
  obtain rfl : _ = true := hpoisoned
  cases call <;> rfl

/-- Every call to a poisoned shelf is refused and changes nothing. -/
theorem ShelfCall.perform_of_poisoned (hpoisoned : memory.shelf.isPoisoned = true)
    (call : ShelfCall α) : call.perform memory = (call.refusal, memory) := by
  obtain ⟨store, ⟨shelf, _⟩⟩ := memory
  obtain rfl : _ = true := hpoisoned
  cases call <;> rfl

theorem shelf_order (memory : Memory) (change : Store → Except Failure Store) :
    (memory.order change).2.shelf = memory.shelf := by
  rcases memory.order_cases change with ⟨store, -, hdone⟩ | ⟨failure, hkept⟩
  · rw [hdone]
  · rw [hkept]

/-- A call to the store does not touch the shelf. -/
theorem StoreCall.shelf_perform (call : StoreCall α) (memory : Memory) :
    (call.perform memory).2.shelf = memory.shelf := by
  cases call with
  | makeDirectory path | write path text => exact shelf_order memory _
  | isDirectory | isPresent | seed | read | listFiles | listDirectories => rfl

/-- A call to the shelf does not touch the store. -/
theorem ShelfCall.store_perform (call : ShelfCall α) (memory : Memory) :
    (call.perform memory).2.store = memory.store := by
  cases call <;> rfl

/-! ## One use after another -/

/-- A use of a memory: a call to one of its parts, or a script over its store, with templates from
its shelf or from anywhere. -/
inductive Use : Type 1 where
  | store {α : Type} (call : StoreCall α)
  | shelf {α : Type} (call : ShelfCall α)
  | run (task : Script.Task)
  | runWith {τ : Type} (load : Template → τ → Except Failure String × τ) (source : τ)
    (task : Script.Task)

/-- The memory after a use. -/
def Use.perform : Use → Memory → Memory
  | store call, memory => (call.perform memory).2
  | shelf call, memory => (call.perform memory).2
  | run task, memory => (task.script.exec surroundings memory).state
  | runWith load source task, memory =>
    (task.script.exec (surroundingsWith load) (memory, source)).state.1

/-- The memory after some uses. -/
def afterUses (uses : List Use) (memory : Memory) : Memory :=
  uses.foldl (fun memory use => use.perform memory) memory

/-- Scripts do not touch the shelf. -/
theorem preserves_shelf (shelf : Guarded Shelf) : surroundings.Preserves (·.shelf = shelf) where
  isDirectory _ hshelf := hshelf
  isPresent _ hshelf := hshelf
  makeDirectory _ hshelf := (shelf_order _ _).trans hshelf
  write _ _ hshelf := (shelf_order _ _).trans hshelf
  load _ hshelf := hshelf

/-- Scripts cannot touch a poisoned store. -/
theorem preserves_store {store : Guarded Store} (hpoisoned : store.isPoisoned = true) :
    surroundings.Preserves (·.store = store) where
  isDirectory _ hstore := hstore
  isPresent _ hstore := hstore
  makeDirectory path hstore := by
    have hrefused := (StoreCall.makeDirectory path).perform_of_poisoned (hstore ▸ hpoisoned)
    exact (congrArg (·.2.store) hrefused).trans hstore
  write path text hstore := by
    have hrefused := (StoreCall.write path text).perform_of_poisoned (hstore ▸ hpoisoned)
    exact (congrArg (·.2.store) hrefused).trans hstore
  load _ hstore := hstore

/-- No use changes a poisoned store. -/
theorem Use.store_perform (hpoisoned : memory.store.isPoisoned = true) (use : Use) :
    (use.perform memory).store = memory.store := by
  have hkeeps := preserves_store hpoisoned
  cases use with
  | store call => exact congrArg (·.2.store) (call.perform_of_poisoned hpoisoned)
  | shelf call => exact call.store_perform memory
  | run task => exact Script.exec_preserves hkeeps task.script rfl
  | runWith load source task =>
    exact Script.exec_preserves (preserves_surroundingsWith hkeeps load) task.script rfl

/-- No use changes a poisoned shelf. -/
theorem Use.shelf_perform (hpoisoned : memory.shelf.isPoisoned = true) (use : Use) :
    (use.perform memory).shelf = memory.shelf := by
  have hkeeps := preserves_shelf memory.shelf
  cases use with
  | store call => exact call.shelf_perform memory
  | shelf call => exact congrArg (·.2.shelf) (call.perform_of_poisoned hpoisoned)
  | run task => exact Script.exec_preserves hkeeps task.script rfl
  | runWith load source task =>
    exact Script.exec_preserves (preserves_surroundingsWith hkeeps load) task.script rfl

/-- The part of a memory that no use changes once it is poisoned is the same after all of them. -/
theorem afterUses_eq {β : Type} {part : Memory → Guarded β}
    (hstep : ∀ {memory}, (part memory).isPoisoned = true → ∀ use : Use,
      part (use.perform memory) = part memory)
    (hpoisoned : (part memory).isPoisoned = true) (uses : List Use) :
    part (afterUses uses memory) = part memory := by
  induction uses generalizing memory with
  | nil => rfl
  | cons use rest ih =>
    have hsame := hstep hpoisoned use
    exact (ih (hsame ▸ hpoisoned)).trans hsame

/-- A poisoned store is never changed again. -/
theorem store_afterUses (hpoisoned : memory.store.isPoisoned = true) (uses : List Use) :
    (afterUses uses memory).store = memory.store :=
  afterUses_eq Use.store_perform hpoisoned uses

/-- A poisoned shelf is never changed again. -/
theorem shelf_afterUses (hpoisoned : memory.shelf.isPoisoned = true) (uses : List Use) :
    (afterUses uses memory).shelf = memory.shelf :=
  afterUses_eq Use.shelf_perform hpoisoned uses

/-! ## A poisoned store -/

/-- What a memory answers whose store is poisoned, whatever its templates come from. -/
structure StoreShut (memory : Memory) : Prop where
  call {α : Type} (call : StoreCall α) : call.perform memory = (call.refusal, memory)
  scripts : Script.FailClosed surroundings memory
  scriptsWith {τ : Type} (load : Template → τ → Except Failure String × τ) (source : τ) :
    Script.FailClosed (surroundingsWith load) (memory, source)

theorem storeShut_of_poisoned (hpoisoned : memory.store.isPoisoned = true) :
    memory.StoreShut := by
  have hdirectory path := (StoreCall.isDirectory path).perform_of_poisoned hpoisoned
  have hpresent path := (StoreCall.isPresent path).perform_of_poisoned hpoisoned
  have hmake path := (StoreCall.makeDirectory path).perform_of_poisoned hpoisoned
  refine ⟨fun call => call.perform_of_poisoned hpoisoned, ?_, ?_⟩
  · exact Script.failClosed_of_refused hdirectory hpresent hmake
  · intro τ load source
    apply Script.failClosed_of_refused
    · exact fun path => congrArg (·.map id fun memory => (memory, source)) (hdirectory path)
    · exact fun path => congrArg (·.map id fun memory => (memory, source)) (hpresent path)
    · exact fun path => congrArg (·.map id fun memory => (memory, source)) (hmake path)

/-! ## A poisoned shelf -/

/-- What no scaffold changes as long as the shelf is poisoned. -/
structure Withheld (shelf : Guarded Shelf) (files : List (Path × String)) (memory : Memory) :
    Prop where
  shelf_eq : memory.shelf = shelf
  is_healthy : memory.store.isPoisoned = false
  files_eq : memory.store.value.files = files

variable {shelf : Guarded Shelf} {files : List (Path × String)} {store : Store}

theorem eq_filesystem_of_makeDirectory {path : Path} {failure : Failure}
    (hrefused : store.makeDirectory path = .error failure) :
    ∃ reason, failure = .filesystem path reason := by
  unfold Store.makeDirectory at hrefused
  split at hrefused
  · cases hrefused
  · split at hrefused
    · cases hrefused
      exact ⟨_, rfl⟩
    · split at hrefused
      · cases hrefused
        exact ⟨_, rfl⟩
      · cases hrefused

theorem makeDirectory_of_withheld (path : Path) (hwithheld : Withheld shelf files memory) :
    (memory.makeDirectory path).1 ≠ .error .lockPoisoned ∧
      Withheld shelf files (memory.makeDirectory path).2 := by
  obtain ⟨⟨store, _⟩, _⟩ := memory
  obtain ⟨hshelf, rfl, hfiles⟩ := hwithheld
  unfold makeDirectory order Guarded.view?
  cases hmake : store.makeDirectory path with
  | ok store' =>
    obtain ⟨rfl, -⟩ := Store.eq_insertDirectory_of_ok hmake
    simp only [Bool.false_eq_true, if_false, hmake]
    exact ⟨nofun, hshelf, rfl, (store.files_insertDirectory path).trans hfiles⟩
  | error failure =>
    simp only [Bool.false_eq_true, if_false, hmake]
    obtain ⟨reason, rfl⟩ := eq_filesystem_of_makeDirectory hmake
    exact ⟨nofun, hshelf, rfl, hfiles⟩

theorem withholds_surroundings (hpoisoned : shelf.isPoisoned = true) :
    surroundings.Withholds .lockPoisoned (Withheld shelf files) where
  isDirectory _ hwithheld := hwithheld
  isPresent _ hwithheld := hwithheld
  makeDirectory path hwithheld := makeDirectory_of_withheld path hwithheld
  load template hwithheld := by
    have hrefused :=
      (ShelfCall.load template).perform_of_poisoned (hwithheld.shelf_eq ▸ hpoisoned)
    exact ⟨congrArg Prod.fst hrefused, hwithheld⟩

theorem templatesShut_of_poisoned (hpoisoned : memory.shelf.isPoisoned = true)
    (hhealthy : memory.store.isPoisoned = false) :
    Script.TemplatesShut surroundings memory := by
  obtain ⟨⟨store, _⟩, shelf⟩ := memory
  obtain rfl : _ = false := hhealthy
  apply Script.templatesShut_of_withholds (withholds_surroundings hpoisoned) ⟨rfl, rfl, rfl⟩
    (fun _ _ => rfl) (fun _ _ => rfl)
  intro provider root before after acts entries middle hsites htour path hpath
  have hapart := List.pairwise_map.mp (provider.pairwise_path_sites root)
  rw [hsites, List.pairwise_append] at hapart
  obtain ⟨visited, rest, store', rfl, rfl, hfills, -, hend⟩ := htour.in_store hapart.1
  rcases hend with ⟨rfl, -⟩ | ⟨⟨_, hfailed⟩, -⟩
  · exact hfills.holds _ (by simpa using hpath)
  · cases hfailed

/-- A memory cannot be told from one with the same files and other templates, until one of them is
asked for. -/
theorem concurs_surroundingsWith {τ : Type} (load : Template → τ → Except Failure String × τ)
    (source : τ) :
    surroundings.Concurs (surroundingsWith load) fun memory state => state = (memory, source) where
  isDirectory _ hstates := hstates ▸ ⟨rfl, rfl⟩
  isPresent _ hstates := hstates ▸ ⟨rfl, rfl⟩
  makeDirectory _ hstates := hstates ▸ ⟨rfl, rfl⟩
  write _ _ hstates := hstates ▸ ⟨rfl, rfl⟩

/-! ## A poisoned shelf for files on a disk -/

/-- The shelf of a memory as the source of templates for a disk. -/
def shelfLoad (memory : Memory) (template : Template) (state : Disk × Unit) :
    Except Failure String × Unit :=
  (memory.load template, state.2)

theorem withholds_shelfLoad (hpoisoned : memory.shelf.isPoisoned = true) :
    (Disk.surroundingsWith memory.shelfLoad).Withholds .lockPoisoned fun _ => True where
  isDirectory _ _ := trivial
  isPresent _ _ := trivial
  makeDirectory path _ := by
    refine ⟨?_, trivial⟩
    intro hrefused
    obtain ⟨⟨_, hfailure⟩, -⟩ := Disk.ensureDirectory_eq_error (Prod.ext hrefused rfl)
    cases hfailure
  load template _ := by
    have hrefused := (ShelfCall.load template).perform_of_poisoned hpoisoned
    exact ⟨congrArg Prod.fst hrefused, trivial⟩

theorem concurs_shelfLoad {τ : Type} (memory : Memory)
    (load : Template → Disk × τ → Except Failure String × τ) (source : τ) :
    (Disk.surroundingsWith memory.shelfLoad).Concurs (Disk.surroundingsWith load)
      fun state state' => state' = (state.1, source) where
  isDirectory _ hstates := hstates ▸ ⟨rfl, rfl⟩
  isPresent _ hstates := hstates ▸ ⟨rfl, rfl⟩
  makeDirectory _ hstates := hstates ▸ ⟨rfl, rfl⟩
  write _ _ hstates := hstates ▸ ⟨rfl, rfl⟩

theorem templatesShut_shelfLoad (hpoisoned : memory.shelf.isPoisoned = true) (disk : Disk) :
    Script.TemplatesShut (Disk.surroundingsWith memory.shelfLoad) (disk, ()) := by
  apply Script.templatesShut_of_withholds (withholds_shelfLoad hpoisoned) trivial
    (fun _ _ => rfl) (fun _ _ => rfl)
  intro provider root before after acts entries middle hsites htour path hpath
  exact (htour.built (Disk.liesOn_surroundingsWith memory.shelfLoad)).holds hpath

/-! ## The result -/

/-- What a memory answers whose shelf is poisoned.  A scaffold over its store, or over a disk, that
needs no template is what it is with templates from anywhere else. -/
structure ShelfShut (memory : Memory) : Prop where
  call {α : Type} (call : ShelfCall α) : call.perform memory = (call.refusal, memory)
  inMemory (hhealthy : memory.store.isPoisoned = false) :
    Script.TemplatesShut surroundings memory
  files_eq (hhealthy : memory.store.isPoisoned = false) (provider : Provider) (root : Path) :
    let run := (Script.scaffold provider root).exec surroundings memory
    run.state.store.value.files = memory.store.value.files
  as_ever (hhealthy : memory.store.isPoisoned = false) {τ : Type}
    (load : Template → τ → Except Failure String × τ) (source : τ) (provider : Provider)
    (root : Path) :
    let run := (Script.scaffold provider root).exec surroundings memory
    run.answer ≠ .error .lockPoisoned →
      run.Retraces (fun memory state => state = (memory, source))
        ((Script.scaffold provider root).exec (surroundingsWith load) (memory, source))
  onDisk (disk : Disk) :
    Script.TemplatesShut (Disk.surroundingsWith memory.shelfLoad) (disk, ())
  as_ever_on_disk (disk : Disk) {τ : Type}
    (load : Template → Disk × τ → Except Failure String × τ) (source : τ) (provider : Provider)
    (root : Path) :
    let run := (Script.scaffold provider root).exec (Disk.surroundingsWith memory.shelfLoad)
      (disk, ())
    run.answer ≠ .error .lockPoisoned →
      run.Retraces (fun state state' => state' = (state.1, source))
        ((Script.scaffold provider root).exec (Disk.surroundingsWith load) (disk, source))

theorem shelfShut_of_poisoned (hpoisoned : memory.shelf.isPoisoned = true) :
    memory.ShelfShut where
  call call := call.perform_of_poisoned hpoisoned
  inMemory hhealthy := templatesShut_of_poisoned hpoisoned hhealthy
  files_eq hhealthy provider root := by
    obtain ⟨-, -, -, -, hwithheld⟩ := Script.scaffold_withheld (withholds_surroundings hpoisoned)
      ⟨rfl, hhealthy, rfl⟩ provider root
    exact hwithheld.files_eq
  as_ever hhealthy _ load source provider root := by
    intro run hother
    obtain ⟨-, -, -, hfree, -⟩ := Script.scaffold_withheld (withholds_surroundings hpoisoned)
      ⟨rfl, hhealthy, rfl⟩ provider root
    exact Script.exec_without_load (concurs_surroundingsWith load source) _ rfl (hfree hother)
  onDisk disk := templatesShut_shelfLoad hpoisoned disk
  as_ever_on_disk disk _ load source provider root := by
    intro run hother
    obtain ⟨-, -, -, hfree, -⟩ := Script.scaffold_withheld (withholds_shelfLoad hpoisoned)
      trivial provider root
    exact Script.exec_without_load (concurs_shelfLoad memory load source) _ rfl (hfree hother)

theorem isPoisoned_seed (memory : Memory) (path : Path) (crash : Crash) :
    (memory.seed path (.error crash)).2.store.isPoisoned = true := by
  obtain ⟨⟨store, isPoisoned⟩, shelf⟩ := memory
  cases isPoisoned <;> rfl

theorem isPoisoned_insertTemplate (memory : Memory) (template : Template) (crash : Crash) :
    (memory.insertTemplate template (.error crash)).2.shelf.isPoisoned = true := by
  obtain ⟨store, ⟨shelf, isPoisoned⟩⟩ := memory
  cases isPoisoned <;> rfl

/-- Once a seed has broken off, its ancestors are in the store, and whatever is done next, the store
stays as it is and refuses every call and every scaffold, and plans find nothing there.  Once an
insertion on the shelf has broken off, the shelf stays as it is and refuses every call, and
scaffolds get as far as the first file that is missing. -/
theorem shut_for_ever (memory : Memory) (crash : Crash) (uses : List Use) :
    (∀ path,
      let (answer, shut) := memory.seed path (.error crash)
      let after := afterUses uses shut
      (memory.store.isPoisoned = false →
        answer = .error crash ∧ shut.store = ⟨memory.store.value.insertAncestors path, true⟩) ∧
      after.store = shut.store ∧ after.StoreShut) ∧
    ∀ template,
      let (answer, shut) := memory.insertTemplate template (.error crash)
      let after := afterUses uses shut
      (memory.shelf.isPoisoned = false →
        answer = .error crash ∧ shut.shelf = ⟨memory.shelf.value, true⟩) ∧
      after.shelf = shut.shelf ∧ after.ShelfShut := by
  constructor
  · intro path
    have hpoisoned := memory.isPoisoned_seed path crash
    have hstore := store_afterUses hpoisoned uses
    refine ⟨?_, hstore, storeShut_of_poisoned (hstore ▸ hpoisoned)⟩
    intro hhealthy
    obtain ⟨⟨store, _⟩, shelf⟩ := memory
    obtain rfl : _ = false := hhealthy
    exact ⟨rfl, rfl⟩
  · intro template
    have hpoisoned := memory.isPoisoned_insertTemplate template crash
    have hshelf := shelf_afterUses hpoisoned uses
    refine ⟨?_, hshelf, shelfShut_of_poisoned (hshelf ▸ hpoisoned)⟩
    intro hhealthy
    obtain ⟨store, ⟨shelf, _⟩⟩ := memory
    obtain rfl : _ = false := hhealthy
    exact ⟨rfl, rfl⟩

end Memory

end Scaffolding
