import Scaffolding.Proofs.Path.Ancestors
import Scaffolding.Proofs.Store.History

/-!
# Stores that could be on a disk

A store is well formed when no place is both a file and a directory, and
whatever it has lies in a directory, all the way up.  The two halves fare
differently: directories all the way up stay whatever is done, while a file
that is seeded asks nobody whether its place is taken.

* `IsClosed` is the second half.  `IsClosed.isDirectory_of_ready` carries
  it from the parent, the only ancestor that an order asks about, to all
  the others.
* `WellFormed.makeDirectory` and `WellFormed.write` are the orders,
  `wellFormed_seed_iff` is the seed.
* `wellFormed_history` is the result, for every sequence of uses of a
  memory.
-/

namespace Scaffolding

namespace Store

variable {store store' : Store} {path other ancestor : Path} {text : String}

/-- That whatever a store has lies in a directory of the store, and that in another, as far up as
there are ancestors that are not empty. -/
def IsClosed (store : Store) : Prop :=
  ∀ path, store.isPresent path = true → ∀ ancestor ∈ path.ancestors, ancestor ≠ .empty →
    store.isDirectory ancestor = true

/-- That a store could be the content of a disk. -/
structure WellFormed (store : Store) : Prop where
  apart : ∀ path, store.isDirectory path = true → store.isFile path = false
  closed : store.IsClosed

/-! ## Directories all the way up -/

theorem isClosed_iff :
    store.IsClosed ↔ ∀ {path ancestor : Path}, store.isPresent path = true →
      ancestor.Above path → store.isDirectory ancestor = true := by
  constructor
  · intro hclosed path ancestor hpresent habove
    obtain ⟨other, hmem, hne, hsame⟩ := Path.above_iff.mp habove
    rw [← store.isDirectory_congr (Path.equiv_iff.mpr hsame)]
    exact hclosed path hpresent other hmem hne
  · intro hclosed path hpresent ancestor hmem hne
    exact hclosed hpresent (Path.above_of_mem_ancestors hmem hne)

/-- A path whose parent is there has directories all the way up. -/
theorem IsClosed.isDirectory_of_ready (hclosed : store.IsClosed)
    (hready : store.isParentMissing path = false) (habove : ancestor.Above path) :
    store.isDirectory ancestor = true := by
  -- Only the parent is asked about: it is there, and what is above it is there as the store is
  -- closed.
  obtain ⟨parent, hparent, hne, hcases⟩ := habove.exists_parent?
  have hthere : store.isDirectory parent = true := by
    by_contra hmissing
    rw [isParentMissing_eq_true_iff.mpr ⟨parent, hparent, hne, Bool.eq_false_iff.mpr hmissing⟩]
      at hready
    cases hready
  rcases hcases with hsame | habove
  · rw [store.isDirectory_congr (Path.equiv_iff.mpr hsame)]
    exact hthere
  · exact isClosed_iff.mp hclosed (isPresent_eq_true_iff.mpr (.inr hthere)) habove

/-- What is put at a path whose ancestors are directories leaves directories all the way up. -/
theorem IsClosed.of_cases (hclosed : store.IsClosed)
    (hkeeps : ∀ other, store.isDirectory other = true → store'.isDirectory other = true)
    (hready : ∀ {ancestor : Path}, ancestor.Above path → store'.isDirectory ancestor = true)
    (hcases : ∀ other, store'.isPresent other = true →
      store.isPresent other = true ∨ other ≈ path ∨ other.Above path) : store'.IsClosed := by
  apply isClosed_iff.mpr
  intro other ancestor hpresent habove
  rcases hcases other hpresent with hold | hsame | hbelow
  · exact hkeeps ancestor (isClosed_iff.mp hclosed hold habove)
  · exact hready (habove.congr rfl (Path.equiv_iff.mp hsame))
  · exact hready (habove.trans hbelow)

theorem isPresent_insertDirectory_iff :
    (store.insertDirectory path).isPresent other = true ↔
      store.isPresent other = true ∨ other ≈ path := by
  have hsymm : path ≈ other ↔ other ≈ path := ⟨Setoid.symm, Setoid.symm⟩
  rw [isPresent_eq_true_iff, isPresent_eq_true_iff, isFile, read?_insertDirectory, ← isFile,
    isDirectory_insertDirectory, Bool.or_eq_true, decide_eq_true_eq, hsymm,
    or_comm (a := other ≈ path), or_assoc]

theorem isFile_insertFile_iff :
    (store.insertFile path text).isFile other = true ↔
      store.isFile other = true ∨ other ≈ path := by
  unfold isFile
  rw [read?_insertFile]
  by_cases hsame : path ≈ other
  · rw [if_pos hsame]
    exact iff_of_true rfl (.inr (Setoid.symm hsame))
  · rw [if_neg hsame]
    exact (or_iff_left fun hback => hsame (Setoid.symm hback)).symm

theorem isPresent_insertFile_iff :
    (store.insertFile path text).isPresent other = true ↔
      store.isPresent other = true ∨ other ≈ path := by
  rw [isPresent_eq_true_iff, isPresent_eq_true_iff, isFile_insertFile_iff, isDirectory_insertFile,
    or_right_comm]

theorem IsClosed.insertDirectory (hclosed : store.IsClosed)
    (hready : ∀ {ancestor : Path}, ancestor.Above path → store.isDirectory ancestor = true) :
    (store.insertDirectory path).IsClosed := by
  have hkeeps : ∀ other, store.isDirectory other = true →
      (store.insertDirectory path).isDirectory other = true := by
    intro other hthere
    rw [isDirectory_insertDirectory, hthere, Bool.or_true]
  refine hclosed.of_cases hkeeps (fun habove => hkeeps _ (hready habove)) ?_
  intro other hpresent
  exact (isPresent_insertDirectory_iff.mp hpresent).imp_right .inl

theorem IsClosed.insertFile (hclosed : store.IsClosed)
    (hready : ∀ {ancestor : Path}, ancestor.Above path → store.isDirectory ancestor = true)
    (text : String) : (store.insertFile path text).IsClosed := by
  have hkeeps : ∀ other, store.isDirectory other = true →
      (store.insertFile path text).isDirectory other = true := by
    intro other hthere
    rwa [isDirectory_insertFile]
  refine hclosed.of_cases hkeeps (fun habove => hkeeps _ (hready habove)) ?_
  intro other hpresent
  exact (isPresent_insertFile_iff.mp hpresent).imp_right .inl

/-! ## Ancestors of a seed -/

theorem files_insertAncestors (store : Store) (path : Path) :
    (store.insertAncestors path).files = store.files := by
  unfold insertAncestors
  induction path.ancestors.filter (· ≠ Path.empty) generalizing store with
  | nil => rfl
  | cons ancestor rest ih => rw [List.foldl_cons, ih, files_insertDirectory]

theorem read?_insertAncestors (store : Store) (path other : Path) :
    (store.insertAncestors path).read? other = store.read? other := by
  unfold read?
  rw [files_insertAncestors]

theorem isDirectory_insertAncestors_iff :
    (store.insertAncestors path).isDirectory other = true ↔
      store.isDirectory other = true ∨ other.Above path := by
  have hfold : ∀ (ancestors : List Path) (store : Store),
      (ancestors.foldl Store.insertDirectory store).isDirectory other = true ↔
        store.isDirectory other = true ∨ ∃ ancestor ∈ ancestors, ancestor ≈ other := by
    intro ancestors
    induction ancestors with
    | nil => simp
    | cons ancestor rest ih =>
      intro store
      rw [List.foldl_cons, ih, isDirectory_insertDirectory, Bool.or_eq_true, decide_eq_true_eq,
        List.exists_mem_cons_iff, or_assoc, or_left_comm]
  unfold insertAncestors
  rw [hfold, Path.above_iff]
  simp only [List.mem_filter, decide_eq_true_eq, and_assoc, Path.equiv_iff]

theorem isFile_insertAncestors (store : Store) (path other : Path) :
    (store.insertAncestors path).isFile other = store.isFile other := by
  unfold isFile
  rw [read?_insertAncestors]

theorem IsClosed.insertAncestors (hclosed : store.IsClosed) (path : Path) :
    (store.insertAncestors path).IsClosed := by
  have hready : ∀ {ancestor : Path}, ancestor.Above path →
      (store.insertAncestors path).isDirectory ancestor = true :=
    fun habove => isDirectory_insertAncestors_iff.mpr (.inr habove)
  refine hclosed.of_cases (fun other hthere => isDirectory_insertAncestors_iff.mpr (.inl hthere))
    hready ?_
  intro other hpresent
  rw [isPresent_eq_true_iff, isFile_insertAncestors, isDirectory_insertAncestors_iff,
    ← or_assoc, ← isPresent_eq_true_iff] at hpresent
  exact hpresent.imp_right .inr

theorem IsClosed.seed (hclosed : store.IsClosed) (path : Path) (text : String) :
    (store.seed path text).IsClosed :=
  (hclosed.insertAncestors path).insertFile
    (fun habove => isDirectory_insertAncestors_iff.mpr (.inr habove)) text

/-! ## Orders -/

/-- An order that goes through has its directory put there, if only to find that it is. -/
theorem eq_insertDirectory_of_ok (hmake : store.makeDirectory path = .ok store') :
    store' = store.insertDirectory path ∧ (store.isDirectory path = true ∨
      store.isFile path = false ∧ store.isParentMissing path = false) := by
  unfold makeDirectory at hmake
  split at hmake
  · rename_i hthere
    cases hmake
    unfold insertDirectory
    exact ⟨(if_pos hthere).symm, .inl hthere⟩
  · split at hmake
    · cases hmake
    · rename_i hfree
      split at hmake
      · cases hmake
      · rename_i hready
        cases hmake
        exact ⟨rfl, .inr ⟨Bool.eq_false_iff.mpr hfree, Bool.eq_false_iff.mpr hready⟩⟩

theorem eq_insertFile_of_ok (hwrite : store.write path text = .ok store') :
    store' = store.insertFile path text ∧ store.isParentMissing path = false ∧
      store.isDirectory path = false := by
  unfold write at hwrite
  split at hwrite
  · cases hwrite
  · rename_i hready
    cases hwrite
    exact ⟨rfl, Bool.or_eq_false_iff.mp (Bool.eq_false_iff.mpr hready)⟩

theorem IsClosed.makeDirectory (hclosed : store.IsClosed)
    (hmake : store.makeDirectory path = .ok store') : store'.IsClosed := by
  obtain ⟨rfl, hthere | ⟨-, hready⟩⟩ := eq_insertDirectory_of_ok hmake
  · exact hclosed.insertDirectory
      (isClosed_iff.mp hclosed (isPresent_eq_true_iff.mpr (.inr hthere)))
  · exact hclosed.insertDirectory (hclosed.isDirectory_of_ready hready)

theorem IsClosed.write (hclosed : store.IsClosed) (hwrite : store.write path text = .ok store') :
    store'.IsClosed := by
  obtain ⟨rfl, hready, -⟩ := eq_insertFile_of_ok hwrite
  exact hclosed.insertFile (hclosed.isDirectory_of_ready hready) text

theorem WellFormed.makeDirectory (hwell : store.WellFormed)
    (hmake : store.makeDirectory path = .ok store') : store'.WellFormed := by
  refine ⟨?_, hwell.closed.makeDirectory hmake⟩
  obtain ⟨rfl, hcases⟩ := eq_insertDirectory_of_ok hmake
  have hfree : store.isFile path = false := hcases.elim (hwell.apart path) And.left
  intro other hthere
  rw [isFile, read?_insertDirectory, ← isFile]
  rw [isDirectory_insertDirectory, Bool.or_eq_true, decide_eq_true_eq] at hthere
  rcases hthere with hsame | hold
  · rw [isFile, ← read?_congr store hsame]
    exact hfree
  · exact hwell.apart other hold

theorem WellFormed.write (hwell : store.WellFormed)
    (hwrite : store.write path text = .ok store') : store'.WellFormed := by
  refine ⟨?_, hwell.closed.write hwrite⟩
  obtain ⟨rfl, -, hfree⟩ := eq_insertFile_of_ok hwrite
  intro other hthere
  rw [isDirectory_insertFile] at hthere
  by_contra hfile
  rcases isFile_insertFile_iff.mp (Bool.not_eq_false _ ▸ hfile) with hold | hsame
  · rw [hwell.apart other hthere] at hold
    cases hold
  · rw [isDirectory_congr store hsame, hfree] at hthere
    cases hthere

/-- A seed leaves a store well formed unless it puts a file where a directory is, or a directory
where a file is. -/
theorem wellFormed_seed_iff (hwell : store.WellFormed) :
    (store.seed path text).WellFormed ↔ store.isDirectory path = false ∧
      ∀ ancestor ∈ path.ancestors, ancestor ≠ .empty → store.isFile ancestor = false := by
  have hdirectory : ∀ other, (store.seed path text).isDirectory other = true ↔
      store.isDirectory other = true ∨ other.Above path := by
    intro other
    unfold seed
    rw [isDirectory_insertFile]
    exact isDirectory_insertAncestors_iff
  have hfile : ∀ other, (store.seed path text).isFile other = true ↔
      store.isFile other = true ∨ other ≈ path := by
    intro other
    unfold seed
    rw [isFile_insertFile_iff, isFile_insertAncestors]
  constructor
  · intro hseeded
    refine ⟨?_, ?_⟩
    · by_contra hthere
      have hboth := hseeded.apart path ((hdirectory path).mpr (.inl (Bool.not_eq_false _ ▸ hthere)))
      rw [(hfile path).mpr (.inr (Setoid.refl path))] at hboth
      cases hboth
    · intro ancestor hmem hne
      by_contra hthere
      have habove := Path.above_of_mem_ancestors hmem hne
      have hboth := hseeded.apart ancestor ((hdirectory ancestor).mpr (.inr habove))
      rw [(hfile ancestor).mpr (.inl (Bool.not_eq_false _ ▸ hthere))] at hboth
      cases hboth
  · rintro ⟨hfree, habove⟩
    refine ⟨?_, hwell.closed.seed path text⟩
    intro other hthere
    by_contra hboth
    rcases (hdirectory other).mp hthere with hold | hbelow <;>
      rcases (hfile other).mp (Bool.not_eq_false _ ▸ hboth) with hheld | hsame
    · rw [hwell.apart other hold] at hheld
      cases hheld
    · rw [isDirectory_congr store hsame, hfree] at hold
      cases hold
    · obtain ⟨ancestor, hmem, hne, hsame⟩ := Path.above_iff.mp hbelow
      have hclear := habove ancestor hmem hne
      rw [isFile, read?_congr store (Path.equiv_iff.mpr hsame), ← isFile, hheld] at hclear
      cases hclear
    · exact hbelow.ne (Path.equiv_iff.mp hsame)

theorem wellFormed_empty : Store.empty.WellFormed :=
  ⟨fun _ _ => rfl, fun _ hpresent => by cases hpresent⟩

end Store

/-! ## Memories -/

namespace Memory

variable {τ : Type}

/-- Whatever a memory is used for and wherever its templates come from, orders and scripts leave its
store well formed, and seeds as well leave directories all the way up.  A seed goes through, and
leaves the store well formed exactly if it does not put a file where a directory is or a directory
where a file is.  An order that is refused leaves the memory as it was. -/
theorem wellFormed_history (load : Template → τ → Except Failure String × τ) (memory : Memory)
    (source : τ) :
    (∀ operations : List Operation, (∀ operation ∈ operations, operation.IsOrderly) →
      memory.store.value.WellFormed →
        (history load operations (memory, source)).1.store.value.WellFormed) ∧
    (∀ operations : List Operation, memory.store.value.IsClosed →
      (history load operations (memory, source)).1.store.value.IsClosed) ∧
    (memory.store.isPoisoned = false → memory.store.value.WellFormed → ∀ path text,
      (memory.seed path (.ok text)).1 = .ok () ∧
        ((memory.seed path (.ok text)).2.store.value.WellFormed ↔
          memory.store.value.isDirectory path = false ∧ ∀ ancestor ∈ path.ancestors,
            ancestor ≠ .empty → memory.store.value.isFile ancestor = false)) ∧
    (∀ path failure, (memory.makeDirectory path).1 = .error failure →
      (memory.makeDirectory path).2 = memory) ∧
    ∀ path text failure, (memory.write path text).1 = .error failure →
      (memory.write path text).2 = memory := by
  refine ⟨?_, ?_, ?_, fun _ _ => order_eq_of_error, fun _ _ _ => order_eq_of_error⟩
  · intro operations horderly hwell
    have hkept : KeptByOrders Store.WellFormed := ⟨.makeDirectory, .write⟩
    exact history_preserves hkept (.inl horderly) hwell
  · intro operations hclosed
    have hkept : KeptByOrders Store.IsClosed := ⟨.makeDirectory, .write⟩
    exact history_preserves hkept
      (.inr ⟨fun _ path hclosed => hclosed.insertAncestors path,
        fun _ path text hclosed => hclosed.seed path text⟩) hclosed
  · intro hlock hwell path text
    rw [seed_ok hlock]
    exact ⟨rfl, Store.wellFormed_seed_iff hwell⟩

/-- A memory that held nothing is well formed after an order that goes through and one that is
refused, and after a seed. -/
theorem wellFormed_history_empty :
    let load := fun template (source : Unit) => (Shelf.empty.load template, source)
    let orders := [Operation.makeDirectory (.ofText "X"), .write (.ofText "X") "text"]
    (history load orders (.empty, ())).1.store.value.WellFormed ∧
      (Memory.empty.seed (.ofText "X/Y") (.ok "text")).2.store.value.WellFormed := by
  intro load orders
  obtain ⟨hhistory, -, hseed, -⟩ := wellFormed_history load .empty ()
  have horderly : ∀ operation ∈ orders, operation.IsOrderly := by
    simp [orders, Operation.IsOrderly]
  refine ⟨hhistory orders horderly Store.wellFormed_empty, ?_⟩
  exact (hseed rfl Store.wellFormed_empty (.ofText "X/Y") "text").2.mpr ⟨rfl, fun _ _ _ => rfl⟩

end Memory

end Scaffolding
