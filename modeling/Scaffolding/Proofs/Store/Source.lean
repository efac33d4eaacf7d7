import Scaffolding.Proofs.Script.Mirror
import Scaffolding.Proofs.Store.Outcome

/-!
# A store with templates from elsewhere

The files of a scaffold can be in memory while its templates come from any
source, with a state of its own or without.

A source without a state is as good as the shelf with the texts that it
has, but for the failures that it answers with.  `exec_from_source` takes
what is known of runs with a shelf over to runs with such a source.
-/

namespace Scaffolding

/-- The shelf with the texts that a source has. -/
def Shelf.of (source : Template → Except Failure String) : Shelf :=
  ⟨fun template => (source template).toOption⟩

theorem Shelf.text?_of_iff {source : Template → Except Failure String} {template : Template}
    {text : String} : (Shelf.of source).text? template = some text ↔ source template = .ok text := by
  show (source template).toOption = some text ↔ _
  cases source template with
  | ok other => exact ⟨fun hsome => congrArg _ (Option.some.inj hsome), fun hok => by cases hok; rfl⟩
  | error failure => exact iff_of_false nofun nofun

/-- A source and the shelf with its texts have the same texts and lack the same. -/
theorem Shelf.load_of_alike (source : Template → Except Failure String) (template : Template) :
    Alike (fun _ _ => True) (source template) ((Shelf.of source).load template) := by
  cases hsource : source template with
  | ok text =>
    rw [Shelf.load_eq_ok_iff.mpr (Shelf.text?_of_iff.mpr hsource)]
    exact .ok text
  | error failure =>
    cases hload : (Shelf.of source).load template with
    | ok text =>
      rw [Shelf.text?_of_iff.mp (Shelf.load_eq_ok_iff.mp hload)] at hsource
      cases hsource
    | error failure' => exact .error trivial

namespace Memory

/-- A memory whose store is used, with templates from another source than its shelf. -/
def surroundingsWith {τ : Type} (load : Template → τ → Except Failure String × τ) :
    Surroundings (Memory × τ) where
  isDirectory path state := (state.1.isDirectory path, state)
  isPresent path state := (state.1.isPresent path, state)
  makeDirectory path state := (state.1.makeDirectory path).map id fun memory => (memory, state.2)
  write path text state := (state.1.write path text).map id fun memory => (memory, state.2)
  load template state := (load template state.2).map id fun source => (state.1, source)

/-- A memory whose store is used, with templates from a source that never changes. -/
def surroundingsFrom (source : Template → Except Failure String) : Surroundings Memory :=
  { surroundings with load := fun template memory => (source template, memory) }

variable {source : Template → Except Failure String} {store : Store} {shelf : Shelf}

/-- That two memories with certain shelves have the same store. -/
def ShareStore (shelf shelf' : Shelf) (memory memory' : Memory) : Prop :=
  ∃ store, memory = holding store shelf ∧ memory' = holding store shelf'

theorem ShareStore.order {shelf' : Shelf} {memory memory' : Memory}
    (hshare : ShareStore shelf shelf' memory memory') (change : Store → Except Failure Store) :
    Alike (fun _ _ => True) (memory.order change).1 (memory'.order change).1 ∧
      ShareStore shelf shelf' (memory.order change).2 (memory'.order change).2 := by
  obtain ⟨store, rfl, rfl⟩ := hshare
  cases hchange : change store with
  | ok store' =>
    rw [order_holding_ok hchange, order_holding_ok hchange]
    exact ⟨.ok (), store', rfl, rfl⟩
  | error failure =>
    rw [order_holding_error hchange, order_holding_error hchange]
    exact ⟨.error trivial, store, rfl, rfl⟩

/-- A memory with a source mirrors the memory with the source's texts on its shelf. -/
theorem mirrors_shelf (source : Template → Except Failure String) (shelf : Shelf) :
    (surroundingsFrom source).Mirrors surroundings (fun _ => True) (fun _ _ => True)
      (ShareStore shelf (.of source)) where
  isDirectory := by
    rintro path _ _ - ⟨store, rfl, rfl⟩
    exact ⟨rfl, store, rfl, rfl⟩
  isPresent := by
    rintro path _ _ - ⟨store, rfl, rfl⟩
    exact ⟨rfl, store, rfl, rfl⟩
  makeDirectory := by
    intro path _ _ _ hshare
    exact hshare.order (·.makeDirectory path)
  write := by
    intro path _ _ text _ hshare
    exact hshare.order (·.write path text)
  load := by
    rintro _ _ template ⟨store, rfl, rfl⟩
    exact ⟨Shelf.load_of_alike source template, store, rfl, rfl⟩

end Memory

theorem Act.made_eq_of_alike {same : Failure → Failure → Prop} {acts acts' : List Act}
    (halike : List.Forall₂ (Act.Alike same) acts acts') : Act.made acts = Act.made acts' := by
  induction halike with
  | nil => rfl
  | @cons act act' rest rest' hact _ ih =>
    have hmade : act.made? = act'.made? := by
      cases hact with
      | makeDirectory path halike | write path text halike => cases halike <;> rfl
      | _ => rfl
    unfold Act.made at ih ⊢
    rw [List.filterMap_cons, List.filterMap_cons, hmade, ih]

namespace Script

/-- With templates from a source, a scaffold comes to what it comes to with the source's texts on
the shelf, but for the failure of a template. -/
theorem exec_from_source (source : Template → Except Failure String) (store : Store)
    (shelf : Shelf) (provider : Provider) (root : Path) :
    let run := (scaffold provider root).exec (Memory.surroundingsFrom source) (.holding store shelf)
    let feasible := store.feasible (.of source) provider root
    run.state = .holding (store.addSites (.of source) provider feasible) shelf ∧
      Act.made run.acts = (feasible.filter fun site => !store.holds site).map Site.path ∧
      ((∃ report, run.answer = .ok report) ↔ store.obstacle? (.of source) provider root = none) ∧
      ∀ report, run.answer = .ok report → report.created = Act.made run.acts := by
  intro run feasible
  have hshare : Memory.ShareStore shelf (.of source) (.holding store shelf)
    (.holding store (.of source)) := ⟨store, rfl, rfl⟩
  obtain ⟨hacts, hanswer, store', hstate, hstate'⟩ :=
    exec_mirrors (Memory.mirrors_shelf source shelf) (keeps_scaffold fun _ _ => trivial) hshare
  obtain ⟨hafter, hmade, hcases⟩ := exec_in_memory store (.of source) provider root
  rw [← Act.made_eq_of_alike hacts] at hmade hcases
  refine ⟨?_, hmade, ?_⟩
  · rw [hstate'] at hafter
    cases hafter
    exact hstate
  · change Alike _ run.answer _ at hanswer
    generalize run.answer = answer at hanswer ⊢
    cases hobstacle : store.obstacle? (.of source) provider root with
    | none =>
      rw [hobstacle] at hcases
      obtain ⟨report, hok, hcreated⟩ := hcases
      rw [hok] at hanswer
      cases hanswer
      refine ⟨iff_of_true ⟨report, rfl⟩ rfl, ?_⟩
      rintro _ ⟨⟩
      exact hcreated
    | some failure =>
      rw [hobstacle] at hcases
      rw [show _ = Except.error failure from hcases] at hanswer
      cases hanswer
      exact ⟨iff_of_false nofun nofun, nofun⟩

end Script

end Scaffolding
