import Scaffolding.Proofs.Script.Invariant
import Scaffolding.Proofs.Store.Source

/-!
# What happens to a memory

A memory is used by orders, by scripts and by seeds, in any sequence and
with templates from any source.  A fact on its store that an order which
goes through keeps is kept by all uses but seeds, and by seeds too if the
two insertions of a seed keep it.

* `Operation` lists the uses that change a store, `history` does them one
  after another.
* `history_preserves` is the induction.
-/

namespace Scaffolding.Memory

variable {τ : Type} {load : Template → τ → Except Failure String × τ} {invariant : Store → Prop}

/-- A use of a memory that may change its store. -/
inductive Operation where
  | makeDirectory (path : Path)
  | write (path : Path) (text : String)
  | run (task : Script.Task)
  /-- Puts a file anywhere; making its text may break off. -/
  | seed (path : Path) (text : Except Crash String)

namespace Operation

/-- That an operation keeps to the rules of a disk. -/
def IsOrderly : Operation → Prop
  | seed _ _ => False
  | _ => True

/-- The memory and the source of templates after an operation. -/
def perform (load : Template → τ → Except Failure String × τ) :
    Operation → Memory × τ → Memory × τ
  | makeDirectory path, (memory, source) => ((memory.makeDirectory path).2, source)
  | write path text, (memory, source) => ((memory.write path text).2, source)
  | run task, state => (task.script.exec (surroundingsWith load) state).state
  | seed path text, (memory, source) => ((memory.seed path text).2, source)

end Operation

/-- The memory and the source of templates after some operations. -/
def history (load : Template → τ → Except Failure String × τ) (operations : List Operation)
    (state : Memory × τ) : Memory × τ :=
  operations.foldl (fun state operation => operation.perform load state) state

/-! ## Orders -/

/-- An order changes nothing unless it goes through. -/
theorem order_cases (memory : Memory) (change : Store → Except Failure Store) :
    (∃ store, change memory.store.value = .ok store ∧
        memory.order change = (.ok (), { memory with store := memory.store.replace store })) ∨
      ∃ failure, memory.order change = (.error failure, memory) := by
  unfold order Guarded.view?
  cases memory.store.isPoisoned with
  | true => exact .inr ⟨.lockPoisoned, rfl⟩
  | false =>
    cases hchange : change memory.store.value with
    | ok store => exact .inl ⟨store, rfl, by simp⟩
    | error failure => exact .inr ⟨failure, by simp⟩

theorem order_eq_of_error {memory : Memory} {change : Store → Except Failure Store}
    {failure : Failure} (hrefused : (memory.order change).1 = .error failure) :
    (memory.order change).2 = memory := by
  rcases memory.order_cases change with ⟨store, -, hdone⟩ | ⟨_, hkept⟩
  · rw [hdone] at hrefused
    cases hrefused
  · rw [hkept]

/-- That a fact on stores outlasts every order that goes through. -/
structure KeptByOrders (invariant : Store → Prop) : Prop where
  makeDirectory : ∀ {store store' path}, invariant store → store.makeDirectory path = .ok store' →
    invariant store'
  write : ∀ {store store' path text}, invariant store → store.write path text = .ok store' →
    invariant store'

theorem order_preserves {memory : Memory} {change : Store → Except Failure Store}
    (hchange : ∀ store, change memory.store.value = .ok store → invariant store)
    (hstore : invariant memory.store.value) : invariant (memory.order change).2.store.value := by
  rcases memory.order_cases change with ⟨store, hok, hdone⟩ | ⟨failure, hkept⟩
  · rw [hdone]
    exact hchange store hok
  · rw [hkept]
    exact hstore

/-- Scripts with templates from elsewhere keep of a memory what other scripts keep of it. -/
theorem preserves_surroundingsWith {kept : Memory → Prop} (hkeeps : surroundings.Preserves kept)
    (load : Template → τ → Except Failure String × τ) :
    (surroundingsWith load).Preserves fun state => kept state.1 where
  isDirectory _ hstate := hstate
  isPresent _ hstate := hstate
  makeDirectory path hstate := hkeeps.makeDirectory path hstate
  write path text hstate := hkeeps.write path text hstate
  load _ hstate := hstate

theorem KeptByOrders.scripts (hkept : KeptByOrders invariant) :
    Memory.surroundings.Preserves fun memory => invariant memory.store.value where
  isDirectory _ hstore := hstore
  isPresent _ hstore := hstore
  makeDirectory _ hstore := order_preserves (fun _ => hkept.makeDirectory hstore) hstore
  write _ _ hstore := order_preserves (fun _ => hkept.write hstore) hstore
  load _ hstore := hstore

/-! ## Seeds -/

theorem seed_ok {memory : Memory} (hlock : memory.store.isPoisoned = false) (path : Path)
    (text : String) : memory.seed path (.ok text) =
      (.ok (),
        { memory with store := memory.store.replace (memory.store.value.seed path text) }) := by
  unfold seed Guarded.use
  rw [hlock]
  rfl

theorem seed_preserves {memory : Memory} (path : Path) (text : Except Crash String)
    (hancestors : ∀ store, invariant store → invariant (store.insertAncestors path))
    (hseed : ∀ store text, invariant store → invariant (store.seed path text))
    (hstore : invariant memory.store.value) : invariant (memory.seed path text).2.store.value := by
  unfold seed Guarded.use
  cases memory.store.isPoisoned with
  | true => exact hstore
  | false =>
    cases text with
    | ok text => exact hseed _ text hstore
    | error crash => exact hancestors _ hstore

/-! ## One operation after another -/

/-- A fact that orders keep, and seeds as far as there are any, outlasts every sequence of
operations. -/
theorem history_preserves (hkept : KeptByOrders invariant) {operations : List Operation}
    (hseeds : (∀ operation ∈ operations, operation.IsOrderly) ∨
      (∀ store path, invariant store → invariant (store.insertAncestors path)) ∧
        ∀ store path text, invariant store → invariant (store.seed path text))
    {state : Memory × τ} (hstore : invariant state.1.store.value) :
    invariant (history load operations state).1.store.value := by
  induction operations generalizing state with
  | nil => exact hstore
  | cons operation rest ih =>
    refine ih (hseeds.imp_left fun hall => (List.forall_mem_cons.mp hall).2) ?_
    cases operation with
    | makeDirectory path => exact order_preserves (fun _ => hkept.makeDirectory hstore) hstore
    | write path text => exact order_preserves (fun _ => hkept.write hstore) hstore
    | run task =>
      exact Script.exec_preserves (preserves_surroundingsWith hkept.scripts load) task.script hstore
    | seed path text =>
      rcases hseeds with hall | ⟨hancestors, hseed⟩
      · exact absurd (List.forall_mem_cons.mp hall).1 id
      · exact seed_preserves path text (fun store => hancestors store path)
          (fun store => hseed store path) hstore

end Scaffolding.Memory
