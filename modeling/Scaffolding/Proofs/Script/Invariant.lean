import Scaffolding.Proofs.Script.Mirror

/-!
# What no call can break

A fact on the state of some surroundings that every call keeps is kept by
every script, also by one that stops at a failure.

* `Surroundings.Preserves` has one law for each call.
* `exec_preserves` is the step from calls to scripts.
-/

namespace Scaffolding

variable {σ α : Type} {invariant : σ → Prop}

/-- That no call breaks a fact on the state, however it is answered. -/
structure Surroundings.Preserves (around : Surroundings σ) (invariant : σ → Prop) : Prop where
  isDirectory : ∀ {state} (path : Path), invariant state →
    invariant (around.isDirectory path state).2
  isPresent : ∀ {state} (path : Path), invariant state → invariant (around.isPresent path state).2
  makeDirectory : ∀ {state} (path : Path), invariant state →
    invariant (around.makeDirectory path state).2
  write : ∀ {state} (path : Path) (text : String), invariant state →
    invariant (around.write path text state).2
  load : ∀ {state} (template : Template), invariant state →
    invariant (around.load template state).2

namespace Script

variable {around : Surroundings σ}

theorem exec_preserves (hkeeps : around.Preserves invariant) (script : Script α) {state : σ}
    (hstate : invariant state) : invariant (script.exec around state).state := by
  induction script generalizing state with
  | done answer => exact hstate
  | isDirectory path next ih => exact ih _ (hkeeps.isDirectory path hstate)
  | isPresent path next ih => exact ih _ (hkeeps.isPresent path hstate)
  | note event next ih => exact ih hstate
  | makeDirectory path next ih =>
    have hafter := hkeeps.makeDirectory path hstate
    simp only [exec]
    split
    · rename_i hmake
      rw [hmake] at hafter
      exact ih hafter
    · rename_i hmake
      rw [hmake] at hafter
      exact hafter
  | write path text next ih =>
    have hafter := hkeeps.write path text hstate
    simp only [exec]
    split
    · rename_i hwrite
      rw [hwrite] at hafter
      exact ih hafter
    · rename_i hwrite
      rw [hwrite] at hafter
      exact hafter
  | load template next ih =>
    have hafter := hkeeps.load template hstate
    simp only [exec]
    split
    · rename_i hload
      rw [hload] at hafter
      exact ih _ hafter
    · rename_i hload
      rw [hload] at hafter
      exact hafter

end Script

end Scaffolding
