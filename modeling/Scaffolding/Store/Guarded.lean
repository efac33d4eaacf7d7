import Scaffolding.Failure

/-!
# Values under a lock

A value that several users share is used under a lock.  A user that breaks off while holding the
lock leaves it poisoned, and nobody gets at the value again.
-/

namespace Scaffolding

/-- A value under a lock. -/
structure Guarded (α : Type) where
  value : α
  isPoisoned : Bool
  deriving DecidableEq, Repr

namespace Guarded

variable {α β : Type}

/-- A value that nobody has used yet. -/
def fresh (value : α) : Guarded α := ⟨value, false⟩

/-- What a user without a plan for a poisoned lock breaks off with. -/
def poisonCrash : Crash := ⟨"lock poisoned: PoisonError \x7b .. \x7d"⟩

/-- What can be seen of the value, unless the lock is poisoned. -/
def view? (shared : Guarded α) (look : α → β) : Option β :=
  if shared.isPoisoned then none else some (look shared.value)

/-- What can be seen of the value, by a user without a plan for a poisoned lock. -/
def view (shared : Guarded α) (look : α → β) : Except Crash β :=
  if shared.isPoisoned then .error poisonCrash else .ok (look shared.value)

/-- Puts another value in the place of the shared one. -/
def replace (shared : Guarded α) (value : α) : Guarded α :=
  { shared with value }

/-- A use that first changes the value by `before` and then, once it has its material, by `change`;
it breaks off between the two when the material cannot be had. -/
def use (shared : Guarded α) (before : α → α) (material : Except Crash β) (change : β → α → α) :
    Except Crash Unit × Guarded α :=
  if shared.isPoisoned then (.error poisonCrash, shared)
  else
    match material with
    | .ok material => (.ok (), shared.replace (change material (before shared.value)))
    | .error crash => (.error crash, ⟨before shared.value, true⟩)

end Guarded

end Scaffolding
