import Scaffolding.Path.Basic
import Scaffolding.Provider.Layout

/-!
# Reports

A report tells for each site of a provider, in the order in which the sites were visited, whether it
was made, was there already, or would be made.
-/

namespace Scaffolding

namespace Report

/-- What a reported path is. -/
inductive Kind where
  | directory
  | file
  deriving DecidableEq, Repr

/-- What became of a reported path. -/
inductive Outcome where
  /-- It was made. -/
  | created
  /-- It was there, and was left as it was. -/
  | alreadyExists
  /-- It is not there, and nothing was to be made. -/
  | wouldCreate
  deriving DecidableEq, Repr

/-- What is reported of one path. -/
structure Entry where
  path : Path
  kind : Kind
  outcome : Outcome
  deriving DecidableEq, Repr

end Report

/-- What is reported of a provider and its home directory. -/
structure Report where
  provider : Provider
  home : Path
  entries : List Report.Entry
  deriving DecidableEq

namespace Report

/-- How many entries have a given outcome. -/
def count (report : Report) (outcome : Outcome) : Nat :=
  report.entries.countP fun entry => entry.outcome = outcome

/-- Whether nothing was made. -/
def isNoop (report : Report) : Bool :=
  report.count .created = 0

/-- Nothing was made iff no entry says so. -/
theorem isNoop_iff {report : Report} :
    report.isNoop = true ↔ ∀ entry ∈ report.entries, entry.outcome ≠ .created := by
  simp [isNoop, count, List.countP_eq_zero]

end Report

end Scaffolding
