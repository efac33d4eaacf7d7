import Scaffolding.Path.Basic

/-!
# Ancestors of a path

An ancestor drops components from the end of a path and keeps the spelling of the rest.  The last
ancestor of an absolute path is `/`, and that of a relative one is the empty path; neither has an
ancestor of its own.
-/

namespace Scaffolding.Path

/-- The path with a given first stretch and given stretches behind it. -/
def spell (first : Bytes) (rest : List Bytes) : Path :=
  if first = [] ∧ rest = [] then ⟨[slash]⟩ else ⟨[slash].intercalate (first :: rest)⟩

/-- The ancestors of the path that starts with the stretch `first` and goes on with the given
stretches, the last of them first. -/
def ancestorsAbove (first : Bytes) : List Bytes → List Path
  | [] => if first = [] then [] else [empty]
  | segment :: earlier =>
    if isIdle segment then ancestorsAbove first earlier
    else spell first (earlier.dropWhile isIdle).reverse :: ancestorsAbove first earlier

/-- The proper ancestors of a path, the nearest first. -/
def ancestors (path : Path) : List Path :=
  match path.segments with
  | [] => []
  | first :: rest => ancestorsAbove first rest.reverse

/-- The nearest ancestor of a path. -/
def parent? (path : Path) : Option Path := path.ancestors.head?

end Scaffolding.Path
