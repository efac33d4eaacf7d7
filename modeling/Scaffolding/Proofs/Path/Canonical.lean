import Scaffolding.Proofs.Path.Join

/-!
# Paths with nothing to spare

A canonical path is relative and spelled by names alone, with one slash
between two of them.  Its stretches, its components and, on a disk, its
steps are all the same list of names.

* `IsCanonical.components_eq` reads the components off the stretches.
* `isCanonical_join` stays canonical when a path goes on to a name.
* `IsCanonical.exists_parent?` gives the parent by its names.
-/

namespace Scaffolding.Path

/-- That every stretch of a path is a name.  The empty path is not canonical. -/
def IsCanonical (path : Path) : Prop :=
  ∀ segment ∈ path.segments, IsName segment

instance (path : Path) : Decidable path.IsCanonical :=
  inferInstanceAs (Decidable (∀ segment ∈ path.segments, IsName segment))

variable {path : Path} {names : List Bytes}

theorem filterMap_step?_of_forall_isName (hnames : ∀ name ∈ names, IsName name) :
    names.filterMap step? = names.map .name := by
  induction names with
  | nil => rfl
  | cons name rest ih =>
    obtain ⟨hname, hrest⟩ := List.forall_mem_cons.mp hnames
    rw [List.filterMap_cons_some hname.step?_eq, ih hrest, List.map_cons]

theorem componentsOf_of_forall_isName (hnames : ∀ name ∈ names, IsName name) :
    componentsOf names = names.map .name := by
  cases names with
  | nil => rfl
  | cons first rest =>
    obtain ⟨hfirst, hrest⟩ := List.forall_mem_cons.mp hnames
    have hlead : lead first rest.isEmpty = [.name first] := by
      unfold lead
      rw [if_neg hfirst.ne_nil, if_neg hfirst.ne_dot, hfirst.step?_eq]
      rfl
    rw [componentsOf_cons, hlead, filterMap_step?_of_forall_isName hrest]
    rfl

theorem IsCanonical.components_eq (hpath : path.IsCanonical) :
    path.components = path.segments.map .name :=
  componentsOf_of_forall_isName hpath

theorem IsCanonical.bytes_ne_nil (hpath : path.IsCanonical) : path.bytes ≠ [] := by
  intro hempty
  obtain ⟨bytes⟩ := path
  subst hempty
  exact (hpath [] List.mem_cons_self).ne_nil rfl

theorem IsCanonical.getLast?_bytes_ne (hpath : path.IsCanonical) :
    path.bytes.getLast? ≠ some slash := by
  intro hslash
  obtain ⟨front, hfront⟩ := List.getLast?_eq_some_iff.mp hslash
  have hsegments : path.segments = (⟨front⟩ : Path).segments ++ [[]] := by
    show path.bytes.splitOn slash = _
    rw [hfront]
    exact segments_append_slash front []
  refine (hpath [] ?_).ne_nil rfl
  rw [hsegments]
  exact List.mem_append_right _ List.mem_cons_self

theorem IsCanonical.isAbsolute_eq_false (hpath : path.IsCanonical) : path.isAbsolute = false := by
  apply decide_eq_false
  intro hslash
  obtain ⟨rest, hrest⟩ := List.head?_eq_some_iff.mp hslash
  have hsegments : path.segments = (⟨[]⟩ : Path).segments ++ (⟨rest⟩ : Path).segments := by
    show path.bytes.splitOn slash = _
    rw [hrest]
    exact segments_append_slash [] rest
  refine (hpath [] ?_).ne_nil rfl
  rw [hsegments]
  exact List.mem_append_left _ List.mem_cons_self

theorem mem_segments_of_mem_stem {segment : Bytes} (hmem : segment ∈ path.stem) :
    segment ∈ path.segments := by
  unfold stem at hmem
  split at hmem
  · exact (List.dropLast_sublist path.segments).mem hmem
  · exact hmem

/-- Going on to a name from a canonical path, or from nowhere, gives a canonical path. -/
theorem isCanonical_join {left : Path} {segment : Bytes} (hname : IsName segment)
    (hleft : left = empty ∨ left.IsCanonical) : (left.join ⟨segment⟩).IsCanonical := by
  have hstem : ∀ stretch ∈ left.stem, IsName stretch := by
    rcases hleft with rfl | hleft
    · exact fun stretch hmem => absurd hmem List.not_mem_nil
    · exact fun stretch hmem => hleft stretch (mem_segments_of_mem_stem hmem)
  unfold IsCanonical
  rw [segments_join hname]
  intro stretch hmem
  rcases List.mem_append.mp hmem with hmem | hmem
  · exact hstem stretch hmem
  · rw [List.mem_singleton.mp hmem]
    exact hname

/-- Only the empty path has no component. -/
theorem components_eq_nil_iff : path.components = [] ↔ path = empty := by
  constructor
  · intro hnil
    unfold components at hnil
    cases hsegments : path.segments with
    | nil => exact absurd hsegments path.segments_ne_nil
    | cons first rest =>
      rw [hsegments, componentsOf_cons] at hnil
      obtain ⟨hlead, -⟩ := List.append_eq_nil_iff.mp hnil
      unfold lead at hlead
      split at hlead
      · rename_i hfirst
        split at hlead
        · rename_i hrest
          rw [hfirst, List.isEmpty_iff.mp hrest] at hsegments
          have hbytes := bytes_eq_nil_of_segments hsegments
          obtain ⟨bytes⟩ := path
          exact congrArg Path.mk hbytes
        · cases hlead
      · rename_i hfirst
        split at hlead
        · cases hlead
        · rename_i hdot
          unfold step? isIdle at hlead
          rw [decide_eq_false hfirst, decide_eq_false hdot, Bool.or_false,
            if_neg Bool.false_ne_true] at hlead
          split at hlead <;> cases hlead
  · rintro rfl
    rfl

/-- The parent of a canonical path has all its names but the last. -/
theorem IsCanonical.exists_parent? (hpath : path.IsCanonical) {name : Bytes}
    (hsegments : path.segments = names ++ [name]) :
    ∃ parent, path.parent? = some parent ∧ parent.components = names.map .name := by
  have hnames : ∀ other ∈ names, IsName other := by
    intro other hmem
    apply hpath other
    rw [hsegments]
    exact List.mem_append_left _ hmem
  have hname : IsName name := by
    apply hpath name
    rw [hsegments]
    exact List.mem_append_right _ List.mem_cons_self
  obtain ⟨parent, hparent, hcomponents⟩ := exists_parent?_of_segments hsegments hname
  refine ⟨parent, hparent, ?_⟩
  rw [hcomponents]
  cases names with
  | nil => rfl
  | cons first rest =>
    have hfirst : first ≠ [] := (hnames first List.mem_cons_self).ne_nil
    rw [componentsOf_append_slash fun hnil => absurd hnil hfirst,
      componentsOf_of_forall_isName hnames]

end Scaffolding.Path
