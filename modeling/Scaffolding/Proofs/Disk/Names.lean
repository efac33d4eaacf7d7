import Mathlib.Data.List.Induction
import Scaffolding.Proofs.Disk.Home
import Scaffolding.Proofs.Path.Canonical

/-!
# Walks of names

A canonical path is a list of names.  Where no link is in the way, its walk
ends where the names say, and it gets there iff all but the last lead to a
directory.

* `locate_eq_placeAt` and `isDirectory_above_of_locate` say where the walk
  of a canonical path ends.
* `Disk.Shows` says what the names of a path lead to, and
  `shows_insert_iff` how that changes with another node.
-/

namespace Scaffolding

/-! ## Walks of names -/

namespace Disk

variable {disk : Disk} {purpose : Purpose} {links : Nat} {location : Location} {place : Place}
  {node : Node} {path : Path} {names : List Bytes} {name : Bytes}

/-- That the system takes a path: its names and the path itself are short enough, and it has no zero
byte. -/
structure Admits (path : Path) : Prop where
  zero_not_mem : path.bytes.contains 0 = false
  length_lt : path.bytes.length < maxPathLength
  length_le : ∀ segment ∈ path.segments, segment.length ≤ maxNameLength

instance (path : Path) : Decidable (Admits path) :=
  decidable_of_iff (path.bytes.contains 0 = false ∧ path.bytes.length < maxPathLength ∧
      ∀ segment ∈ path.segments, segment.length ≤ maxNameLength)
    ⟨fun ⟨hzero, hshort, hnames⟩ => ⟨hzero, hshort, hnames⟩,
      fun ⟨hzero, hshort, hnames⟩ => ⟨hzero, hshort, hnames⟩⟩

/-- Whatever lies below a location makes it a directory. -/
theorem IsTree.node?_of_append (htree : disk.IsTree) {rest : Location}
    (hnode : disk.node? (location ++ rest) = some node) (hrest : rest ≠ []) :
    disk.node? location = some .directory := by
  induction rest using List.reverseRecOn generalizing node with
  | nil => exact absurd rfl hrest
  | append_singleton init last ih =>
    rw [← List.append_assoc] at hnode
    have habove := htree.node?_above hnode
    by_cases hinit : init = []
    · rwa [hinit, List.append_nil] at habove
    · exact ih habove hinit

theorem IsTree.insert (htree : disk.IsTree) (hroot : location ≠ [])
    (habove : disk.node? location.dropLast = some .directory)
    (hplace : disk.node? location ≠ some .directory) : (disk.insert location node).IsTree := by
  have hkeep : ∀ other, disk.node? other = some .directory →
      (disk.insert location node).node? other = some .directory := by
    intro other hother
    rw [node?_insert disk hroot, if_neg]
    · exact hother
    · rintro rfl
      exact hplace hother
  intro entry hentry
  rcases List.mem_cons.mp hentry with rfl | hold
  · exact hkeep _ habove
  · exact hkeep _ (htree entry (List.mem_filter.mp hold).1)

theorem fits_of_length_le {rest : List Step} (hlength : name.length ≤ maxNameLength)
    (hrest : rest ≠ [.slash]) : Fits purpose name rest :=
  ⟨fun hboth => hrest hboth.2, hlength⟩

/-- A walk of names through directories goes on from the last of them. -/
theorem Leads.of_names (htree : disk.IsTree) {rest : List Step}
    (hlengths : ∀ name ∈ names, name.length ≤ maxNameLength) (hrest : rest ≠ [.slash])
    (hthere : names ≠ [] → disk.node? (location ++ names) = some .directory)
    (hleads : Leads disk purpose links (location ++ names) rest place) :
    Leads disk purpose links location (names.map .name ++ rest) place := by
  induction names generalizing location with
  | nil =>
    rw [List.append_nil] at hleads
    exact hleads
  | cons name names ih =>
    obtain ⟨hlength, hlengths⟩ := List.forall_mem_cons.mp hlengths
    rw [List.append_cons] at hthere hleads
    have hhere : disk.node? (location ++ [name]) = some .directory := by
      by_cases hnames : names = []
      · subst hnames
        simpa using hthere
      · exact htree.node?_of_append (hthere (List.cons_ne_nil _ _)) hnames
    have hfits : Fits purpose name (names.map .name ++ rest) := by
      apply fits_of_length_le hlength
      cases names with
      | nil => exact hrest
      | cons => simp
    exact .enter hfits hhere (ih hlengths (fun _ => hthere (List.cons_ne_nil _ _)) hleads)

/-- Without links, a walk of names to a directory ends where the names say. -/
theorem Leads.node?_of_names {reached : Location}
    (hplain : ∀ rest target, disk.node? (location ++ rest) ≠ some (.link target))
    (hhere : disk.node? location = some .directory)
    (hleads : Leads disk .look links location (names.map .name) (.taken reached .directory)) :
    disk.node? (location ++ names) = some .directory := by
  induction names generalizing location with
  | nil =>
    rw [List.append_nil]
    exact hhere
  | cons name names ih =>
    rw [List.map_cons] at hleads
    cases hleads with
    | enter _ hnode hrest =>
      rw [List.append_cons]
      apply ih _ hnode hrest
      intro rest target
      rw [List.append_assoc]
      exact hplain _ _
    | follow _ hnode _ _ => exact absurd hnode (hplain _ _)

/-- Where a walk ends that comes to a name in a directory, unless the name is a link. -/
def placeAt (disk : Disk) (directory : Location) (name : Bytes) : Place :=
  match disk.node? (directory ++ [name]) with
  | none => .free directory name
  | some node => .taken (directory ++ [name]) node

theorem placeAt_of_none (hnode : disk.node? (location ++ [name]) = none) :
    disk.placeAt location name = .free location name := by
  unfold placeAt
  rw [hnode]

theorem placeAt_of_some (hnode : disk.node? (location ++ [name]) = some node) :
    disk.placeAt location name = .taken (location ++ [name]) node := by
  unfold placeAt
  rw [hnode]

theorem leads_placeAt (hlength : name.length ≤ maxNameLength)
    (hplain : ∀ target, disk.node? (location ++ [name]) ≠ some (.link target)) :
    Leads disk purpose 0 location [.name name] (disk.placeAt location name) := by
  have hfits : Fits purpose name [] := fits_of_length_le hlength (List.cons_ne_nil _ _).symm
  unfold placeAt
  cases hnode : disk.node? (location ++ [name]) with
  | none => exact .free hfits hnode rfl
  | some node =>
    cases node with
    | directory => exact .enter hfits hnode .arrive
    | file content => exact .file hfits hnode (.inl rfl)
    | link target => exact absurd hnode (hplain target)

/-- The steps of a canonical path are its names. -/
theorem stepsOf_of_isCanonical (hpath : path.IsCanonical) :
    stepsOf path = path.segments.map .name := by
  unfold stepsOf
  rw [if_neg hpath.getLast?_bytes_ne]
  apply List.filterMap_eq_map_iff_forall_eq_some.mpr
  intro segment hmem
  exact stepOf?_of_isName (hpath segment hmem)

section Canonical

variable (hpath : path.IsCanonical) (hsegments : path.segments = names ++ [name])
  (hplain : ∀ rest target, disk.node? (disk.here ++ rest) ≠ some (.link target))

include hpath hsegments hplain

/-- The walk of a canonical path ends at its last name if the others name a directory. -/
theorem locate_eq_placeAt (hadmits : Admits path) (htree : disk.IsTree)
    (habove : disk.node? (disk.here ++ names) = some .directory) :
    disk.locate purpose path = .ok (disk.placeAt (disk.here ++ names) name) := by
  have hlengths : ∀ other ∈ names ++ [name], other.length ≤ maxNameLength := by
    rw [← hsegments]
    exact hadmits.length_le
  have hstart : startOf disk.here path = disk.here := by
    unfold startOf
    rw [hpath.isAbsolute_eq_false, if_neg Bool.false_ne_true]
  have hlast : Leads disk purpose 0 (disk.here ++ names) [.name name]
      (disk.placeAt (disk.here ++ names) name) := by
    apply leads_placeAt (hlengths name (List.mem_append_right _ List.mem_cons_self))
    intro target
    rw [List.append_assoc]
    exact hplain _ _
  refine locate_eq_ok_iff.mpr ⟨⟨hadmits.zero_not_mem, hpath.bytes_ne_nil, hadmits.length_lt⟩,
    0, Nat.zero_le _, ?_⟩
  rw [hstart, stepsOf_of_isCanonical hpath, hsegments, List.map_append]
  exact .of_names htree (fun other hmem => hlengths other (List.mem_append_left _ hmem)) (by simp)
    (fun _ => habove) hlast

/-- The walk of a canonical path gets nowhere unless all its names but the last lead to a
directory. -/
theorem isDirectory_above_of_locate (hhere : disk.node? disk.here = some .directory)
    (hlocate : disk.locate purpose path = .ok place) :
    disk.node? (disk.here ++ names) = some .directory := by
  obtain ⟨-, used, -, hleads⟩ := locate_eq_ok_iff.mp hlocate
  have hstart : startOf disk.here path = disk.here := by
    unfold startOf
    rw [hpath.isAbsolute_eq_false, if_neg Bool.false_ne_true]
  rw [hstart, stepsOf_of_isCanonical hpath, hsegments, List.map_append] at hleads
  obtain ⟨_, _, reached, -, hbefore, -⟩ := hleads.exists_of_append
  exact hbefore.node?_of_names hplain hhere

end Canonical

end Disk

/-! ## What the names of a path show -/

namespace Disk

variable {disk : Disk} {node wanted : Node} {path other : Path}

/-- That the names of a path lead to a node from the working directory, without any link. -/
def Shows (disk : Disk) (path : Path) (node : Node) : Prop :=
  ∃ names, path.components = names.map .name ∧ disk.node? (disk.here ++ names) = some node

theorem names_inj {names names' : List Bytes}
    (hsame : names.map Path.Component.name = names'.map .name) : names = names' := by
  apply List.map_injective_iff.mpr _ hsame
  intro left right heq
  injection heq

theorem shows_iff (hpath : path.IsCanonical) :
    disk.Shows path node ↔ disk.node? (disk.here ++ path.segments) = some node := by
  unfold Shows
  rw [hpath.components_eq]
  constructor
  · rintro ⟨names, hnames, hnode⟩
    rwa [names_inj hnames]
  · exact fun hnode => ⟨_, rfl, hnode⟩

/-- A node at a path is shown there, and what other paths show does not change. -/
theorem shows_insert_iff (hpath : path.IsCanonical) :
    (disk.insert (disk.here ++ path.segments) node).Shows other wanted ↔
      if path ≈ other then node = wanted else disk.Shows other wanted := by
  have hroot : disk.here ++ path.segments ≠ [] :=
    List.append_ne_nil_of_right_ne_nil _ path.segments_ne_nil
  have hlook : ∀ names, (disk.insert (disk.here ++ path.segments) node).node? (disk.here ++ names) =
      if names = path.segments then some node else disk.node? (disk.here ++ names) := by
    intro names
    rw [node?_insert disk hroot]
    simp only [List.append_cancel_left_eq]
  have hcomponents := hpath.components_eq
  unfold Shows
  rw [here_insert]
  simp only [hlook]
  by_cases hsame : path ≈ other
  · have hother := hsame.symm.trans hcomponents
    rw [if_pos hsame, hother]
    constructor
    · rintro ⟨names, hnames, hnode⟩
      rw [if_pos (names_inj hnames).symm] at hnode
      exact Option.some.inj hnode
    · rintro rfl
      exact ⟨path.segments, rfl, if_pos rfl⟩
  · rw [if_neg hsame]
    refine exists_congr fun names => and_congr_right fun hnames => ?_
    rw [if_neg]
    rintro rfl
    exact hsame (hcomponents.trans hnames.symm)

end Disk

end Scaffolding
