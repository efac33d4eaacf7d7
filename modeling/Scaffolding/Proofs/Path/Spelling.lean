import Mathlib.Data.List.Forall2
import Scaffolding.Proofs.Path.Ancestors

/-!
# What does not depend on the spelling of a path

A path is stored, joined and cut as it is spelled, but what comes of it
means the same for every spelling.

* `isAbsolute_congr`, `map_components_ancestors_congr` and `child_congr`
  say so of the questions and operations on paths.
* `forall₂_meaning_iff` goes from a list to the list of what it means, and
  back.
-/

namespace Scaffolding

/-- Lists mean the same one by one if they mean the same as a whole. -/
theorem forall₂_meaning_iff {α β : Type} {meaning : α → β} {values values' : List α} :
    List.Forall₂ (fun value value' => meaning value = meaning value') values values' ↔
      values.map meaning = values'.map meaning := by
  rw [← List.forall₂_eq_eq_eq, List.forall₂_map_left_iff, List.forall₂_map_right_iff]

namespace Path

variable {path path' : Path}

theorem forall₂_equiv_iff {paths paths' : List Path} :
    List.Forall₂ (· ≈ ·) paths paths' ↔ paths.map components = paths'.map components :=
  forall₂_meaning_iff

theorem eq_empty_congr (hsame : path ≈ path') : path = empty ↔ path' = empty := by
  rw [← components_eq_nil_iff, equiv_iff.mp hsame, components_eq_nil_iff]

theorem head?_lead_append {first : Bytes} (hfirst : first ≠ []) (alone : Bool)
    (rest : List Component) : (lead first alone ++ rest).head? ≠ some .root := by
  unfold lead
  rw [if_neg hfirst]
  split
  · exact nofun
  · rename_i hdot
    unfold step? isIdle
    rw [decide_eq_false hfirst, decide_eq_false hdot, Bool.or_false, if_neg Bool.false_ne_true]
    split
    · exact nofun
    · exact nofun

/-- A path is absolute if the root directory is its first step. -/
theorem isAbsolute_iff : path.isAbsolute = true ↔ path.components.head? = some .root := by
  by_cases hempty : path = empty
  · subst hempty
    exact iff_of_false nofun nofun
  · cases hsegments : path.segments with
    | nil => exact absurd hsegments path.segments_ne_nil
    | cons first rest =>
      have hrelative := isAbsolute_eq_false_iff hsegments hempty
      unfold components
      rw [hsegments, componentsOf_cons, ← Bool.not_eq_false, hrelative, not_ne_iff]
      constructor
      · rintro rfl
        have hrest : rest ≠ [] := by
          rintro rfl
          exact hempty (congrArg Path.mk (bytes_eq_nil_of_segments hsegments))
        have hmore : rest.isEmpty = false := List.isEmpty_eq_false_iff.mpr hrest
        rw [hmore]
        rfl
      · intro hhead
        by_contra hfirst
        exact head?_lead_append hfirst _ _ hhead

theorem isAbsolute_congr (hsame : path ≈ path') : path.isAbsolute = path'.isAbsolute := by
  rw [Bool.eq_iff_iff, isAbsolute_iff, isAbsolute_iff, equiv_iff.mp hsame]

theorem map_components_ancestors_congr (hsame : path ≈ path') :
    path.ancestors.map components = path'.ancestors.map components := by
  rw [map_components_ancestors, map_components_ancestors, equiv_iff.mp hsame,
    isAbsolute_congr hsame]

theorem map_components_parent?_congr (hsame : path ≈ path') :
    path.parent?.map components = path'.parent?.map components := by
  unfold parent?
  rw [← List.head?_map, ← List.head?_map, map_components_ancestors_congr hsame]

/-- Going on to a name leads to the same place from every spelling. -/
theorem child_congr {text : String} (hname : IsName (Text.encode text)) (hsame : path ≈ path') :
    path.child text ≈ path'.child text := by
  have hcomponents := equiv_iff.mp hsame
  unfold child ofText
  rw [equiv_iff, components_join hname, components_join hname, hcomponents]

end Path

end Scaffolding
