import Scaffolding.Proofs.Path.Ancestors
import Scaffolding.Proofs.Provider.Layout

/-!
# Providers keep to themselves

By its steps, every path of a provider goes from the output root to the
provider's name, and one name further at most.  So the paths of one
provider say nothing that the output root does not say, and the paths of
two providers part at their names.

* `exists_names_of_mem_sites` gives the steps of a path.
* `not_isPrefix_of_ne` parts two providers.
* `confined_layout` is the result, for every provider and output root.
-/

namespace Scaffolding.Provider

variable {provider other : Provider} {root : Path} {site site' : Site}

/-- A path of a provider is its home or an entry of that. -/
theorem path_of_mem_sites (hsite : site ∈ provider.sites root) :
    site = .directory (provider.home root) ∨
      ∃ text ∈ provider.entryNames, site.path = (provider.home root).child text := by
  obtain ⟨before, after, hsites⟩ := List.append_of_mem hsite
  rcases cases_of_sites_eq hsites with ⟨-, hhome⟩ | ⟨-, hentry⟩
  · exact .inl hhome
  · exact .inr hentry

/-- A path of a provider goes on from the output root by its name, and by no name or one more. -/
theorem exists_names_of_mem_sites (hsite : site ∈ provider.sites root) :
    ∃ names : List Bytes, names.length ≤ 1 ∧ (∀ name ∈ names, Path.IsName name) ∧
      site.path.components =
        root.components ++ .name (Text.encode provider.name) :: names.map .name := by
  rcases path_of_mem_sites hsite with rfl | ⟨text, htext, hpath⟩
  · exact ⟨[], Nat.zero_le 1, by simp, provider.components_home root⟩
  · refine ⟨[Text.encode text], Nat.le_refl 1, ?_, ?_⟩
    · intro name hmem
      rw [List.mem_singleton.mp hmem]
      exact isName_of_mem_entryNames htext
    · rw [hpath, components_child_home provider root htext, components_home, List.append_assoc]
      rfl

/-- The way to a path of one provider is no part of the way to a path of another. -/
theorem not_isPrefix_of_ne (hne : other ≠ provider) (hsite : site ∈ provider.sites root)
    (hsite' : site' ∈ other.sites root) : ¬ site.path.components <+: site'.path.components := by
  intro hbegins
  obtain ⟨names, -, -, hcomponents⟩ := exists_names_of_mem_sites hsite
  obtain ⟨names', -, -, hcomponents'⟩ := exists_names_of_mem_sites hsite'
  rw [hcomponents, hcomponents', List.prefix_append_right_inj, List.cons_prefix_cons] at hbegins
  obtain ⟨hstep, -⟩ := hbegins
  injection hstep with hbytes
  exact hne (Provider.ext (Text.encode_injective hbytes).symm)

theorem pairwise_path_sites (provider : Provider) (root : Path) :
    ((provider.sites root).map Site.path).Pairwise fun path path' => ¬ path ≈ path' := by
  have hnodup := provider.nodup_components_sites root
  rw [List.nodup_iff_pairwise_ne, List.pairwise_map] at hnodup
  rw [List.pairwise_map]
  exact hnodup

theorem exists_parent?_of_mem_sites (hsite : site ∈ provider.sites root)
    (hother : site ≠ .directory (provider.home root)) :
    ∃ parent, site.path.parent? = some parent ∧ parent ≈ provider.home root := by
  rcases path_of_mem_sites hsite with hhome | ⟨text, htext, hpath⟩
  · exact absurd hhome hother
  · rw [hpath]
    exact exists_parent?_child_home provider root htext

/-- However the output root is spelled, the seven paths of a provider are the home below it and six
entries of the home, no two of them the same.  No path of another provider below the same root is
one of them, is above one of them or is below one of them. -/
theorem confined_layout (provider : Provider) (root : Path) :
    (∀ site ∈ provider.sites root, ∃ names : List Bytes,
      names.length ≤ 1 ∧ (∀ name ∈ names, Path.IsName name) ∧
        site.path.components =
          root.components ++ .name (Text.encode provider.name) :: names.map .name) ∧
    ((provider.sites root).map Site.path).length = 7 ∧
    ((provider.sites root).map Site.path).Pairwise (fun path path' => ¬ path ≈ path') ∧
    (∃ parent, (provider.home root).parent? = some parent ∧ parent ≈ root) ∧
    (∀ site ∈ provider.sites root, site ≠ .directory (provider.home root) →
      ∃ parent, site.path.parent? = some parent ∧ parent ≈ provider.home root) ∧
    (∀ text ∈ subdirectories,
      [provider.home root, (provider.home root).child text].Sublist (provider.directories root)) ∧
    ∀ other : Provider, other ≠ provider → ∀ site ∈ provider.sites root,
      ∀ site' ∈ other.sites root, ¬ site.path ≈ site'.path ∧
        (∀ ancestor ∈ site'.path.ancestors, ¬ ancestor ≈ site.path) ∧
        ∀ ancestor ∈ site.path.ancestors, ¬ ancestor ≈ site'.path := by
  refine ⟨fun site => exists_names_of_mem_sites, rfl, provider.pairwise_path_sites root,
    Path.exists_parent?_join provider.isName_name, fun site => exists_parent?_of_mem_sites, ?_, ?_⟩
  · intro text htext
    have hmem := List.mem_map_of_mem (f := (provider.home root).child) htext
    exact (List.singleton_sublist.mpr hmem).cons_cons _
  · intro other hne site hsite site' hsite'
    have happart := not_isPrefix_of_ne hne hsite hsite'
    have happart' := not_isPrefix_of_ne hne.symm hsite' hsite
    refine ⟨?_, ?_, ?_⟩
    · intro hsame
      exact happart (Path.equiv_iff.mp hsame ▸ List.prefix_rfl)
    · intro ancestor hmem hsame
      exact happart (Path.equiv_iff.mp hsame ▸ (Path.components_of_mem_ancestors hmem).1)
    · intro ancestor hmem hsame
      exact happart' (Path.equiv_iff.mp hsame ▸ (Path.components_of_mem_ancestors hmem).1)

end Scaffolding.Provider
