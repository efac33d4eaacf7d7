import Mathlib.Data.List.Infix
import Scaffolding.Proofs.Path.Canonical
import Scaffolding.Proofs.Path.Order

/-!
# The steps of an ancestor

An ancestor is spelled from stretches, and some stretches are no step.  By
its steps it is a beginning of the path: every proper beginning is that of
one ancestor, the longest that of the nearest.  Only the empty beginning is
left out where the path starts at the root directory.

* `map_components_ancestors` is this equation.
* `above_iff` reads it for the ancestors that are not empty, and
  `Above.exists_parent?` climbs by one step.
-/

namespace Scaffolding.Path

variable {path ancestor : Path} {first segment : Bytes} {earlier : List Bytes}
  {steps : List Component}

/-! ## The steps before a stretch -/

/-- The steps of a path that goes on behind a first stretch and given stretches, the last of them
first. -/
def stepsBefore (first : Bytes) (earlier : List Bytes) : List Component :=
  lead first false ++ earlier.reverse.filterMap step?

theorem exists_lead_eq (first : Bytes) : ∃ step, lead first false = [step] := by
  unfold lead step? isIdle
  by_cases hempty : first = []
  · exact ⟨.root, by rw [if_pos hempty]; rfl⟩
  · by_cases hdot : first = dot
    · exact ⟨.here, by rw [if_neg hempty, if_pos hdot]⟩
    · rw [if_neg hempty, if_neg hdot, decide_eq_false hempty, decide_eq_false hdot,
        Bool.or_false, if_neg Bool.false_ne_true]
      split
      · exact ⟨.up, rfl⟩
      · exact ⟨.name first, rfl⟩

theorem stepsBefore_ne_nil (first : Bytes) (earlier : List Bytes) :
    stepsBefore first earlier ≠ [] := by
  obtain ⟨step, hstep⟩ := exists_lead_eq first
  unfold stepsBefore
  rw [hstep]
  exact List.cons_ne_nil _ _

theorem stepsBefore_cons_of_idle (hidle : isIdle segment = true) :
    stepsBefore first (segment :: earlier) = stepsBefore first earlier := by
  have hnone : step? segment = none := if_pos hidle
  unfold stepsBefore
  rw [List.reverse_cons, List.filterMap_append, List.filterMap_cons_none hnone, List.filterMap_nil,
    List.append_nil]

theorem exists_stepsBefore_cons (hstep : isIdle segment = false) :
    ∃ step, stepsBefore first (segment :: earlier) = stepsBefore first earlier ++ [step] := by
  have hsome : ∃ step, step? segment = some step := by
    unfold step?
    rw [hstep, if_neg Bool.false_ne_true]
    split
    · exact ⟨.up, rfl⟩
    · exact ⟨.name segment, rfl⟩
  obtain ⟨step, hsome⟩ := hsome
  refine ⟨step, ?_⟩
  unfold stepsBefore
  rw [List.reverse_cons, List.filterMap_append, List.filterMap_cons_some hsome, List.filterMap_nil,
    List.append_assoc]

/-- What is spelled without the idle stretches at the end has the same steps. -/
theorem components_spell_dropWhile (hfirst : slash ∉ first)
    (hearlier : ∀ stretch ∈ earlier, slash ∉ stretch) :
    (spell first (earlier.dropWhile isIdle).reverse).components = stepsBefore first earlier := by
  have hslash : ∀ stretch ∈ (earlier.dropWhile isIdle).reverse, slash ∉ stretch := by
    intro stretch hmem
    exact hearlier stretch ((List.dropWhile_sublist isIdle).mem (List.mem_reverse.mp hmem))
  have hidle : [([] : Bytes)].filterMap step? = [] := rfl
  have hnonempty : ((earlier.dropWhile isIdle).reverse ++ [[]]).isEmpty = false := by simp
  rw [components_spell hfirst hslash, List.cons_append, componentsOf_cons, hnonempty,
    List.filterMap_append, hidle, List.append_nil, List.filterMap_reverse,
    filterMap_step?_dropWhile, ← List.filterMap_reverse]
  rfl

/-! ## Beginnings -/

/-- The proper beginnings of some steps, the longest first. -/
def beginnings (steps : List Component) : List (List Component) :=
  steps.inits.reverse.tail

theorem beginnings_concat (steps : List Component) (step : Component) :
    beginnings (steps ++ [step]) = steps :: beginnings steps := by
  have hlast : ∃ others, steps.inits = others ++ [steps] := by
    cases steps using List.reverseRecOn with
    | nil => exact ⟨[], rfl⟩
    | append_singleton rest last =>
      refine ⟨rest.inits, ?_⟩
      rw [List.inits_append]
      rfl
  obtain ⟨others, hothers⟩ := hlast
  unfold beginnings
  rw [List.inits_append, hothers]
  simp

theorem mem_beginnings_iff {others : List Component} :
    others ∈ beginnings steps ↔ others <+: steps ∧ others ≠ steps := by
  induction steps using List.reverseRecOn with
  | nil =>
    constructor
    · intro hmem
      cases hmem
    · intro hboth
      exact absurd (List.prefix_nil.mp hboth.1) hboth.2
  | append_singleton rest last ih =>
    rw [beginnings_concat, List.mem_cons, ih, List.prefix_concat_iff]
    constructor
    · intro hcases
      have hshorter : others <+: rest := by
        rcases hcases with rfl | ⟨hbegins, -⟩
        · exact List.prefix_rfl
        · exact hbegins
      refine ⟨.inr hshorter, ?_⟩
      rintro rfl
      have hlength := hshorter.length_le
      rw [List.length_append, List.length_singleton] at hlength
      omega
    · rintro ⟨heq | hbegins, hne⟩
      · exact absurd heq hne
      · by_cases hsame : others = rest
        · exact .inl hsame
        · exact .inr ⟨hbegins, hsame⟩

theorem nodup_beginnings (steps : List Component) : (beginnings steps).Nodup := by
  induction steps using List.reverseRecOn with
  | nil => exact .nil
  | append_singleton rest last ih =>
    rw [beginnings_concat]
    exact List.nodup_cons.mpr ⟨fun hmem => (mem_beginnings_iff.mp hmem).2 rfl, ih⟩

theorem map_components_ancestorsAbove (hfirst : slash ∉ first)
    (hearlier : ∀ stretch ∈ earlier, slash ∉ stretch) :
    (ancestorsAbove first earlier).map components =
      (beginnings (stepsBefore first earlier)).filter fun steps => steps ≠ [] ∨ first ≠ [] := by
  induction earlier with
  | nil =>
    obtain ⟨step, hstep⟩ := exists_lead_eq first
    have hbefore : stepsBefore first [] = [] ++ [step] := by
      unfold stepsBefore
      rw [hstep]
      rfl
    rw [hbefore, beginnings_concat, ancestorsAbove]
    by_cases hempty : first = []
    · rw [if_pos hempty]
      simp [hempty, beginnings]
    · rw [if_neg hempty]
      simp [hempty, beginnings, components_eq_nil_iff.mpr]
  | cons segment earlier ih =>
    obtain ⟨-, hrest⟩ := List.forall_mem_cons.mp hearlier
    have habove := ih hrest
    cases hidle : isIdle segment with
    | true => rw [ancestorsAbove, if_pos hidle, habove, stepsBefore_cons_of_idle hidle]
    | false =>
      obtain ⟨step, hstep⟩ := @exists_stepsBefore_cons first segment earlier hidle
      have hkept : decide (stepsBefore first earlier ≠ [] ∨ first ≠ []) = true :=
        decide_eq_true (.inl (stepsBefore_ne_nil first earlier))
      rw [ancestorsAbove, hidle, if_neg Bool.false_ne_true, List.map_cons, habove,
        components_spell_dropWhile hfirst hrest, hstep, beginnings_concat, List.filter_cons, hkept,
        if_pos rfl]

/-! ## Ancestors -/

theorem isAbsolute_eq_false_iff {rest : List Bytes} (hsegments : path.segments = first :: rest)
    (hempty : path ≠ empty) : path.isAbsolute = false ↔ first ≠ [] := by
  obtain ⟨bytes⟩ := path
  unfold segments at hsegments
  unfold isAbsolute
  cases bytes with
  | nil => exact absurd rfl hempty
  | cons byte bytes =>
    rw [List.splitOn_cons_eq_if_modifyHead] at hsegments
    by_cases hslash : byte = slash
    · rw [if_pos (by simp [hslash])] at hsegments
      injection hsegments with hfirst
      simp [hslash, ← hfirst]
    · rw [if_neg (by simp [hslash])] at hsegments
      cases hsplit : bytes.splitOn slash with
      | nil => exact absurd hsplit (List.splitOn_ne_nil slash bytes)
      | cons segment others =>
        rw [hsplit] at hsegments
        injection hsegments with hfirst
        simp [hslash, ← hfirst]

/-- The ancestors of a path have its proper beginnings for their steps, the nearest the longest. -/
theorem map_components_ancestors (path : Path) :
    path.ancestors.map components =
      (beginnings path.components).filter fun steps => steps ≠ [] ∨ path.isAbsolute = false := by
  by_cases hempty : path = empty
  · subst hempty
    rfl
  · unfold ancestors
    cases hsegments : path.segments with
    | nil => exact absurd hsegments path.segments_ne_nil
    | cons first rest =>
      have hslash : ∀ stretch ∈ first :: rest, slash ∉ stretch := by
        intro stretch hmem
        rw [← hsegments] at hmem
        exact slash_not_mem_of_mem_segments hmem
      obtain ⟨hfirst, hrest⟩ := List.forall_mem_cons.mp hslash
      have hcomponents : path.components = stepsBefore first rest.reverse := by
        have hlead : lead first rest.isEmpty = lead first false := by
          cases rest with
          | cons => rfl
          | nil =>
            unfold lead
            split
            · rename_i hnil
              subst hnil
              have hbytes := bytes_eq_nil_of_segments hsegments
              obtain ⟨bytes⟩ := path
              exact absurd (congrArg Path.mk hbytes) hempty
            · rfl
        unfold components stepsBefore
        rw [hsegments, componentsOf_cons, hlead, List.reverse_reverse]
      have habove := @map_components_ancestorsAbove first rest.reverse hfirst
        fun stretch hmem => hrest stretch (List.mem_reverse.mp hmem)
      simp only [isAbsolute_eq_false_iff hsegments hempty]
      rw [hcomponents, ← habove]

/-- No two ancestors of a path are the same place. -/
theorem apart_ancestors (path : Path) : Apart id path.ancestors := by
  have hnodup : (path.ancestors.map components).Nodup := by
    rw [map_components_ancestors]
    exact (nodup_beginnings path.components).filter _
  exact List.pairwise_map.mp hnodup

/-- The parent lacks the last step. -/
theorem components_parent? {parent : Path} (hparent : path.parent? = some parent) :
    ∃ step, path.components = parent.components ++ [step] := by
  have hhead := congrArg List.head? (map_components_ancestors path)
  unfold parent? at hparent
  rw [List.head?_map, hparent, Option.map_some] at hhead
  rcases List.eq_nil_or_concat' path.components with hnil | ⟨rest, step, hconcat⟩
  · rw [hnil] at hhead
    cases hhead
  · rw [hconcat, beginnings_concat, List.filter_cons] at hhead
    split at hhead
    · rw [hconcat, Option.some.inj hhead]
      exact ⟨step, rfl⟩
    · rename_i hleft
      have hrest : rest = [] := by
        by_contra hrest
        exact hleft (decide_eq_true (.inl hrest))
      rw [hrest] at hhead
      cases hhead

theorem components_of_mem_ancestors (hmem : ancestor ∈ path.ancestors) :
    ancestor.components <+: path.components ∧ ancestor.components ≠ path.components := by
  have hmap := List.mem_map_of_mem (f := components) hmem
  rw [map_components_ancestors] at hmap
  exact mem_beginnings_iff.mp (List.mem_filter.mp hmap).1

/-! ## Above a path -/

/-- That a path that is not empty is a proper beginning of another, however the two are spelled. -/
structure Above (ancestor path : Path) : Prop where
  ne_empty : ancestor ≠ empty
  isPrefix : ancestor.components <+: path.components
  ne : ancestor.components ≠ path.components

/-- A path is above another if it means the same as one of the other's ancestors. -/
theorem above_iff : ancestor.Above path ↔
    ∃ other ∈ path.ancestors, other ≠ empty ∧ other.components = ancestor.components := by
  constructor
  · intro habove
    have hne : ancestor.components ≠ [] := fun hnil =>
      habove.ne_empty (components_eq_nil_iff.mp hnil)
    have hmem : ancestor.components ∈ path.ancestors.map components := by
      rw [map_components_ancestors, List.mem_filter]
      exact ⟨mem_beginnings_iff.mpr ⟨habove.isPrefix, habove.ne⟩, decide_eq_true (.inl hne)⟩
    obtain ⟨other, hother, hsame⟩ := List.mem_map.mp hmem
    refine ⟨other, hother, ?_, hsame⟩
    rintro rfl
    exact hne hsame.symm
  · rintro ⟨other, hmem, hne, hsame⟩
    obtain ⟨hbegins, hproper⟩ := components_of_mem_ancestors hmem
    rw [hsame] at hbegins hproper
    refine ⟨?_, hbegins, hproper⟩
    rintro rfl
    exact hne (components_eq_nil_iff.mp hsame)

theorem above_of_mem_ancestors (hmem : ancestor ∈ path.ancestors) (hne : ancestor ≠ empty) :
    ancestor.Above path :=
  above_iff.mpr ⟨ancestor, hmem, hne, rfl⟩

theorem Above.trans {middle : Path} (habove : ancestor.Above middle) (habove' : middle.Above path) :
    ancestor.Above path where
  ne_empty := habove.ne_empty
  isPrefix := habove.isPrefix.trans habove'.isPrefix
  ne := by
    intro hsame
    refine habove.ne (habove.isPrefix.eq_of_length_le ?_)
    rw [hsame]
    exact habove'.isPrefix.length_le

theorem Above.congr {other other' : Path} (habove : ancestor.Above path)
    (hsame : ancestor.components = other.components)
    (hsame' : path.components = other'.components) : other.Above other' where
  ne_empty := by
    rintro rfl
    exact habove.ne_empty (components_eq_nil_iff.mp hsame)
  isPrefix := hsame ▸ hsame' ▸ habove.isPrefix
  ne := hsame ▸ hsame' ▸ habove.ne

/-- What is above a path is its parent, or above that. -/
theorem Above.exists_parent? (habove : ancestor.Above path) :
    ∃ parent, path.parent? = some parent ∧ parent ≠ empty ∧
      (ancestor.components = parent.components ∨ ancestor.Above parent) := by
  cases hparent : path.parent? with
  | none =>
    obtain ⟨other, hmem, -⟩ := above_iff.mp habove
    rw [List.head?_eq_none_iff.mp hparent] at hmem
    cases hmem
  | some parent =>
    obtain ⟨step, hpath⟩ := components_parent? hparent
    have hbegins := habove.isPrefix
    rw [hpath, List.prefix_concat_iff] at hbegins
    have hbeginning : ancestor.components <+: parent.components := by
      rcases hbegins with hsame | hbeginning
      · rw [← hpath] at hsame
        exact absurd hsame habove.ne
      · exact hbeginning
    refine ⟨parent, rfl, ?_, ?_⟩
    · rintro rfl
      exact habove.ne_empty (components_eq_nil_iff.mp (List.prefix_nil.mp hbeginning))
    · by_cases hsame : ancestor.components = parent.components
      · exact .inl hsame
      · exact .inr ⟨habove.ne_empty, hbeginning, hsame⟩

end Scaffolding.Path
