import Mathlib
import Scaffolding.Proofs.Text.Substitution
import Scaffolding.Provider.Template

/-!
# What instantiation makes of a template

The name of a provider is put into a template first, and the include guard is
put into the result.  The two placeholders are apart, so the second pass can
replace too much only where a name overlaps the placeholder for the guard.

* `not_overlap_guard_namePlaceholder`: an include guard has no lower-case
  letter and ends in `H`, so it never makes up the placeholder for the name.
* `instantiate_eq_instantiateAtOnce_iff` says for which providers the two
  passes do what one does.
* `placeholders_replaced_iff` says for which providers no placeholder is left
  over in any template.
-/

namespace Scaffolding.Provider

open Text

variable (provider : Provider)

/-! ## The placeholders and what is put for them -/

theorem marked_nameRule : Marked 'N' provider.nameRule.word := by
  rw [nameRule_word]
  exact ⟨"ewProvider".toList, by decide, by decide⟩

theorem marked_guardRule : Marked 'N' provider.guardRule.word := by
  rw [guardRule_word]
  exact ⟨"EWPROVIDER_H".toList, by decide, by decide⟩

theorem not_overlap_rules : ¬ Overlap provider.guardRule.word provider.nameRule.word := by
  rw [guardRule_word, nameRule_word]
  decide

theorem nameRule_replacement_ne_nil : provider.nameRule.replacement ≠ [] := by
  simpa using provider.name_ne_empty

theorem toList_guard :
    provider.guard.toList = provider.name.toList.map Char.toUpper ++ ['_', 'H'] := by
  unfold guard
  rw [String.toList_append, String.toList_ofList]
  rfl

theorem guardRule_replacement_ne_nil : provider.guardRule.replacement ≠ [] := by
  rw [guardRule_replacement, toList_guard]
  exact List.append_ne_nil_of_right_ne_nil _ (List.cons_ne_nil _ _)

/-- An include guard has no lower-case letter. -/
theorem isLower_of_mem_guard {c : Char} (hmem : c ∈ provider.guard.toList) : c.isLower = false := by
  rw [toList_guard, List.mem_append] at hmem
  rcases hmem with hmem | hmem
  · obtain ⟨c, -, rfl⟩ := List.mem_map.mp hmem
    exact Char.isLower_toUpper_eq_false c
  · have hending : ∀ c ∈ ['_', 'H'], c.isLower = false := by simp
    exact hending c hmem

/-- An include guard takes no part in a placeholder for the name. -/
theorem not_overlap_guard_namePlaceholder :
    ¬ Overlap provider.guardRule.replacement provider.nameRule.word := by
  rw [guardRule_replacement, nameRule_word]
  intro hoverlap
  have hends : provider.guard.toList =
      (provider.name.toList.map Char.toUpper ++ ['_']) ++ ['H'] := by
    rw [toList_guard, List.append_assoc]
    rfl
  have hplaceholder : namePlaceholder.toList = "NewProvide".toList ++ ['r'] := rfl
  rw [hends, hplaceholder] at hoverlap
  rcases hoverlap.last_mem with hlast | hlast
  · exact absurd hlast (by decide)
  · rw [← hends] at hlast
    exact absurd (provider.isLower_of_mem_guard hlast) (by decide)

/-- The include guard is its own placeholder when the name is `NEWPROVIDER`, in whatever letters. -/
theorem guard_eq_guardPlaceholder_iff :
    provider.guard.toList = guardPlaceholder.toList ↔
      provider.name.toList.map Char.toUpper = "NEWPROVIDER".toList := by
  have hplaceholder : guardPlaceholder.toList = "NEWPROVIDER".toList ++ ['_', 'H'] := by decide
  rw [toList_guard, hplaceholder, List.append_left_inj]

/-! ## One pass after the other -/

theorem toList_instantiate (text : String) :
    (instantiate text provider).toList =
      substitute [provider.guardRule] (substitute [provider.nameRule] text.toList) :=
  String.toList_ofList

theorem toList_instantiateAtOnce (text : String) :
    (instantiateAtOnce text provider).toList =
      substitute [provider.nameRule, provider.guardRule] text.toList :=
  String.toList_ofList

/-- For a name that overlaps the placeholder for the guard there is a template without that
placeholder in which the second pass finds it all the same.  The pass goes unnoticed only where the
guard is the placeholder. -/
theorem exists_instantiate_ne
    (hoverlap : Overlap provider.nameRule.replacement provider.guardRule.word)
    (hother : provider.guardRule.replacement ≠ provider.guardRule.word) :
    ∃ text, ¬ provider.guardRule.word <:+: text.toList ∧
      instantiate text provider ≠ instantiateAtOnce text provider := by
  obtain ⟨text, hfree, hne⟩ := exists_substitute_substitute_ne provider.marked_nameRule
    provider.marked_guardRule provider.not_overlap_rules hoverlap hother
  refine ⟨String.ofList text, by rwa [String.toList_ofList], ?_⟩
  intro hsame
  apply hne
  rwa [← String.toList_inj, toList_instantiate, toList_instantiateAtOnce, String.toList_ofList]
    at hsame

example :
    let provider : Provider := ⟨"N", by decide, by simp [isNameCharacter]⟩
    instantiate "NewProviderEWPROVIDER_H" provider = "N_H" ∧
      instantiateAtOnce "NewProviderEWPROVIDER_H" provider = "NEWPROVIDER_H" := by
  decide +kernel

/-- The two passes do on every template what a single one does exactly if the name does not overlap
the placeholder for the guard, or the guard is that placeholder. -/
theorem instantiate_eq_instantiateAtOnce_iff :
    ((∀ text, instantiate text provider = instantiateAtOnce text provider) ↔
      ¬ Overlap provider.name.toList guardPlaceholder.toList ∨
        provider.name.toList.map Char.toUpper = "NEWPROVIDER".toList) ∧
    (Overlap provider.name.toList guardPlaceholder.toList →
      provider.name.toList.map Char.toUpper ≠ "NEWPROVIDER".toList →
        ∃ text, ¬ guardPlaceholder.toList <:+: text.toList ∧
          instantiate text provider ≠ instantiateAtOnce text provider) := by
  rw [ne_eq, ← guard_eq_guardPlaceholder_iff, ← guardRule_word provider, ← nameRule_replacement,
    ← guardRule_replacement]
  have hname := provider.marked_nameRule.ne_nil
  have hguard := provider.marked_guardRule.ne_nil
  have hapart := provider.not_overlap_rules
  refine ⟨⟨?_, ?_⟩, provider.exists_instantiate_ne⟩
  · intro hall
    by_contra hnot
    obtain ⟨hoverlap, hother⟩ := not_or.mp hnot
    obtain ⟨text, -, hne⟩ := provider.exists_instantiate_ne (not_not.mp hoverlap) hother
    exact hne (hall text)
  · intro hcondition text
    rw [← String.toList_inj, toList_instantiate, toList_instantiateAtOnce]
    rcases hcondition with hfree | hsame
    · exact substitute_substitute hname hapart hguard provider.nameRule_replacement_ne_nil hfree
        text.toList
    · rw [substitute_of_same (by simpa using hguard) (by simpa using hsame),
        substitute_pair_of_same hname hapart hguard hsame]

/-! ## What is left over -/

/-- A template without placeholders is its own instance. -/
theorem instantiate_of_free {text : String}
    (hname : ¬ provider.nameRule.word <:+: text.toList)
    (hguard : ¬ provider.guardRule.word <:+: text.toList) : instantiate text provider = text := by
  have hfirst : substitute [provider.nameRule] text.toList = text.toList :=
    substitute_of_free (by simpa using hname)
  have hsecond : substitute [provider.guardRule] text.toList = text.toList :=
    substitute_of_free (by simpa using hguard)
  rw [instantiate, hfirst, hsecond, String.ofList_toList]

/-- What a name makes up of the placeholder for the guard is replaced with the rest, so a name may
overlap that one. -/
theorem not_infix_instantiate
    (hname : ¬ Overlap provider.nameRule.replacement provider.nameRule.word)
    (hguard : ¬ Overlap provider.guardRule.replacement provider.guardRule.word) (text : String) :
    ¬ provider.nameRule.word <:+: (instantiate text provider).toList ∧
      ¬ provider.guardRule.word <:+: (instantiate text provider).toList := by
  rw [toList_instantiate]
  exact not_infix_substitute_substitute provider.marked_nameRule.ne_nil
    provider.marked_guardRule.ne_nil ⟨provider.nameRule_replacement_ne_nil, hname⟩
    ⟨provider.guardRule_replacement_ne_nil, provider.not_overlap_guard_namePlaceholder⟩ hguard
    text.toList

/-- No template leaves a placeholder exactly if the name does not overlap its placeholder and the
guard does not overlap its own.  Then a second instantiation changes nothing. -/
theorem placeholders_replaced_iff :
    ((∀ text, ¬ namePlaceholder.toList <:+: (instantiate text provider).toList ∧
        ¬ guardPlaceholder.toList <:+: (instantiate text provider).toList) ↔
      ¬ Overlap provider.name.toList namePlaceholder.toList ∧
        ¬ Overlap provider.guard.toList guardPlaceholder.toList) ∧
    (¬ Overlap provider.name.toList namePlaceholder.toList →
      ¬ Overlap provider.guard.toList guardPlaceholder.toList →
        ∀ text, instantiate (instantiate text provider) provider = instantiate text provider) := by
  rw [← guardRule_word provider, ← nameRule_word provider, ← nameRule_replacement,
    ← guardRule_replacement]
  have hname := provider.marked_nameRule
  have hguard := provider.marked_guardRule
  have hapart := provider.not_overlap_rules
  refine ⟨⟨?_, fun hboth => provider.not_infix_instantiate hboth.1 hboth.2⟩, ?_⟩
  · intro hall
    constructor
    · intro hoverlap
      obtain ⟨text, hwithin⟩ := exists_first_left hname hguard hapart hoverlap
      apply (hall (String.ofList text)).1
      rwa [toList_instantiate, String.toList_ofList]
    · intro hoverlap
      obtain ⟨text, hwithin⟩ := exists_second_left hname hguard hapart hoverlap
      apply (hall (String.ofList text)).2
      rwa [toList_instantiate, String.toList_ofList]
  · intro hfirst hsecond text
    obtain ⟨hfree, hfree'⟩ := provider.not_infix_instantiate hfirst hsecond text
    exact provider.instantiate_of_free hfree hfree'

end Scaffolding.Provider
