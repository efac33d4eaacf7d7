import Scaffolding.Proofs.Provider.Instantiation
import Scaffolding.Proofs.Text.Locality
import Scaffolding.Text.Runs

/-!
# Instantiation goes on run by run

The placeholders, the names and the include guards consist of the characters
that a name may have.  So an instantiation keeps all other characters, and
what stands between two of them is instantiated on its own.  That holds of
both passes, and needs no condition on the name.

* `lack_rules`: neither pass knows another character.
* `instantiate_runs` is the result.
-/

namespace Scaffolding

open Text

theorem isNameCharacter_toUpper {c : Char} (hname : isNameCharacter c = true) :
    isNameCharacter c.toUpper = true := by
  cases hlower : c.isLower with
  | false => rwa [Char.toUpper_eq_of_not_isLower (by simp [hlower])]
  | true =>
    have halpha : c.toUpper.isAlpha = true := by
      rw [Char.isAlpha_toUpper_eq_isAlpha, Char.isAlpha, hlower, Bool.or_true]
    simp [isNameCharacter, Char.isAlphanum, halpha]

namespace Provider

variable (provider : Provider) {isSeparator : Char → Bool}

/-! ## The characters of the rules -/

theorem isNameCharacter_of_mem_guard {c : Char} (hmem : c ∈ provider.guard.toList) :
    isNameCharacter c = true := by
  rw [toList_guard, List.mem_append] at hmem
  rcases hmem with hmem | hmem
  · obtain ⟨c, hname, rfl⟩ := List.mem_map.mp hmem
    exact isNameCharacter_toUpper (provider.isNameCharacter_of_mem c hname)
  · have hending : ∀ c ∈ ['_', 'H'], isNameCharacter c = true := by simp [isNameCharacter]
    exact hending c hmem

theorem isNameCharacter_of_mem_placeholder {c : Char}
    (hmem : c ∈ namePlaceholder.toList ∨ c ∈ guardPlaceholder.toList) :
    isNameCharacter c = true := by
  have hname : ∀ c ∈ namePlaceholder.toList, isNameCharacter c = true := by
    simp [namePlaceholder, isNameCharacter]
  have hguard : ∀ c ∈ guardPlaceholder.toList, isNameCharacter c = true := by
    simp [guardPlaceholder, isNameCharacter]
  exact hmem.elim (hname c) (hguard c)

/-- Neither rule has a character that no name may have. -/
theorem lack_rules (hseparator : ∀ c, isSeparator c = true → isNameCharacter c = false)
    {rule : Rule} (hrule : rule = provider.nameRule ∨ rule = provider.guardRule) :
    Rule.Lack [rule] isSeparator := by
  have hkept : ∀ c, isNameCharacter c = true → isSeparator c = false := by
    intro c hname
    by_contra hnot
    rw [hseparator c (Bool.eq_true_of_not_eq_false hnot)] at hname
    cases hname
  constructor
  · rw [List.forall_mem_singleton]
    intro c hmem
    apply hkept
    apply isNameCharacter_of_mem_placeholder
    rcases hrule with rfl | rfl
    · exact .inl hmem
    · exact .inr hmem
  · rw [List.forall_mem_singleton]
    intro c hmem
    apply hkept
    rcases hrule with rfl | rfl
    · exact provider.isNameCharacter_of_mem c hmem
    · rw [guardRule_replacement] at hmem
      exact provider.isNameCharacter_of_mem_guard hmem

theorem word_ne_nil {rule : Rule} (hrule : rule = provider.nameRule ∨ rule = provider.guardRule) :
    ∀ other ∈ [rule], other.word ≠ [] := by
  rw [List.forall_mem_singleton]
  rcases hrule with rfl | rfl
  · exact provider.marked_nameRule.ne_nil
  · exact provider.marked_guardRule.ne_nil

/-! ## Both passes -/

/-- A character that no name may have is copied, and the texts on both sides are instantiated
apart. -/
theorem instantiate_append_singleton_append {c : Char} (hother : isNameCharacter c = false)
    (before after : String) :
    instantiate (before ++ String.singleton c ++ after) provider =
      instantiate before provider ++ String.singleton c ++ instantiate after provider := by
  have hlack : ∀ {rule : Rule}, rule = provider.nameRule ∨ rule = provider.guardRule →
      Rule.Lack [rule] (! isNameCharacter ·) :=
    provider.lack_rules fun c hc => by simpa using hc
  have hseparator : (! isNameCharacter c) = true := by rw [hother]; rfl
  rw [← String.toList_inj, toList_instantiate]
  simp only [String.toList_append, String.toList_singleton, List.append_assoc,
    List.singleton_append, toList_instantiate]
  rw [(hlack (.inl rfl)).substitute_next (provider.word_ne_nil (.inl rfl)) hseparator,
    (hlack (.inr rfl)).substitute_next (provider.word_ne_nil (.inr rfl)) hseparator]

/-- Nothing but the empty template is instantiated to nothing. -/
theorem instantiate_eq_empty_iff {text : String} : instantiate text provider = "" ↔ text = "" := by
  rw [← String.toList_inj, toList_instantiate, String.toList_empty,
    substitute_eq_nil_iff (provider.word_ne_nil (.inr rfl))
      (by simpa using provider.guardRule_replacement_ne_nil),
    substitute_eq_nil_iff (provider.word_ne_nil (.inl rfl))
      (by simpa using provider.nameRule_replacement_ne_nil), ← String.toList_inj,
    String.toList_empty]

section Separators

variable (hseparator : ∀ c, isSeparator c = true → isNameCharacter c = false)

include hseparator

theorem filter_instantiate (text : String) :
    (instantiate text provider).toList.filter isSeparator = text.toList.filter isSeparator := by
  rw [toList_instantiate,
    filter_substitute (provider.word_ne_nil (.inr rfl)) (provider.lack_rules hseparator (.inr rfl)),
    filter_substitute (provider.word_ne_nil (.inl rfl)) (provider.lack_rules hseparator (.inl rfl))]

theorem runs_instantiate (text : String) :
    runs isSeparator (instantiate text provider) =
      (runs isSeparator text).map (instantiate · provider) := by
  unfold runs
  rw [toList_instantiate,
    splitOnP_substitute (provider.word_ne_nil (.inr rfl))
      (provider.lack_rules hseparator (.inr rfl)),
    splitOnP_substitute (provider.word_ne_nil (.inl rfl))
      (provider.lack_rules hseparator (.inl rfl)), List.map_map, List.map_map, List.map_map]
  apply List.map_congr_left
  intro run _
  simp only [Function.comp_apply]
  rw [← String.toList_inj, String.toList_ofList, toList_instantiate, String.toList_ofList]

end Separators

/-- A run that is all that stands between two other characters is kept if it has no placeholder. -/
theorem instantiate_run {before run after : String}
    (hbefore : ∀ c, before.toList.getLast? = some c → isNameCharacter c = false)
    (hafter : ∀ c, after.toList.head? = some c → isNameCharacter c = false)
    (hname : ¬ namePlaceholder.toList <:+: run.toList)
    (hguard : ¬ guardPlaceholder.toList <:+: run.toList) :
    instantiate (before ++ run ++ after) provider =
      instantiate before provider ++ run ++ instantiate after provider := by
  have hnothing : instantiate "" provider = "" := provider.instantiate_eq_empty_iff.mpr rfl
  have hrun : instantiate run provider = run := provider.instantiate_of_free hname hguard
  have hbehind : instantiate (run ++ after) provider = run ++ instantiate after provider := by
    rcases eq_empty_or_singleton_append after with rfl | ⟨c, rest, rfl⟩
    · rw [String.append_empty, hnothing, String.append_empty, hrun]
    · have hother : isNameCharacter c = false := hafter c (by simp)
      have hrest := provider.instantiate_append_singleton_append hother "" rest
      rw [String.empty_append, hnothing, String.empty_append] at hrest
      rw [← String.append_assoc, provider.instantiate_append_singleton_append hother, hrun, hrest,
        String.append_assoc]
  rcases eq_empty_or_append_singleton before with rfl | ⟨rest, c, rfl⟩
  · rw [String.empty_append, hnothing, String.empty_append, hbehind]
  · have hother : isNameCharacter c = false := hbefore c (by simp)
    have hrest := provider.instantiate_append_singleton_append hother rest ""
    rw [String.append_empty, hnothing, String.append_empty] at hrest
    rw [String.append_assoc, provider.instantiate_append_singleton_append hother, hbehind, hrest,
      ← String.append_assoc]

/-- An instantiation goes on run by run, whatever the name.  A character that no name may have is
kept, and the texts on both sides of it are instantiated apart.  So these characters stay in their
order, each between the instances of the runs that it stands between.  A template has as many lines
as its instance, and each is instantiated on its own.  A run without placeholders is kept. -/
theorem instantiate_runs :
    (∀ before after c, isNameCharacter c = false →
      instantiate (before ++ String.singleton c ++ after) provider =
        instantiate before provider ++ String.singleton c ++ instantiate after provider) ∧
    (∀ isSeparator : Char → Bool, (∀ c, isSeparator c = true → isNameCharacter c = false) →
      ∀ text, (instantiate text provider).toList.filter isSeparator =
          text.toList.filter isSeparator ∧
        runs isSeparator (instantiate text provider) =
          (runs isSeparator text).map (instantiate · provider)) ∧
    (∀ text, lines (instantiate text provider) = (lines text).map (instantiate · provider) ∧
      (lines (instantiate text provider)).length = (lines text).length ∧
      (instantiate text provider = "" ↔ text = "")) ∧
    ∀ before run after : String,
      (∀ c, before.toList.getLast? = some c → isNameCharacter c = false) →
      (∀ c, after.toList.head? = some c → isNameCharacter c = false) →
      ¬ namePlaceholder.toList <:+: run.toList → ¬ guardPlaceholder.toList <:+: run.toList →
        instantiate (before ++ run ++ after) provider =
          instantiate before provider ++ run ++ instantiate after provider := by
  have hlineEnd : ∀ c, (c == '\n') = true → isNameCharacter c = false := by
    intro c hsame
    rw [beq_iff_eq.mp hsame]
    decide
  have hlines : ∀ text,
      lines (instantiate text provider) = (lines text).map (instantiate · provider) :=
    provider.runs_instantiate hlineEnd
  refine ⟨?_, ?_, ?_, ?_⟩
  · intro before after c hother
    exact provider.instantiate_append_singleton_append hother before after
  · intro isSeparator hseparator text
    exact ⟨provider.filter_instantiate hseparator text, provider.runs_instantiate hseparator text⟩
  · intro text
    refine ⟨hlines text, ?_, provider.instantiate_eq_empty_iff⟩
    rw [hlines, List.length_map]
  · intro before run after hbefore hafter hname hguard
    exact provider.instantiate_run hbefore hafter hname hguard

end Provider

end Scaffolding
