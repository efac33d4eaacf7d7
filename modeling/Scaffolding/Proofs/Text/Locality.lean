import Mathlib.Data.List.Find
import Mathlib.Data.List.TakeWhile
import Scaffolding.Text.Substitution

/-!
# Substitution goes on run by run

A character that no word of the rules has stands between words, so what is in
front of it and what is behind it are substituted apart.

* `substitute_append_cons` is that law, and `separated_induction` goes through
  a text from one such character to the next.
* `filter_substitute` and `splitOnP_substitute` say what follows for a whole
  text, if no replacement has such a character either: the characters stay, in
  their order, and so do the runs between them.
-/

namespace Scaffolding.Text

variable {rules : List Rule} {word before after run text : List Char} {c : Char}
  {isSeparator : Char → Bool}

/-! ## On both sides of a character -/

/-- A word without a character begins in front of it and behind it as it does without the rest. -/
theorem isPrefix_append_cons_iff (hfree : c ∉ word) :
    word <+: before ++ c :: after ↔ word <+: before := by
  constructor
  · intro hstarts
    rcases List.prefix_or_prefix_of_prefix hstarts (List.prefix_append before _) with
      hin | ⟨beyond, rfl⟩
    · exact hin
    · rcases List.prefix_cons_iff.mp ((List.prefix_append_right_inj before).mp hstarts) with
        rfl | ⟨tail, rfl, -⟩
      · simp only [List.append_nil, List.prefix_refl]
      · exact absurd (List.mem_append_right before List.mem_cons_self) hfree
  · exact fun hstarts => hstarts.trans (List.prefix_append before _)

theorem Rule.firing?_append_cons (hfree : ∀ rule ∈ rules, c ∉ rule.word) :
    firing? rules (before ++ c :: after) = firing? rules before := by
  apply List.find?_congr
  intro rule hmem
  rw [Bool.eq_iff_iff, List.isPrefixOf_iff_prefix, List.isPrefixOf_iff_prefix,
    isPrefix_append_cons_iff (hfree rule hmem)]

section Words

variable (hwords : ∀ rule ∈ rules, rule.word ≠ [])

include hwords

/-- A character that no word has is copied, and the texts on both sides are substituted apart. -/
theorem substitute_append_cons (hfree : ∀ rule ∈ rules, c ∉ rule.word) :
    substitute rules (before ++ c :: after) =
      substitute rules before ++ c :: substitute rules after := by
  induction before using substitute_induction hwords with
  | nil =>
    have hhere : Rule.firing? rules ([] ++ c :: after) = none := by
      rw [Rule.firing?_append_cons hfree, Rule.firing?_eq_none_iff]
      exact fun rule hmem hstarts => hwords rule hmem (List.prefix_nil.mp hstarts)
    exact substitute_copy hhere
  | copy d rest hnone ih =>
    have hhere : Rule.firing? rules (d :: (rest ++ c :: after)) = none := by
      rw [← List.cons_append, Rule.firing?_append_cons hfree, hnone]
    rw [List.cons_append, substitute_copy hhere, ih, substitute_copy hnone, List.cons_append]
  | fire rule rest hfire ih =>
    have hword := hwords rule (Rule.mem_of_firing? hfire)
    have hhere : Rule.firing? rules (rule.word ++ (rest ++ c :: after)) = some rule := by
      rw [← List.append_assoc, Rule.firing?_append_cons hfree, hfire]
    rw [List.append_assoc, substitute_fire hword hhere, ih, substitute_fire hword hfire,
      List.append_assoc]

/-- A character of the result is one of the text or one of a replacement. -/
theorem mem_or_mem_of_mem_substitute (hmem : c ∈ substitute rules text) :
    c ∈ text ∨ ∃ rule ∈ rules, c ∈ rule.replacement := by
  induction text using substitute_induction hwords with
  | nil => cases hmem
  | copy d rest hnone ih =>
    rw [substitute_copy hnone] at hmem
    rcases List.mem_cons.mp hmem with rfl | hrest
    · exact .inl List.mem_cons_self
    · exact (ih hrest).imp_left (List.mem_cons_of_mem d)
  | fire rule rest hfire ih =>
    have hrule := Rule.mem_of_firing? hfire
    rw [substitute_fire (hwords rule hrule) hfire] at hmem
    rcases List.mem_append.mp hmem with hput | hrest
    · exact .inr ⟨rule, hrule, hput⟩
    · exact (ih hrest).imp_left (List.mem_append_right rule.word)

/-- Where every replacement has a character, nothing but the empty text becomes empty. -/
theorem substitute_eq_nil_iff (hreplacements : ∀ rule ∈ rules, rule.replacement ≠ []) :
    substitute rules text = [] ↔ text = [] := by
  induction text using substitute_induction hwords with
  | nil => exact iff_of_true rfl rfl
  | copy d rest hnone ih => simp [substitute_copy hnone]
  | fire rule rest hfire ih =>
    have hrule := Rule.mem_of_firing? hfire
    simp [substitute_fire (hwords rule hrule) hfire, hwords rule hrule, hreplacements rule hrule]

end Words

/-! ## From one separator to the next -/

/-- A fact on texts holds of all if it holds of those without a separator, and goes over from what is
behind the first separator. -/
theorem separated_induction (isSeparator : Char → Bool) {motive : List Char → Prop}
    (run : ∀ run, (∀ c ∈ run, isSeparator c = false) → motive run)
    (next : ∀ run c rest, (∀ d ∈ run, isSeparator d = false) → isSeparator c = true →
      motive rest → motive (run ++ c :: rest)) (text : List Char) : motive text := by
  induction hlength : text.length using Nat.strongRecOn generalizing text with
  | ind length ih =>
    have hrun : ∀ c ∈ text.takeWhile (!isSeparator ·), isSeparator c = false := by
      intro c hmem
      simpa using List.mem_takeWhile_imp hmem
    have hsplit := List.takeWhile_append_dropWhile (p := (!isSeparator ·)) (l := text)
    cases hrest : text.dropWhile (!isSeparator ·) with
    | nil =>
      rw [hrest, List.append_nil] at hsplit
      exact hsplit ▸ run _ hrun
    | cons c rest =>
      rw [hrest] at hsplit
      have hseparator : isSeparator c = true := by
        have hhead := List.head?_dropWhile_not (!isSeparator ·) text
        simpa [hrest] using hhead
      have hshorter : rest.length < length := by
        rw [← hlength, ← hsplit, List.length_append, List.length_cons]
        omega
      exact hsplit ▸ next _ c rest hrun hseparator (ih _ hshorter rest rfl)

/-- That the rules have no separator, neither in what they look for nor in what they put. -/
structure Rule.Lack (rules : List Rule) (isSeparator : Char → Bool) : Prop where
  word : ∀ rule ∈ rules, ∀ c ∈ rule.word, isSeparator c = false
  replacement : ∀ rule ∈ rules, ∀ c ∈ rule.replacement, isSeparator c = false

section Separators

variable (hwords : ∀ rule ∈ rules, rule.word ≠ []) (hlack : Rule.Lack rules isSeparator)

include hwords hlack

theorem Rule.Lack.substitute_next (hseparator : isSeparator c = true) :
    substitute rules (before ++ c :: after) =
      substitute rules before ++ c :: substitute rules after := by
  apply substitute_append_cons hwords
  intro rule hmem hin
  rw [hlack.word rule hmem c hin] at hseparator
  cases hseparator

theorem Rule.Lack.of_mem_substitute (hrun : ∀ c ∈ run, isSeparator c = false)
    (hmem : c ∈ substitute rules run) : isSeparator c = false := by
  rcases mem_or_mem_of_mem_substitute hwords hmem with hin | ⟨rule, hrule, hput⟩
  · exact hrun c hin
  · exact hlack.replacement rule hrule c hput

/-- The separators of a text stay, in their order, and no other comes in. -/
theorem filter_substitute :
    (substitute rules text).filter isSeparator = text.filter isSeparator := by
  have hnone : ∀ run : List Char, (∀ c ∈ run, isSeparator c = false) →
      run.filter isSeparator = [] := by
    intro run hrun
    rw [List.filter_eq_nil_iff]
    exact fun c hmem => by rw [hrun c hmem]; exact Bool.false_ne_true
  have hput : ∀ run : List Char, (∀ c ∈ run, isSeparator c = false) →
      (substitute rules run).filter isSeparator = [] :=
    fun run hrun => hnone _ fun _ => hlack.of_mem_substitute hwords hrun
  induction text using separated_induction isSeparator with
  | run run hrun => rw [hput run hrun, hnone run hrun]
  | next run c rest hrun hseparator ih =>
    rw [hlack.substitute_next hwords hseparator, List.filter_append, List.filter_append,
      List.filter_cons_of_pos hseparator, List.filter_cons_of_pos hseparator, hput run hrun,
      hnone run hrun, ih]

/-- The runs between separators are substituted one by one. -/
theorem splitOnP_substitute :
    (substitute rules text).splitOnP isSeparator =
      (text.splitOnP isSeparator).map (substitute rules) := by
  induction text using separated_induction isSeparator with
  | run run hrun =>
    rw [List.splitOnP_eq_singleton hrun, List.splitOnP_eq_singleton]
    · rfl
    · exact fun _ => hlack.of_mem_substitute hwords hrun
  | next run c rest hrun hseparator ih =>
    rw [hlack.substitute_next hwords hseparator, List.splitOnP_append_cons _ _ hseparator,
      List.splitOnP_append_cons _ _ hseparator, List.map_append, ih, List.splitOnP_eq_singleton hrun,
      List.splitOnP_eq_singleton]
    · rfl
    · exact fun _ => hlack.of_mem_substitute hwords hrun

end Separators

end Scaffolding.Text
