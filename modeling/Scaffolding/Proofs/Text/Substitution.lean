import Scaffolding.Proofs.Text.Overlap
import Scaffolding.Text.Substitution

/-!
# What a substitution finds and what it leaves

A replacement can make up a word together with the text around it, and then
the word is in the result although every place with the word was replaced.
It takes a replacement that overlaps the word.

* `exists_place_of_infix_substitute` says where the words of a result come
  from when nothing overlaps.  `not_infix_substitute` and
  `substitute_substitute` follow from it: no word is left over, and two
  passes do what one does.
* `exists_infix_substitute` and `exists_substitute_substitute_ne` are for the
  other side: where something does overlap, a text shows it.  The text is a
  word with what makes up another around it; `substitute_between` gives its
  result, as no word that begins with a mark begins around it.
-/

namespace Scaffolding.Text

variable {rules : List Rule} {rule first second : Rule} {word before after rest text : List Char}

/-! ## Where no rule fires -/

/-- A stretch in which no rule fires is copied. -/
theorem substitute_append_of_free
    (hfree : ∀ s, s <:+ before → s ≠ [] → ∀ rule ∈ rules, ¬ rule.word <+: s ++ rest) :
    substitute rules (before ++ rest) = before ++ substitute rules rest := by
  induction before with
  | nil => rfl
  | cons c before ih =>
    have hhere : Rule.firing? rules (c :: (before ++ rest)) = none :=
      Rule.firing?_eq_none_iff.mpr (hfree _ List.suffix_rfl (List.cons_ne_nil c before))
    rw [List.cons_append, substitute_copy hhere, List.cons_append, ih]
    intro s hsuffix
    exact hfree s (hsuffix.trans (List.suffix_cons c before))

theorem substitute_of_free (hfree : ∀ rule ∈ rules, ¬ rule.word <:+: text) :
    substitute rules text = text := by
  have hcopied : substitute rules (text ++ []) = text ++ substitute rules [] := by
    apply substitute_append_of_free
    intro s hsuffix _ rule hmem hstarts
    rw [List.append_nil] at hstarts
    exact hfree rule hmem (hstarts.isInfix.trans hsuffix.isInfix)
  simpa using hcopied

/-- Rules that put back what they find change nothing. -/
theorem substitute_of_same (hwords : ∀ rule ∈ rules, rule.word ≠ [])
    (hsame : ∀ rule ∈ rules, rule.replacement = rule.word) : substitute rules text = text := by
  induction text using substitute_induction hwords with
  | nil => rfl
  | copy c rest hfree ih => rw [substitute_copy hfree, ih]
  | fire rule rest hfire ih =>
    have hmem := Rule.mem_of_firing? hfire
    rw [substitute_fire (hwords rule hmem) hfire, hsame rule hmem, ih]

section Words

variable (hwords : ∀ rule ∈ rules, rule.word ≠ [])

include hwords

theorem substitute_append_of_apart (hapart : ∀ rule ∈ rules, ¬ Overlap before rule.word) :
    substitute rules (before ++ rest) = before ++ substitute rules rest := by
  apply substitute_append_of_free
  intro s hsuffix hs rule hmem
  exact not_prefix_of_suffix (hapart rule hmem) (hwords rule hmem) hsuffix hs

/-- A word that overlaps no word of the rules outlasts a substitution. -/
theorem infix_substitute_of_apart (hword : word ≠ [])
    (hapart : ∀ rule ∈ rules, ¬ Overlap word rule.word) (hwithin : word <:+: text) :
    word <:+: substitute rules text := by
  induction text using substitute_induction hwords with
  | nil => exact hwithin
  | copy c rest hfree ih =>
    rcases List.infix_cons_iff.mp hwithin with ⟨after, hafter⟩ | hwithin
    · rw [← hafter, substitute_append_of_apart hwords hapart]
      exact (List.prefix_append word _).isInfix
    · rw [substitute_copy hfree]
      exact List.infix_cons (ih hwithin)
  | fire rule rest hfire ih =>
    have hmem := Rule.mem_of_firing? hfire
    have hbehind : word <:+: rest :=
      infix_of_infix_append (fun hoverlap => hapart rule hmem hoverlap.symm) hword hwithin
    rw [substitute_fire (hwords rule hmem) hfire]
    exact (ih hbehind).trans (List.suffix_append _ _).isInfix

/-! ## Words of the result -/

section Apart

variable
  (hapart : ∀ rule ∈ rules, rule.replacement ≠ [] ∧ ¬ Overlap rule.replacement word)

include hapart

/-- The result begins with an end of a word only where the text does, as a replacement would overlap
the word. -/
theorem prefix_of_prefix_substitute {part : List Char} (hpart : part <:+ word)
    (hstarts : part <+: substitute rules text) : part <+: text := by
  induction text using substitute_induction hwords generalizing part with
  | nil => exact hstarts
  | copy c rest hfree ih =>
    rw [substitute_copy hfree] at hstarts
    rcases List.prefix_cons_iff.mp hstarts with rfl | ⟨tail, rfl, htail⟩
    · exact List.nil_prefix
    · exact List.cons_prefix_cons.mpr ⟨rfl, ih ((List.suffix_cons c tail).trans hpart) htail⟩
  | fire rule rest hfire _ =>
    have hmem := Rule.mem_of_firing? hfire
    obtain ⟨hreplacement, hoverlap⟩ := hapart rule hmem
    rw [substitute_fire (hwords rule hmem) hfire] at hstarts
    by_cases hnil : part = []
    · rw [hnil]
      exact List.nil_prefix
    · exact absurd hstarts (not_prefix_append_of_suffix hoverlap hreplacement hpart hnil)

/-- A word of the result was in the text, at a place where no rule fired. -/
theorem exists_place_of_infix_substitute (hword : word ≠ [])
    (hwithin : word <:+: substitute rules text) :
    ∃ place, place <:+ text ∧ word <+: place ∧ Rule.firing? rules place = none := by
  induction text using substitute_induction hwords with
  | nil => exact absurd (List.eq_nil_of_infix_nil hwithin) hword
  | copy c rest hfree ih =>
    rw [substitute_copy hfree] at hwithin
    rcases List.infix_cons_iff.mp hwithin with hstarts | hwithin
    · rw [← substitute_copy hfree] at hstarts
      exact ⟨_, List.suffix_rfl,
        prefix_of_prefix_substitute hwords hapart List.suffix_rfl hstarts, hfree⟩
    · obtain ⟨place, hsuffix, hplace⟩ := ih hwithin
      exact ⟨place, hsuffix.trans (List.suffix_cons c rest), hplace⟩
  | fire rule rest hfire ih =>
    have hmem := Rule.mem_of_firing? hfire
    rw [substitute_fire (hwords rule hmem) hfire] at hwithin
    obtain ⟨place, hsuffix, hplace⟩ := ih (infix_of_infix_append (hapart rule hmem).2 hword hwithin)
    exact ⟨place, hsuffix.trans (List.suffix_append _ _), hplace⟩

theorem infix_of_infix_substitute (hword : word ≠ []) (hwithin : word <:+: substitute rules text) :
    word <:+: text := by
  obtain ⟨place, hsuffix, hstarts, -⟩ :=
    exists_place_of_infix_substitute hwords hapart hword hwithin
  exact hstarts.isInfix.trans hsuffix.isInfix

end Apart

/-- No word of the rules is left over, unless a replacement overlaps it. -/
theorem not_infix_substitute (hmem : rule ∈ rules)
    (hapart : ∀ other ∈ rules, other.replacement ≠ [] ∧ ¬ Overlap other.replacement rule.word) :
    ¬ rule.word <:+: substitute rules text := by
  intro hwithin
  obtain ⟨place, -, hstarts, hfree⟩ :=
    exists_place_of_infix_substitute hwords hapart (hwords rule hmem) hwithin
  exact Rule.firing?_eq_none_iff.mp hfree rule hmem hstarts

end Words

/-! ## Two rules in two passes and in one -/

section Passes

variable (hfirst : first.word ≠ []) (hwords : ¬ Overlap second.word first.word)

include hfirst hwords

theorem substitute_first_append_second :
    substitute [first] (second.word ++ rest) = second.word ++ substitute [first] rest := by
  apply substitute_append_of_apart
  · simpa using hfirst
  · simpa using hwords

variable (hsecond : second.word ≠ [])

include hsecond

/-- Two passes do what one does, unless the first puts something that overlaps the second word. -/
theorem substitute_substitute (hreplacement : first.replacement ≠ [])
    (hapart : ¬ Overlap first.replacement second.word) (text : List Char) :
    substitute [second] (substitute [first] text) = substitute [first, second] text := by
  have hboth : ∀ rule ∈ [first, second], rule.word ≠ [] := by simp [hfirst, hsecond]
  induction text using substitute_induction hboth with
  | nil => rfl
  | copy c rest hfree ih =>
    obtain ⟨hfree₁, hfree₂⟩ : ¬ first.word <+: c :: rest ∧ ¬ second.word <+: c :: rest := by
      simpa using Rule.firing?_eq_none_iff.mp hfree
    have hcopy : substitute [first] (c :: rest) = c :: substitute [first] rest :=
      substitute_copy (Rule.firing?_eq_none_iff.mpr (by simpa using hfree₁))
    have hlate : Rule.firing? [second] (c :: substitute [first] rest) = none := by
      rw [Rule.firing?_eq_none_iff]
      intro rule hrule hstarts
      rw [List.mem_singleton.mp hrule, ← hcopy] at hstarts
      exact hfree₂ (prefix_of_prefix_substitute (by simpa using hfirst)
        (by simpa using ⟨hreplacement, hapart⟩) List.suffix_rfl hstarts)
    rw [hcopy, substitute_copy hlate, substitute_copy hfree, ih]
  | fire rule rest hfire ih =>
    rw [substitute_fire (hboth rule (Rule.mem_of_firing? hfire)) hfire]
    rcases List.mem_pair.mp (Rule.mem_of_firing? hfire) with rfl | rfl
    · rw [substitute_fire hfirst (Rule.firing?_cons_of_isPrefix (List.prefix_append _ _)),
        substitute_append_of_apart (by simpa using hsecond) (by simpa using hapart), ih]
    · rw [substitute_first_append_second hfirst hwords,
        substitute_fire hsecond (Rule.firing?_cons_of_isPrefix (List.prefix_append _ _)), ih]

/-- A second rule that puts back what it finds is as good as none. -/
theorem substitute_pair_of_same (hsame : second.replacement = second.word) (text : List Char) :
    substitute [first, second] text = substitute [first] text := by
  have hboth : ∀ rule ∈ [first, second], rule.word ≠ [] := by simp [hfirst, hsecond]
  induction text using substitute_induction hboth with
  | nil => rfl
  | copy c rest hfree ih =>
    obtain ⟨hfree₁, -⟩ : ¬ first.word <+: c :: rest ∧ ¬ second.word <+: c :: rest := by
      simpa using Rule.firing?_eq_none_iff.mp hfree
    rw [substitute_copy hfree, substitute_copy, ih]
    exact Rule.firing?_eq_none_iff.mpr (by simpa using hfree₁)
  | fire rule rest hfire ih =>
    rw [substitute_fire (hboth rule (Rule.mem_of_firing? hfire)) hfire, ih]
    rcases List.mem_pair.mp (Rule.mem_of_firing? hfire) with rfl | rfl
    · rw [substitute_fire hfirst (Rule.firing?_cons_of_isPrefix (List.prefix_append _ _))]
    · rw [substitute_first_append_second hfirst hwords, hsame]

end Passes

/-- Two passes leave neither word over, if the first replacement does not overlap its own word and
the second overlaps neither word.  What the first pass makes up of the second word, the second pass
replaces. -/
theorem not_infix_substitute_substitute (hfirst : first.word ≠ []) (hsecond : second.word ≠ [])
    (hreplacement : first.replacement ≠ [] ∧ ¬ Overlap first.replacement first.word)
    (hreplacement' : second.replacement ≠ [] ∧ ¬ Overlap second.replacement first.word)
    (hapart : ¬ Overlap second.replacement second.word) (text : List Char) :
    ¬ first.word <:+: substitute [second] (substitute [first] text) ∧
      ¬ second.word <:+: substitute [second] (substitute [first] text) := by
  have hfree : ¬ first.word <:+: substitute [first] text :=
    not_infix_substitute (by simpa using hfirst) (List.mem_singleton_self first)
      (by simpa using hreplacement)
  constructor
  · intro hwithin
    exact hfree (infix_of_infix_substitute (by simpa using hsecond) (by simpa using hreplacement')
      hfirst hwithin)
  · exact not_infix_substitute (by simpa using hsecond) (List.mem_singleton_self second)
      (by simpa using ⟨hreplacement'.1, hapart⟩)

/-! ## Results that differ from the text -/

section Single

variable (hword : rule.word ≠ [])

include hword

/-- Each place with the word makes the result longer by the replacement and shorter by the word. -/
theorem exists_length_substitute (text : List Char) :
    ∃ count, (substitute [rule] text).length + count * rule.word.length =
        text.length + count * rule.replacement.length ∧
      (rule.word <:+: text → 0 < count) := by
  have hwords : ∀ other ∈ [rule], other.word ≠ [] := by simpa using hword
  induction text using substitute_induction hwords with
  | nil =>
    refine ⟨0, by simp, ?_⟩
    intro hwithin
    exact absurd (List.eq_nil_of_infix_nil hwithin) hword
  | copy c rest hfree ih =>
    obtain ⟨count, hlength, hcount⟩ := ih
    rw [substitute_copy hfree, List.length_cons, List.length_cons]
    refine ⟨count, by omega, ?_⟩
    intro hwithin
    rcases List.infix_cons_iff.mp hwithin with hstarts | hwithin
    · exact absurd hstarts (Rule.firing?_eq_none_iff.mp hfree rule (List.mem_singleton_self rule))
    · exact hcount hwithin
  | fire other rest hfire ih =>
    obtain ⟨count, hlength, -⟩ := ih
    have hrule := List.mem_singleton.mp (Rule.mem_of_firing? hfire)
    subst hrule
    rw [substitute_fire hword hfire, List.length_append, List.length_append]
    refine ⟨count + 1, ?_, fun _ => Nat.succ_pos count⟩
    rw [Nat.add_mul, Nat.add_mul]
    omega

/-- A substitution that finds its word changes the text, unless it puts the word back. -/
theorem substitute_ne_self (hother : rule.replacement ≠ rule.word) (hwithin : rule.word <:+: text) :
    substitute [rule] text ≠ text := by
  intro hsame
  have hlength : rule.replacement.length = rule.word.length := by
    obtain ⟨count, hcount, hpos⟩ := exists_length_substitute hword text
    rw [hsame] at hcount
    exact (Nat.eq_of_mul_eq_mul_left (hpos hwithin) (Nat.add_left_cancel hcount)).symm
  have hwords : ∀ other ∈ [rule], other.word ≠ [] := by simpa using hword
  induction text using substitute_induction hwords with
  | nil => exact hword (List.eq_nil_of_infix_nil hwithin)
  | copy c rest hfree ih =>
    rw [substitute_copy hfree] at hsame
    rcases List.infix_cons_iff.mp hwithin with hstarts | hwithin
    · exact Rule.firing?_eq_none_iff.mp hfree rule (List.mem_singleton_self rule) hstarts
    · exact ih hwithin (List.cons.inj hsame).2
  | fire other rest hfire _ =>
    have hrule := List.mem_singleton.mp (Rule.mem_of_firing? hfire)
    subst hrule
    rw [substitute_fire hword hfire] at hsame
    exact hother (List.append_inj hsame hlength).1

end Single

/-! ## Marked words -/

/-- That a word begins with a character that stands nowhere else in it. -/
def Marked (mark : Char) (word : List Char) : Prop :=
  ∃ tail, word = mark :: tail ∧ mark ∉ tail

theorem Marked.ne_nil {mark : Char} (hmark : Marked mark word) : word ≠ [] := by
  obtain ⟨tail, rfl, -⟩ := hmark
  exact List.cons_ne_nil mark tail

/-- A marked word does not begin in front of a mark and go beyond it. -/
theorem Marked.not_isPrefix {mark : Char} (hmark : Marked mark word) (hbefore : before ≠ [])
    (hinside : ¬ word <+: before) : ¬ word <+: before ++ mark :: rest := by
  intro hstarts
  obtain ⟨tail, rfl, hnot⟩ := hmark
  rcases List.prefix_or_prefix_of_prefix hstarts (List.prefix_append before _) with hin | ⟨s, hs⟩
  · exact hinside hin
  · rw [← hs, List.prefix_append_right_inj] at hstarts
    rcases List.prefix_cons_iff.mp hstarts with rfl | ⟨s', rfl, -⟩
    · rw [List.append_nil] at hs
      exact hinside (hs ▸ List.prefix_rfl)
    · cases before with
      | nil => exact hbefore rfl
      | cons c before =>
        rw [List.cons_append] at hs
        apply hnot
        rw [← (List.cons.inj hs).2]
        exact List.mem_append_right _ List.mem_cons_self

/-- Between stretches in which no word is, a rule that fires puts its replacement and nothing else
changes, if all words are marked alike. -/
theorem substitute_between {mark : Char} (hmark : ∀ other ∈ rules, Marked mark other.word)
    (hbefore : ∀ other ∈ rules, ¬ other.word <:+: before)
    (hafter : ∀ other ∈ rules, ¬ other.word <:+: after)
    (hfire : Rule.firing? rules (rule.word ++ after) = some rule) :
    substitute rules (before ++ (rule.word ++ after)) = before ++ (rule.replacement ++ after) := by
  have hrule := hmark rule (Rule.mem_of_firing? hfire)
  rw [substitute_append_of_free, substitute_fire hrule.ne_nil hfire, substitute_of_free hafter]
  intro s hsuffix hs other hother
  obtain ⟨tail, hword, -⟩ := hrule
  rw [hword, List.cons_append]
  apply (hmark other hother).not_isPrefix hs
  intro hstarts
  exact hbefore other hother (hstarts.isInfix.trans hsuffix.isInfix)

/-! ## Texts in which replacements make up words -/

section Leftover

variable {mark : Char} (hfirst : Marked mark first.word) (hsecond : Marked mark second.word)

include hfirst

/-- A word that its own replacement overlaps can be left over. -/
theorem exists_infix_substitute (hoverlap : Overlap first.replacement first.word) :
    ∃ before after, before <:+: first.word ∧ after <:+: first.word ∧
      first.word <:+: substitute [first] (before ++ (first.word ++ after)) := by
  obtain ⟨before, after, ⟨hbefore, hnot⟩, ⟨hafter, hnot'⟩, hmade⟩ := hoverlap.exists_around
  refine ⟨before, after, hbefore, hafter, ?_⟩
  have hfire : Rule.firing? [first] (first.word ++ after) = some first :=
    Rule.firing?_cons_of_isPrefix (List.prefix_append _ _)
  rw [substitute_between (by simpa using hfirst) (by simpa using hnot) (by simpa using hnot') hfire]
  exact hmade

include hsecond

variable (hapart : ¬ Overlap second.word first.word)

include hapart

/-- Where the first pass makes up the second word, the second pass replaces what a single pass
leaves alone. -/
theorem exists_substitute_substitute_ne (hoverlap : Overlap first.replacement second.word)
    (hother : second.replacement ≠ second.word) :
    ∃ text, ¬ second.word <:+: text ∧
      substitute [second] (substitute [first] text) ≠ substitute [first, second] text := by
  obtain ⟨before, after, ⟨hbefore, hnot⟩, ⟨hafter, hnot'⟩, hmade⟩ := hoverlap.exists_around
  have hfree : ∀ part, part <:+: second.word → ¬ first.word <:+: part :=
    fun _ => not_infix_of_isInfix hapart hfirst.ne_nil
  have hfire : ∀ rules, Rule.firing? (first :: rules) (first.word ++ after) = some first :=
    fun rules => Rule.firing?_cons_of_isPrefix (List.prefix_append _ _)
  have hone : substitute [first] (before ++ (first.word ++ after)) =
      before ++ (first.replacement ++ after) :=
    substitute_between (by simpa using hfirst) (by simpa using hfree before hbefore)
      (by simpa using hfree after hafter) (hfire [])
  have hboth : substitute [first, second] (before ++ (first.word ++ after)) =
      before ++ (first.replacement ++ after) :=
    substitute_between (by simpa using ⟨hfirst, hsecond⟩)
      (by simpa using ⟨hfree before hbefore, hnot⟩) (by simpa using ⟨hfree after hafter, hnot'⟩)
      (hfire [second])
  refine ⟨before ++ (first.word ++ after), ?_, ?_⟩
  · intro hwithin
    rcases infix_or_infix_of_around (fun h => hapart h.symm) hsecond.ne_nil hfirst.ne_nil hwithin
      with hwithin | hwithin
    · exact hnot hwithin
    · exact hnot' hwithin
  · rw [hone, hboth]
    exact substitute_ne_self hsecond.ne_nil hother hmade

/-- What the first pass leaves over of its word, the second pass leaves over too. -/
theorem exists_first_left (hoverlap : Overlap first.replacement first.word) :
    ∃ text, first.word <:+: substitute [second] (substitute [first] text) := by
  obtain ⟨before, after, -, -, hleft⟩ := exists_infix_substitute hfirst hoverlap
  refine ⟨before ++ (first.word ++ after), ?_⟩
  apply infix_substitute_of_apart (by simpa using hsecond.ne_nil) hfirst.ne_nil _ hleft
  simpa using fun h : Overlap first.word second.word => hapart h.symm

/-- What the second pass leaves over of its word is not in reach of the first. -/
theorem exists_second_left (hoverlap : Overlap second.replacement second.word) :
    ∃ text, second.word <:+: substitute [second] (substitute [first] text) := by
  obtain ⟨before, after, hbefore, hafter, hleft⟩ := exists_infix_substitute hsecond hoverlap
  refine ⟨before ++ (second.word ++ after), ?_⟩
  have hfree : ∀ part, part <:+: second.word → ¬ first.word <:+: part :=
    fun _ => not_infix_of_isInfix hapart hfirst.ne_nil
  have hsame : substitute [first] (before ++ (second.word ++ after)) =
      before ++ (second.word ++ after) := by
    apply substitute_of_free
    intro rule hrule hwithin
    rw [List.mem_singleton.mp hrule] at hwithin
    rcases infix_or_infix_of_around hapart hfirst.ne_nil hsecond.ne_nil hwithin
      with hwithin | hwithin
    · exact hfree before hbefore hwithin
    · exact hfree after hafter hwithin
  rw [hsame]
  exact hleft

end Leftover

end Scaffolding.Text
