/-!
# Substitution of fixed words

`substitute` goes once through a text from left to right.  At each place the first rule whose word
starts there puts its replacement, and the reading goes on behind the word; where no rule fires the
character is copied.  So replaced words never overlap, and replacements are not read again.

Words are meant to be non-empty; an empty one is never reached.  For such words
`substitute_induction` goes from place to place as the substitution does.
-/

namespace Scaffolding.Text

/-- A word and what to put in its place. -/
structure Rule where
  word : List Char
  replacement : List Char
  deriving DecidableEq, Repr

/-- The first rule whose word starts the text. -/
def Rule.firing? (rules : List Rule) (text : List Char) : Option Rule :=
  rules.find? fun rule => rule.word.isPrefixOf text

/-- Substitution in a text whose first `skip` characters belong to a word already replaced. -/
def substituteFrom (rules : List Rule) : Nat → List Char → List Char
  | _, [] => []
  | skip + 1, _ :: rest => substituteFrom rules skip rest
  | 0, c :: rest =>
    match Rule.firing? rules (c :: rest) with
    | some rule => rule.replacement ++ substituteFrom rules (rule.word.length - 1) rest
    | none => c :: substituteFrom rules 0 rest

/-- A text with every word of the rules replaced, in one pass. -/
def substitute (rules : List Rule) (text : List Char) : List Char :=
  substituteFrom rules 0 text

@[simp]
theorem substitute_nil (rules : List Rule) : substitute rules [] = [] := rfl

/-! ## Which rule fires -/

theorem Rule.firing?_eq_none_iff {rules : List Rule} {text : List Char} :
    firing? rules text = none ↔ ∀ rule ∈ rules, ¬ rule.word <+: text := by
  simp [firing?, List.find?_eq_none]

theorem Rule.mem_of_firing? {rules : List Rule} {text : List Char} {rule : Rule}
    (hfire : firing? rules text = some rule) : rule ∈ rules :=
  List.mem_of_find?_eq_some hfire

theorem Rule.prefix_of_firing? {rules : List Rule} {text : List Char} {rule : Rule}
    (hfire : firing? rules text = some rule) : rule.word <+: text := by
  have hfound := List.find?_some hfire
  exact List.isPrefixOf_iff_prefix.mp hfound

theorem Rule.firing?_cons_of_isPrefix {rules : List Rule} {text : List Char} {rule : Rule}
    (hstarts : rule.word <+: text) : firing? (rule :: rules) text = some rule :=
  List.find?_cons_of_pos (List.isPrefixOf_iff_prefix.mpr hstarts)

/-! ## One place after another -/

theorem substituteFrom_eq (rules : List Rule) (skip : Nat) (text : List Char) :
    substituteFrom rules skip text = substitute rules (text.drop skip) := by
  induction skip generalizing text with
  | zero => rfl
  | succ skip ih =>
    cases text with
    | nil => rfl
    | cons c rest => exact ih rest

/-- Where no rule fires, the character is copied. -/
theorem substitute_copy {rules : List Rule} {c : Char} {rest : List Char}
    (hfree : Rule.firing? rules (c :: rest) = none) :
    substitute rules (c :: rest) = c :: substitute rules rest := by
  unfold substitute
  rw [substituteFrom, hfree]

/-- Where a rule fires, its replacement is put, and the reading goes on behind its word. -/
theorem substitute_fire {rules : List Rule} {rule : Rule} {rest : List Char}
    (hword : rule.word ≠ []) (hfire : Rule.firing? rules (rule.word ++ rest) = some rule) :
    substitute rules (rule.word ++ rest) = rule.replacement ++ substitute rules rest := by
  cases hsplit : rule.word with
  | nil => exact absurd hsplit hword
  | cons c tail =>
    rw [hsplit, List.cons_append] at hfire
    unfold substitute
    rw [List.cons_append, substituteFrom, hfire]
    simp only
    rw [substituteFrom_eq, hsplit, List.length_cons, Nat.add_sub_cancel, List.drop_left]
    rfl

/-- A fact on texts holds of all if it holds of what is left at each place that a substitution comes
to. -/
theorem substitute_induction {rules : List Rule} (hwords : ∀ rule ∈ rules, rule.word ≠ [])
    {motive : List Char → Prop} (nil : motive [])
    (copy : ∀ c rest, Rule.firing? rules (c :: rest) = none → motive rest → motive (c :: rest))
    (fire : ∀ rule rest, Rule.firing? rules (rule.word ++ rest) = some rule → motive rest →
      motive (rule.word ++ rest)) (text : List Char) : motive text := by
  -- On the length, as a word that is replaced takes the text down by more than one character.
  induction hlength : text.length using Nat.strongRecOn generalizing text with
  | ind length ih =>
    cases text with
    | nil => exact nil
    | cons c rest =>
      cases hfire : Rule.firing? rules (c :: rest) with
      | none =>
        have hshorter : rest.length < length := by
          rw [← hlength, List.length_cons]
          exact Nat.lt_succ_self _
        exact copy c rest hfire (ih _ hshorter rest rfl)
      | some rule =>
        have hword := List.length_pos_iff.mpr (hwords rule (Rule.mem_of_firing? hfire))
        obtain ⟨after, hafter⟩ := Rule.prefix_of_firing? hfire
        rw [← hafter] at hfire hlength ⊢
        have hshorter : after.length < length := by
          rw [← hlength, List.length_append]
          exact Nat.lt_add_of_pos_left hword
        exact fire rule after hfire (ih _ hshorter after rfl)

end Scaffolding.Text
