import Mathlib.Data.Nat.Digits.Defs
import Scaffolding.Command.Request

/-!
# Which texts are names

A text is a name if it matches the pattern, and otherwise the user is told
what is wrong with it.  The pattern and the search for a bad character know
of each other only through the alphabet of names.

* `Text.quoted_injective`: a character in quotes is told from all others.
* `isFoundIn_grammar_iff_isSpelled` is about the pattern, and `parse_cases`
  about the three things that can come of a text.
* `explained_parse` is the result.
-/

namespace Scaffolding

namespace Text

variable {c d : Char}

/-! ## Characters in quotes -/

/-- The characters with a name, and the name behind the backslash. -/
def namedCharacters : List (Char × Char) :=
  [('\x00', '0'), ('\t', 't'), ('\r', 'r'), ('\n', 'n'), ('\'', '\''), ('\\', '\\')]

theorem eq_of_mem_namedCharacters {name : Char} (hc : (c, name) ∈ namedCharacters)
    (hd : (d, name) ∈ namedCharacters) : c = d := by
  have hapart : ∀ named ∈ namedCharacters, ∀ other ∈ namedCharacters,
      named.2 = other.2 → named.1 = other.1 := by decide
  exact hapart _ hc _ hd rfl

/-- Hexadecimal digits stand for one number only. -/
theorem toDigits_injective {m n : Nat} (hsame : Nat.toDigits 16 m = Nat.toDigits 16 n) :
    m = n := by
  have hdigit : ∀ m < 16, ∀ n < 16, m.digitChar = n.digitChar → m = n := by decide
  induction m using Nat.strongRecOn generalizing n with
  | ind m ih =>
    have hshort : m < 16 ↔ n < 16 := by
      have hm := Nat.length_toDigits_le_iff (b := 16) (n := m) (k := 1) (by decide) (by decide)
      have hn := Nat.length_toDigits_le_iff (b := 16) (n := n) (k := 1) (by decide) (by decide)
      rw [hsame] at hm
      exact hm.symm.trans hn
    rcases Nat.lt_or_ge m 16 with hm | hm
    · rw [Nat.toDigits_of_lt_base hm, Nat.toDigits_of_lt_base (hshort.mp hm)] at hsame
      exact hdigit m hm n (hshort.mp hm) (List.singleton_inj.mp hsame)
    · have hn : 16 ≤ n := by omega
      rw [Nat.toDigits_of_base_le (by decide) hm, Nat.toDigits_of_base_le (by decide) hn] at hsame
      obtain ⟨hfront, hlast⟩ := List.append_inj' hsame rfl
      have hquotient := ih (m / 16) (by omega) hfront
      have hremainder := hdigit _ (Nat.mod_lt m (by decide)) _ (Nat.mod_lt n (by decide))
        (List.singleton_inj.mp hlast)
      omega

/-- Between the quotes there is the character, or its name behind a backslash, or its number. -/
theorem exists_body_quoted (c : Char) :
    ∃ body, (quoted c).toList = '\'' :: (body ++ ['\'']) ∧
      (body = [c] ∨ (∃ name, (c, name) ∈ namedCharacters ∧ body = ['\\', name]) ∨
        body = '\\' :: 'u' :: '\x7b' :: (Nat.toDigits 16 c.toNat ++ ['\x7d'])) := by
  unfold quoted
  split
  case h_7 =>
    split
    · refine ⟨_, ?_, .inr (.inr rfl)⟩
      simp
    · refine ⟨[c], ?_, .inl rfl⟩
      simp
  all_goals exact ⟨['\\', _], rfl, .inr (.inl ⟨_, by decide, rfl⟩)⟩

/-- A character in quotes is told from all others. -/
theorem quoted_injective (hsame : quoted c = quoted d) : c = d := by
  obtain ⟨body, hc, hbody⟩ := exists_body_quoted c
  obtain ⟨body', hd, hbody'⟩ := exists_body_quoted d
  have hequal : body = body' := by
    rw [hsame, hd] at hc
    exact (List.append_inj' (List.cons.inj hc).2 rfl).1.symm
  subst hequal
  rcases hbody with rfl | ⟨name, hname, rfl⟩ | rfl
  · rcases hbody' with h | ⟨name', -, h⟩ | h
    · exact List.singleton_inj.mp h
    · cases h
    · cases h
  · rcases hbody' with h | ⟨name', hname', h⟩ | h
    · cases h
    · cases h
      exact eq_of_mem_namedCharacters hname hname'
    · simp at h
  · rcases hbody' with h | ⟨name', -, h⟩ | h
    · simp at h
    · simp at h
    · have hdigits : Nat.toDigits 16 c.toNat = Nat.toDigits 16 d.toNat := by simpa using h
      exact Char.toNat_inj.mp (toDigits_injective hdigits)

end Text

namespace Provider

variable {text : String} {c : Char}

/-! ## Texts in the alphabet of names -/

/-- That a text is spelled in the alphabet of names. -/
def IsSpelled (text : String) : Prop :=
  text ≠ "" ∧ ∀ c ∈ text.toList, InAlphabet c

/-- That a character is the first of a text that is not in the alphabet of names. -/
def FirstOutside (text : String) (c : Char) : Prop :=
  ¬ InAlphabet c ∧
    ∃ before after, text.toList = before ++ c :: after ∧ ∀ d ∈ before, InAlphabet d

theorem isFoundIn_grammar_iff_isSpelled :
    grammar.isFoundIn text.toList = true ↔ IsSpelled text := by
  simp only [isFoundIn_grammar_iff, isNameCharacter_iff, IsSpelled]

theorem find?_eq_some_iff_firstOutside :
    text.toList.find? (fun c => !isNameCharacter c) = some c ↔ FirstOutside text c := by
  simp [List.find?_eq_some_iff_append, FirstOutside, isNameCharacter_iff, ← Bool.not_eq_true]

/-! ## What comes of a text -/

/-- A text is empty, or it is the name of a provider, or its first character outside the alphabet is
to blame. -/
theorem parse_cases (text : String) :
    (text = "" ∧ parse text = .error .empty) ∨
      (IsSpelled text ∧ ∃ provider, parse text = .ok provider) ∨
      ∃ c, FirstOutside text c ∧ parse text = .error (.disallowed c) := by
  unfold parse
  split
  · rename_i hempty
    exact .inl ⟨hempty, rfl⟩
  · rename_i hne
    split
    · rename_i hfound
      exact .inr (.inl ⟨isFoundIn_grammar_iff_isSpelled.mp hfound, _, rfl⟩)
    · rename_i hmissed
      -- The pattern is missed, so there is a character outside to be found.
      obtain ⟨c, hfind⟩ : ∃ c, text.toList.find? (fun c => !isNameCharacter c) = some c := by
        apply Option.ne_none_iff_exists'.mp
        intro hnone
        refine hmissed (isFoundIn_grammar_iff.mpr ⟨hne, fun c hc => ?_⟩)
        simpa using List.find?_eq_none.mp hnone c hc
      refine .inr (.inr ⟨c, find?_eq_some_iff_firstOutside.mp hfind, ?_⟩)
      rw [NameFault.ofMismatch, hfind]

theorem FirstOutside.not_isSpelled (houtside : FirstOutside text c) : ¬ IsSpelled text := by
  obtain ⟨hbad, before, after, htext, -⟩ := houtside
  rintro ⟨-, hall⟩
  exact hbad (hall c (by rw [htext]; exact List.mem_append_right _ List.mem_cons_self))

theorem FirstOutside.ne_empty (houtside : FirstOutside text c) : text ≠ "" := by
  obtain ⟨-, before, after, htext, -⟩ := houtside
  rintro rfl
  exact List.append_ne_nil_of_right_ne_nil _ (List.cons_ne_nil c after) htext.symm

theorem exists_parse_iff : (∃ provider, parse text = .ok provider) ↔ IsSpelled text := by
  rcases parse_cases text with ⟨rfl, hparse⟩ | ⟨hspelled, hparse⟩ | ⟨c, houtside, hparse⟩
  · exact iff_of_false (by rintro ⟨_, hok⟩; cases hparse.symm.trans hok) (fun h => h.1 rfl)
  · exact iff_of_true hparse hspelled
  · exact iff_of_false (by rintro ⟨_, hok⟩; cases hparse.symm.trans hok) houtside.not_isSpelled

theorem parse_eq_empty_iff : parse text = .error .empty ↔ text = "" := by
  rcases parse_cases text with ⟨rfl, hparse⟩ | ⟨hspelled, _, hparse⟩ | ⟨c, houtside, hparse⟩
  · exact iff_of_true hparse rfl
  · exact iff_of_false (by rw [hparse]; exact nofun) hspelled.1
  · exact iff_of_false (by rw [hparse]; exact nofun) houtside.ne_empty

theorem parse_eq_disallowed_iff : parse text = .error (.disallowed c) ↔ FirstOutside text c := by
  rcases parse_cases text with ⟨rfl, hparse⟩ | ⟨hspelled, _, hparse⟩ | ⟨d, houtside, hparse⟩
  · exact iff_of_false (by rw [hparse]; exact nofun) fun h => h.ne_empty rfl
  · exact iff_of_false (by rw [hparse]; exact nofun) fun h => h.not_isSpelled hspelled
  · have hsame : some d = some c ↔ FirstOutside text c := by
      rw [← find?_eq_some_iff_firstOutside.mpr houtside]
      exact find?_eq_some_iff_firstOutside
    rw [hparse, ← hsame]
    simp

theorem parse_ne_mismatch (text : String) : parse text ≠ .error .mismatch := by
  rcases parse_cases text with ⟨-, hparse⟩ | ⟨-, _, hparse⟩ | ⟨c, -, hparse⟩ <;>
    rw [hparse] <;> exact nofun

/-! ## What is told -/

/-- The reasons without a character do not begin like one with a character. -/
theorem reason_disallowed_ne {words : String}
    (hwords : ¬ "contains disallowed character ".toList <+: words.toList) (c : Char) :
    (NameFault.disallowed c).reason ≠ words := by
  have hreason : (NameFault.disallowed c).reason =
      "contains disallowed character " ++ Text.quoted c := rfl
  intro hsame
  apply hwords
  rw [← hsame, hreason, String.toList_append]
  exact List.prefix_append _ _

theorem reason_injective {fault other : NameFault} (hsame : fault.reason = other.reason) :
    fault = other := by
  cases fault with
  | disallowed c =>
    cases other with
    | disallowed d =>
      have hquoted : Text.quoted c = Text.quoted d := String.append_right_inj _ |>.mp hsame
      rw [Text.quoted_injective hquoted]
    | empty => exact absurd hsame (reason_disallowed_ne (by decide) c)
    | mismatch => exact absurd hsame (reason_disallowed_ne (by decide) c)
  | empty =>
    cases other with
    | disallowed d => exact absurd hsame.symm (reason_disallowed_ne (by decide) d)
    | empty => rfl
    | mismatch => exact absurd hsame (by decide)
  | mismatch =>
    cases other with
    | disallowed d => exact absurd hsame.symm (reason_disallowed_ne (by decide) d)
    | empty => exact absurd hsame (by decide)
    | mismatch => rfl

theorem providerNamed_some (text : String) :
    Command.providerNamed (some text) =
      (parse text).mapError fun fault => .unmade (.ofNameFault text fault) := rfl

/-- What the user is told of a text that is no name: the text as it was given, and the reason. -/
theorem providerNamed_eq_error_iff (fault : NameFault) :
    Command.providerNamed (some text) = .error (.unmade (.invalidName text fault.reason)) ↔
      parse text = .error fault := by
  rw [providerNamed_some]
  cases parse text with
  | ok provider => exact iff_of_false nofun nofun
  | error other =>
    constructor
    · intro htold
      have hreason : other.reason = fault.reason := by
        simpa [Except.mapError, Failure.ofNameFault] using htold
      rw [reason_injective hreason]
    · intro hparse
      cases hparse
      rfl

/-! ## Names and refusals -/

/-- A text is accepted as it stands if it is spelled in the alphabet of names, and that is when the
pattern for names is found in it and when it has characters and none that is disallowed.  Every
other text is refused as it stands.  It is told to be empty if it is, and otherwise it is told which
of its characters is the first outside the alphabet.  No text is refused without that. -/
theorem explained_parse (text : String) :
    let told := fun reason =>
      Command.providerNamed (some text) = .error (.unmade (.invalidName text reason))
    Pattern.parse? writtenGrammar.toList = some grammar ∧
    (grammar.isFoundIn text.toList = true ↔ IsSpelled text) ∧
    (grammar.isFoundIn text.toList = true ↔
      text ≠ "" ∧ text.toList.find? (fun c => !isNameCharacter c) = none) ∧
    ((∃ provider, parse text = .ok provider) ↔ IsSpelled text) ∧
    (∀ provider, parse text = .ok provider → provider.name = text) ∧
    (told "name cannot be empty" ↔ text = "") ∧
    (∀ c, told ("contains disallowed character " ++ Text.quoted c) ↔ FirstOutside text c) ∧
    ¬ told "contains disallowed characters" ∧
    ∀ problem, Command.providerNamed (some text) = .error problem →
      ∃ reason, problem = .unmade (.invalidName text reason) := by
  intro told
  refine ⟨parse?_writtenGrammar, isFoundIn_grammar_iff_isSpelled, ?_, exists_parse_iff,
    fun _ => name_of_parse, ?_, ?_, ?_, ?_⟩
  · rw [isFoundIn_grammar_iff]
    simp
  · exact (providerNamed_eq_error_iff .empty).trans parse_eq_empty_iff
  · intro c
    exact (providerNamed_eq_error_iff (.disallowed c)).trans parse_eq_disallowed_iff
  · intro htold
    exact parse_ne_mismatch text ((providerNamed_eq_error_iff .mismatch).mp htold)
  · intro problem hproblem
    rw [providerNamed_some] at hproblem
    cases hparse : parse text with
    | ok provider =>
      rw [hparse] at hproblem
      cases hproblem
    | error fault =>
      rw [hparse] at hproblem
      cases hproblem
      exact ⟨fault.reason, rfl⟩

/-- The end of the text is behind a line end too. -/
example : parse "Iris3\n" = .error (.disallowed '\n') := by decide +kernel

end Provider

end Scaffolding
