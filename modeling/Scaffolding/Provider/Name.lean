import Scaffolding.Pattern.Reader
import Scaffolding.Pattern.Whole
import Scaffolding.Text.Quoted

/-!
# Providers

A provider is known by its name alone.  The name serves as a directory name, as the stem of file
names and as the name of a class, so it has ASCII letters, digits, underscores and dashes only, and
at least one of them.

- `Provider.grammar` is the pattern for names;
- `Provider.parse` accepts a name as it stands, or says what is wrong with it;
- `Provider.guard` is the include guard of the provider's header.

A text is accepted for the pattern, and what is wrong with it is told character by character.  So
the set of the pattern and `isNameCharacter` have to agree, and `contains_nameSet` says that they
do.
-/

namespace Scaffolding

/-- Whether a character may stand in the name of a provider. -/
def isNameCharacter (c : Char) : Bool :=
  c.isAlphanum || c = '_' || c = '-'

theorem isNameCharacter_eq (c : Char) :
    isNameCharacter c =
      (c.isUpper || c.isLower || c.isDigit || decide (c = '_') || decide (c = '-')) := rfl

/-- That a character is an ASCII letter or digit, an underscore or a dash. -/
def InAlphabet (c : Char) : Prop :=
  ('A' ≤ c ∧ c ≤ 'Z') ∨ ('a' ≤ c ∧ c ≤ 'z') ∨ ('0' ≤ c ∧ c ≤ '9') ∨ c = '_' ∨ c = '-'

theorem isNameCharacter_iff {c : Char} : isNameCharacter c = true ↔ InAlphabet c := by
  have hupper : c.isUpper = true ↔ 'A' ≤ c ∧ c ≤ 'Z' := decide_eq_true_iff
  have hrange : ∀ first last : Char,
      (decide (first ≤ c) && decide (c ≤ last)) = true ↔ first ≤ c ∧ c ≤ last := by simp
  have hlower : c.isLower = true ↔ 'a' ≤ c ∧ c ≤ 'z' := hrange 'a' 'z'
  have hdigit : c.isDigit = true ↔ '0' ≤ c ∧ c ≤ '9' := hrange '0' '9'
  simp only [isNameCharacter_eq, InAlphabet, Bool.or_eq_true, hupper, hlower, hdigit,
    decide_eq_true_eq, or_assoc]

/-- A provider, by its name. -/
structure Provider where
  name : String
  name_ne_empty : name ≠ ""
  isNameCharacter_of_mem : ∀ c ∈ name.toList, isNameCharacter c = true
  deriving DecidableEq

namespace Provider

/-! ## The pattern for names -/

/-- The pattern for names as it is written. -/
def writtenGrammar : String := "^[A-Za-z0-9_-]+$"

/-- The set between the brackets; what is written first there comes last. -/
def nameSet : Pattern.CharSet :=
  .ofRanges [('-', '-'), ('_', '_'), ('0', '9'), ('a', 'z'), ('A', 'Z')]

/-- The pattern for names. -/
def grammar : Pattern := .ofSet nameSet

theorem parse?_writtenGrammar : Pattern.parse? writtenGrammar.toList = some grammar := by
  decide +kernel

/-- A character is in the set of the pattern if it may stand in a name. -/
theorem contains_nameSet (c : Char) : nameSet.contains c = isNameCharacter c := by
  have hsingle : ∀ d : Char, (decide (d ≤ c) && decide (c ≤ d)) = decide (c = d) := fun d =>
    Pattern.CharSet.contains_single d c
  have hupper : (decide ('A' ≤ c) && decide (c ≤ 'Z')) = c.isUpper :=
    (Bool.decide_and _ _).symm
  have hlower : (decide ('a' ≤ c) && decide (c ≤ 'z')) = c.isLower := rfl
  have hdigit : (decide ('0' ≤ c) && decide (c ≤ '9')) = c.isDigit := rfl
  rw [nameSet, Pattern.CharSet.contains_ofRanges, isNameCharacter_eq]
  simp only [List.any_cons, List.any_nil, hsingle, hupper, hlower, hdigit]
  cases c.isUpper <;> cases c.isLower <;> cases c.isDigit <;> simp [Bool.or_comm]

theorem isFoundIn_grammar_iff {text : String} :
    grammar.isFoundIn text.toList = true ↔
      text ≠ "" ∧ ∀ c ∈ text.toList, isNameCharacter c = true := by
  simp only [grammar, Pattern.isFoundIn_ofSet_iff, contains_nameSet, ne_eq,
    String.toList_eq_nil_iff]

/-! ## Reading a name -/

/-- Why a text names no provider. -/
inductive NameFault where
  /-- It has no character. -/
  | empty
  /-- It has characters that no name may hold, of which this one is the first. -/
  | disallowed (c : Char)
  /-- It does not match the pattern, for whatever characters. -/
  | mismatch
  deriving DecidableEq, Repr

/-- The wording of a fault. -/
def NameFault.reason : NameFault → String
  | .empty => "name cannot be empty"
  | .disallowed c => "contains disallowed character " ++ Text.quoted c
  | .mismatch => "contains disallowed characters"

/-- What is wrong with a text that does not match the pattern. -/
def NameFault.ofMismatch (text : String) : NameFault :=
  match text.toList.find? fun c => !isNameCharacter c with
  | some c => .disallowed c
  | none => .mismatch

/-- The provider that a text names. -/
def parse (text : String) : Except NameFault Provider :=
  if text = "" then .error .empty
  else if hfound : grammar.isFoundIn text.toList then
    .ok ⟨text, (isFoundIn_grammar_iff.mp hfound).1, (isFoundIn_grammar_iff.mp hfound).2⟩
  else .error (.ofMismatch text)

/-- The include guard of the provider's header: the name in capitals, and `_H`. -/
def guard (provider : Provider) : String :=
  String.ofList (provider.name.toList.map Char.toUpper) ++ "_H"

@[ext]
theorem ext {p q : Provider} (hname : p.name = q.name) : p = q := by
  cases p; cases q; cases hname; rfl

/-- Parsing gives the name back. -/
theorem name_of_parse {text : String} {provider : Provider} (hparse : parse text = .ok provider) :
    provider.name = text := by
  unfold parse at hparse
  split at hparse
  · cases hparse
  · split at hparse
    · cases hparse; rfl
    · cases hparse

/-- The name of a provider parses to that provider. -/
theorem parse_name (provider : Provider) : parse provider.name = .ok provider := by
  have hfound : grammar.isFoundIn provider.name.toList = true :=
    isFoundIn_grammar_iff.mpr ⟨provider.name_ne_empty, provider.isNameCharacter_of_mem⟩
  unfold parse
  rw [if_neg provider.name_ne_empty, dif_pos hfound]

end Provider

end Scaffolding
