import Scaffolding.Text.Blank

/-!
# Sets of characters

What a pattern accepts at one place of a text is a set of characters.  Sets are data, so that two
patterns can be compared.

Patterns are matched against text in ASCII.  The properties and the cases of characters are known
for ASCII, and for the two letters beyond it that are other cases of ASCII letters: U+017F of `s`,
and U+212A of `k`.
-/

namespace Scaffolding.Pattern

/-! ## Properties -/

/-- What a character may be. -/
inductive Property where
  | digit
  | blank
  | word
  | letter
  | mark
  | punctuation
  | symbol
  | separator
  | control
  deriving DecidableEq, Repr

/-- Whether a character is a letter. -/
def isLetter (c : Char) : Bool := c.isAlpha || c = '\u017F' || c = '\u212A'

/-- Whether a character is a symbol, which is no punctuation. -/
def isSymbol (c : Char) : Bool :=
  ['$', '+', '<', '=', '>', '^', '\x60', '|', '~'].contains c

/-- Whether a character has a property. -/
def Property.holds : Property → Char → Bool
  | .digit, c => c.isDigit
  | .blank, c => Text.isBlank c
  | .word, c => isLetter c || c.isDigit || c = '_'
  | .letter, c => isLetter c
  | .mark, _ => false
  | .punctuation, c => '!' ≤ c && c ≤ '~' && !c.isAlphanum && !isSymbol c
  | .symbol, c => isSymbol c
  | .separator, c => c = ' '
  | .control, c => c < ' ' || c = '\x7F'

/-! ## Cases -/

/-- A character and its other cases. -/
def cases (c : Char) : List Char :=
  let others :=
    if ['k', 'K', '\u212A'].contains c then ['k', 'K', '\u212A']
    else if ['s', 'S', '\u017F'].contains c then ['s', 'S', '\u017F']
    else [c.toLower, c.toUpper]
  c :: others

/-! ## Sets -/

/-- A set of characters. -/
inductive CharSet where
  /-- No characters. -/
  | empty
  /-- The characters from one to another. -/
  | range (first last : Char)
  /-- The characters with a property. -/
  | having (property : Property)
  | union (left right : CharSet)
  | inter (left right : CharSet)
  | diff (left right : CharSet)
  | compl (set : CharSet)
  /-- The characters of a set and their other cases. -/
  | folded (set : CharSet)
  deriving DecidableEq, Repr

namespace CharSet

/-- Whether a set has a character. -/
def contains : CharSet → Char → Bool
  | .empty, _ => false
  | .range first last, c => first ≤ c && c ≤ last
  | .having property, c => property.holds c
  | .union left right, c => left.contains c || right.contains c
  | .inter left right, c => left.contains c && right.contains c
  | .diff left right, c => left.contains c && !right.contains c
  | .compl set, c => !set.contains c
  | .folded set, c => (cases c).any set.contains

/-- The set of one character. -/
def single (c : Char) : CharSet := .range c c

/-- The set of all characters. -/
def all : CharSet := .compl .empty

/-- The characters that are in exactly one of two sets. -/
def symmDiff (left right : CharSet) : CharSet := .union (.diff left right) (.diff right left)

/-- The characters of some ranges. -/
def ofRanges (ranges : List (Char × Char)) : CharSet :=
  ranges.foldr (fun range set => .union (.range range.1 range.2) set) .empty

@[simp]
theorem contains_single (c d : Char) : (single c).contains d = decide (d = c) := by
  rw [single, contains, Bool.eq_iff_iff]
  simp only [Bool.and_eq_true, decide_eq_true_eq]
  exact ⟨fun hboth => Char.le_antisymm hboth.2 hboth.1,
    fun hequal => hequal ▸ ⟨Char.le_refl _, Char.le_refl _⟩⟩

theorem contains_ofRanges (ranges : List (Char × Char)) (c : Char) :
    (ofRanges ranges).contains c = ranges.any fun range => range.1 ≤ c && c ≤ range.2 := by
  unfold ofRanges
  induction ranges with
  | nil => rfl
  | cons range ranges ih => simp [contains, ih]

end CharSet

end Scaffolding.Pattern
