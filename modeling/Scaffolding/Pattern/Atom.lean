import Scaffolding.Pattern.Basic
import Scaffolding.Pattern.Modes

/-!
# Atoms of a written pattern

The smallest parts of a written pattern that mean something: a character that stands for itself, a
set with a name, or a question about a place.  Many of them are written with a backslash.

- `Atom.readEscape?` reads what is behind a backslash.
-/

namespace Scaffolding.Pattern

/-- A smallest part of a written pattern. -/
inductive Atom where
  /-- A character, which may be given as a byte in two digits. -/
  | char (c : Char) (byte : Bool)
  /-- A set with a name. -/
  | chars (set : CharSet)
  /-- A question about a place. -/
  | look (look : Look)
  deriving DecidableEq, Repr

namespace Atom

/-! ## Meaning -/

/-- The pattern that an atom stands for.  Without all of Unicode a byte beyond ASCII is no
character. -/
def pattern? (modes : Modes) : Atom → Option Pattern
  | char c byte =>
    if modes.admits c then some (.one (modes.fold (.single c)))
    else if byte then none
    else some (.one (.single c))
  | chars set => some (.one set)
  | look question => some (.here question)

/-- The character that an atom between brackets stands for. -/
def char? (modes : Modes) : Atom → Option Char
  | char c _ => if modes.admits c then some c else none
  | _ => none

/-- The set that an atom between brackets stands for. -/
def set? (modes : Modes) : Atom → Option CharSet
  | chars set => some set
  | atom => (atom.char? modes).map .single

/-! ## Characters by number -/

/-- The value of a hexadecimal digit. -/
def hexDigit? (c : Char) : Option Nat :=
  if c.isDigit then some (c.toNat - '0'.toNat)
  else if 'a' ≤ c ∧ c ≤ 'f' then some (c.toNat - 'a'.toNat + 10)
  else if 'A' ≤ c ∧ c ≤ 'F' then some (c.toNat - 'A'.toNat + 10)
  else none

/-- Reads a number of some hexadecimal digits, where `value` was read before. -/
def readHex? (modes : Modes) : Nat → Nat → List Char → Option (Nat × List Char)
  | 0, value, text => some (value, text)
  | digits + 1, value, text =>
    match modes.skip text with
    | [] => none
    | c :: rest => do readHex? modes digits (value * 16 + (← hexDigit? c)) rest

/-- Reads a character by its number of some digits. -/
def readNumber? (modes : Modes) (digits : Nat) (text : List Char) : Option (Atom × List Char) := do
  let (value, rest) ← readHex? modes digits 0 text
  if value.isValidChar then some (char (Char.ofNat value) (digits = 2), rest) else none

/-! ## Sets with a name -/

/-- The property that a letter stands for. -/
def property? (c : Char) : Option Property :=
  match c.toLower with
  | 'l' => some .letter
  | 'm' => some .mark
  | 'n' => some .digit
  | 'p' => some .punctuation
  | 's' => some .symbol
  | 'z' => some .separator
  | 'c' => some .control
  | _ => none

/-- Reads the letter of a property. -/
def readProperty? (modes : Modes) (negated : Bool) (text : List Char) :
    Option (Atom × List Char) :=
  match modes.skip text with
  | [] => none
  | c :: rest => do
    let property ← property? c
    let others ← modes.compl? (modes.fold (.having property))
    return (chars (if negated then others else modes.fold (.having property)), rest)

/-- The digits, the blanks or the characters of words. -/
def commonSet (modes : Modes) (property : Property) : CharSet :=
  if modes.unicode then .having property
  else
    match property with
    | .digit => .range '0' '9'
    | .blank => .ofRanges [('\t', '\r'), (' ', ' ')]
    | _ => .ofRanges [('0', '9'), ('A', 'Z'), ('_', '_'), ('a', 'z')]

/-! ## Escapes -/

/-- Reads what is behind a backslash.  Words that follow all of Unicode have no boundaries here. -/
def readEscape? (modes : Modes) : List Char → Option (Atom × List Char)
  | [] => none
  | c :: rest =>
    let others := fun property =>
      (modes.compl? (commonSet modes property)).map fun others => (chars others, rest)
    let word := fun question => if modes.unicode then none else some (look question, rest)
    match c with
    | 'x' => readNumber? modes 2 rest
    | 'u' => readNumber? modes 4 rest
    | 'U' => readNumber? modes 8 rest
    | 'p' => readProperty? modes false rest
    | 'P' => readProperty? modes true rest
    | 'd' => some (chars (commonSet modes .digit), rest)
    | 's' => some (chars (commonSet modes .blank), rest)
    | 'w' => some (chars (commonSet modes .word), rest)
    | 'D' => others .digit
    | 'S' => others .blank
    | 'W' => others .word
    | 'a' => some (char '\x07' false, rest)
    | 'f' => some (char '\x0C' false, rest)
    | 't' => some (char '\t' false, rest)
    | 'n' => some (char '\n' false, rest)
    | 'r' => some (char '\r' false, rest)
    | 'v' => some (char '\x0B' false, rest)
    | 'A' => some (look .start, rest)
    | 'z' => some (look .stop, rest)
    | 'b' => word .boundary
    | 'B' => word .noBoundary
    | '<' => word .wordStart
    | '>' => word .wordEnd
    | c => if c.toNat < 0x80 && !c.isAlphanum then some (char c false, rest) else none

/-- Reads the atom at the start of a text between brackets. -/
def readInBrackets? (modes : Modes) : List Char → Option (Atom × List Char)
  | [] => none
  | '\\' :: rest => readEscape? modes rest
  | c :: rest => some (char c false, rest)

/-- The characters that a dot stands for. -/
def dotSet (modes : Modes) : CharSet :=
  if modes.dotAll then .all
  else if modes.returns then .compl (.union (.single '\n') (.single '\r'))
  else .compl (.single '\n')

/-- Reads the atom at the start of a text outside of brackets. -/
def read? (modes : Modes) : List Char → Option (Atom × List Char)
  | [] => none
  | '\\' :: rest => readEscape? modes rest
  | '.' :: rest => if modes.unicode then some (chars (dotSet modes), rest) else none
  | '^' :: rest => some (look (if modes.lines then .lineStart modes.returns else .start), rest)
  | '$' :: rest => some (look (if modes.lines then .lineEnd modes.returns else .stop), rest)
  | c :: rest => some (char c false, rest)

end Atom

end Scaffolding.Pattern
