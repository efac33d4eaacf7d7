import Scaffolding.Pattern.CharSet

/-!
# Modes of a written pattern

A written pattern can change how what follows is read.  Each mode has a letter.
-/

namespace Scaffolding.Pattern

/-- How a written pattern is read. -/
structure Modes where
  /-- A letter stands for all its cases. -/
  anyCase : Bool
  /-- Lines have starts and ends that can be asked for. -/
  lines : Bool
  /-- A dot stands for a line break too. -/
  dotAll : Bool
  /-- A repetition is lazy, and greedy where it is marked. -/
  swapped : Bool
  /-- A set may have any characters, not only those of ASCII. -/
  unicode : Bool
  /-- A line may end with a carriage return too. -/
  returns : Bool
  /-- Blanks and comments are no part of the pattern. -/
  spaced : Bool
  deriving DecidableEq, Repr

namespace Modes

/-- The modes at the start of a pattern. -/
def initial : Modes := ⟨false, false, false, false, true, false, false⟩

/-- The modes with one of them turned on or off. -/
def turn? (modes : Modes) (on : Bool) : Char → Option Modes
  | 'i' => some { modes with anyCase := on }
  | 'm' => some { modes with lines := on }
  | 's' => some { modes with dotAll := on }
  | 'U' => some { modes with swapped := on }
  | 'u' => some { modes with unicode := on }
  | 'R' => some { modes with returns := on }
  | 'x' => some { modes with spaced := on }
  | _ => none

/-- A set as it is meant: with all cases, if case does not matter. -/
def fold (modes : Modes) (set : CharSet) : CharSet :=
  if modes.anyCase then .folded set else set

/-- The set of all other characters, unless sets are held to ASCII: the rest of Unicode would be in
it. -/
def compl? (modes : Modes) (set : CharSet) : Option CharSet :=
  if modes.unicode then some (.compl set) else none

/-- Whether a set may have a character. -/
def admits (modes : Modes) (c : Char) : Bool :=
  modes.unicode || c.toNat < 0x80

/-- A text without the blanks and comments at its start; a comment runs from `#` to the end of the
line. -/
def skipSpace (inComment : Bool) : List Char → List Char
  | [] => []
  | c :: rest =>
    if inComment then skipSpace (c ≠ '\n') rest
    else if Text.isBlank c then skipSpace false rest
    else if c = '#' then skipSpace true rest
    else c :: rest

/-- A text from what is part of the pattern on. -/
def skip (modes : Modes) (text : List Char) : List Char :=
  if modes.spaced then skipSpace false text else text

/-- A look at the first character of a text that is part of the pattern.  A comment is taken for a
part of it behind its sign. -/
def peek? (modes : Modes) (text : List Char) : Option Char :=
  if modes.spaced then
    match Text.trimStart text with
    | '#' :: rest => (Text.trimStart rest).head?
    | rest => rest.head?
  else text.head?

end Modes

end Scaffolding.Pattern
