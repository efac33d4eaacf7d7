import Scaffolding.Pattern.Bracket
import Scaffolding.Text.Alphanumeric

/-!
# Written patterns

A pattern is written as atoms and sets in brackets, one behind the other, with `|` between
alternatives, `?`, `*` and `+` behind what may be left out or repeated, and parentheses around what
belongs together.  A further `?` makes a repetition lazy.  `(?i)` and its like change the modes up
to the end of the group, and `(?i:…)` those of a group of its own.

A brace stands for itself where it closes, and nowhere else: repetitions are not counted.  A pattern
is read by `parse?`.
-/

namespace Scaffolding.Pattern

/-! ## Alternatives -/

/-- What two lists have in common at their starts. -/
def shared {α : Type} [DecidableEq α] : List α → List α → List α
  | first :: rest, other :: others => if first = other then first :: shared rest others else []
  | _, _ => []

/-- What all lists have in common at their starts. -/
def sharedByAll {α : Type} [DecidableEq α] : List (List α) → List α
  | [] => []
  | [list] => list
  | list :: lists => shared list (sharedByAll lists)

/-- Several alternatives as one pattern behind the other.  What they share at their starts comes
before the choice between them, if none of them is a single part. -/
def joinAlternatives (alternatives : List (List Pattern)) : List Pattern :=
  let start := if alternatives.all (2 ≤ ·.length) then sharedByAll alternatives else []
  start ++ [choice (alternatives.map fun alternative => sequence (alternative.drop start.length))]

/-! ## Groups -/

/-- A part of an alternative: patterns one behind the other, or a change of modes. -/
abbrev Part := Nested (Option (List Pattern))

/-- What a group was opened in: the modes, the alternatives before, and the parts before the group,
the latest first.  The group may have a number. -/
structure Outside where
  number : Option Nat
  modes : Modes
  alternatives : List (Nested (List Pattern))
  parts : List Part
  deriving DecidableEq, Repr

/-- What has been read of a pattern: the modes, the groups that are open, the innermost first, the
number and the names of groups so far, and the alternatives and parts of the innermost group, the
latest first. -/
structure Reading where
  modes : Modes
  groups : List Outside
  count : Nat
  names : List (List Char)
  alternatives : List (Nested (List Pattern))
  parts : List Part
  deriving DecidableEq, Repr

namespace Reading

/-- Nothing has been read. -/
def initial : Reading := ⟨.initial, [], 0, [], [], []⟩

/-- The parts of the current alternative, together. -/
def alternative (reading : Reading) : Nested (List Pattern) :=
  ⟨(reading.parts.reverse.filterMap Nested.value).flatten,
    match reading.parts with
    | [] => 0
    | [part] => part.depth
    | parts => deepest parts + 1⟩

/-- The alternatives of the innermost group, together. -/
def total (reading : Reading) : Nested (List Pattern) :=
  match reading.alternatives with
  | [] => reading.alternative
  | alternatives =>
    let all := (reading.alternative :: alternatives).reverse
    ⟨joinAlternatives (all.map Nested.value), deepest all + 1⟩

/-- One more part is read. -/
def push (reading : Reading) (part : Option (List Pattern)) (depth : Nat) : Reading :=
  { reading with parts := ⟨part, depth⟩ :: reading.parts }

/-- The current alternative ends. -/
def next (reading : Reading) : Reading :=
  { reading with
    alternatives := reading.alternative :: reading.alternatives
    parts := [] }

/-- A group starts. -/
def openGroup (reading : Reading) (number : Option Nat) (modes : Modes) : Reading :=
  let outside := Outside.mk number reading.modes reading.alternatives reading.parts
  ⟨modes, outside :: reading.groups, reading.count, reading.names, [], []⟩

/-- A group with a number of its own starts. -/
def openNumbered (reading : Reading) : Reading :=
  { reading with count := reading.count + 1 }.openGroup (some reading.count) reading.modes

/-- The innermost group ends. -/
def closeGroup? (reading : Reading) : Option Reading :=
  match reading.groups with
  | [] => none
  | ⟨number, modes, alternatives, parts⟩ :: groups =>
    let total := reading.total
    let part :=
      match number with
      | some number => [group number (sequence total.value)]
      | none => total.value
    let outside := Reading.mk modes groups reading.count reading.names alternatives parts
    some (outside.push (some part) (total.depth + 1))

/-- The last part is repeated. -/
def repeat? (reading : Reading) (number : Rounds) (greedy : Bool) : Option Reading :=
  match reading.parts with
  | ⟨some part, depth⟩ :: parts =>
    some { reading with parts := ⟨some (rounds number greedy part), depth + 1⟩ :: parts }
  | _ => none

/-- A group gets a name that no other group has. -/
def name? (reading : Reading) (name : List Char) : Option Reading :=
  if reading.names.contains name then none
  else some { reading with names := name :: reading.names }

end Reading

/-! ## Parentheses -/

/-- Whether a character may start the name of a group. -/
def isNameStart (c : Char) : Bool := Text.isAlphabetic c || c = '_'

/-- Whether a character may stand in the name of a group. -/
def isNamePart (c : Char) : Bool := Text.isAlphanumeric c || ['_', '.', '[', ']'].contains c

/-- Reads the name of a group, which starts there. -/
def readName? (reading : Reading) (text : List Char) : Option (Reading × List Char) := do
  let name := text.takeWhile (· ≠ '>')
  let rest ← ['>'].isPrefixOf? (text.dropWhile (· ≠ '>'))
  if name.head?.any isNameStart && name.all isNamePart then
    return ((← reading.name? name).openNumbered, rest)
  else none

/-- Reads changes of modes, where `seen` has those before, the latest first.  They are a part of the
pattern or start a group. -/
def readModes? (reading : Reading) (modes : Modes) (on : Bool) (seen : List Char) :
    List Char → Option (Reading × List Char)
  | [] => none
  | c :: rest =>
    if c = ':' then
      if seen.head? = some '-' then none else some (reading.openGroup none modes, rest)
    else if c = ')' then
      if seen = [] ∨ seen.head? = some '-' then none
      else some ({ reading with modes := modes }.push none 0, rest)
    else if seen.contains c then none
    else if c = '-' then readModes? reading modes false (c :: seen) rest
    else
      match modes.turn? on c with
      | some modes => readModes? reading modes on (c :: seen) rest
      | none => none

/-- Reads what is behind an opening parenthesis. -/
def readOpening? (reading : Reading) (text : List Char) : Option (Reading × List Char) :=
  match reading.modes.skip text with
  | '?' :: 'P' :: '<' :: rest => readName? reading rest
  | '?' :: '<' :: rest => readName? reading rest
  | '?' :: rest => readModes? reading reading.modes true [] rest
  | rest => some (reading.openNumbered, rest)

/-! ## Patterns -/

/-- How many rounds a sign stands for. -/
def roundsOf (sign : Char) : Rounds :=
  if sign = '?' then .atMostOne else if sign = '*' then .any else .atLeastOne

/-- Reads a sign of repetition that is part of the pattern, or an atom. -/
def readPart? (reading : Reading) : List Char → Option (Reading × List Char)
  | [] => none
  | c :: rest =>
    if ['?', '*', '+'].contains c then
      let marked := rest.head? = some '?'
      let greedy := marked = reading.modes.swapped
      (reading.repeat? (roundsOf c) greedy).map (·, if marked then rest.tail else rest)
    else do
      let (atom, rest) ← Atom.read? reading.modes (c :: rest)
      return (reading.push (some [← atom.pattern? reading.modes]) 0, rest)

/-- Reads a part of a pattern. -/
def readStep? (reading : Reading) : List Char → Option (Reading × List Char)
  | '(' :: rest => readOpening? reading rest
  | ')' :: rest => reading.closeGroup?.map (·, rest)
  | '|' :: rest => some (reading.next, rest)
  | '[' :: rest => do
    let (set, rest) ← Bracket.read? reading.modes rest
    return (reading.push (some [.one set.value]) set.depth, rest)
  | '\x7B' :: _ => none
  | text => readPart? reading text

/-- Reads the rest of a pattern. -/
def readRest? : Nat → Reading → List Char → Option (Nested (List Pattern))
  | 0, _, _ => none
  | fuel + 1, reading, text =>
    match reading.modes.skip text with
    | [] => if reading.groups = [] then some reading.total else none
    | text => do
      let (reading, rest) ← readStep? reading text
      readRest? fuel reading rest

/-- How deep the parts of a pattern may be nested. -/
def depthLimit : Nat := 250

/-- Reads a pattern. -/
def parse? (text : List Char) : Option Pattern := do
  let parts ← readRest? (text.length + 1) .initial text
  if parts.depth ≤ depthLimit then some (sequence parts.value) else none

end Scaffolding.Pattern
