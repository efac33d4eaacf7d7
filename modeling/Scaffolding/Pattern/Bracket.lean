import Scaffolding.Pattern.Atom

/-!
# Sets in brackets

A set is written between brackets: characters, ranges such as `a-z`, sets with a name, and further
sets in brackets.  Behind the opening bracket `^` asks for all other characters.  `&&`, `--` and
`~~` stand for the intersection, the difference and the symmetric difference of what is on either
side, from left to right.

- `Bracket.read?` reads a set behind its opening bracket.
-/

namespace Scaffolding.Pattern

/-- Something read, and how deep its parts are nested. -/
structure Nested (α : Type) where
  value : α
  depth : Nat
  deriving DecidableEq, Repr

/-- The greatest depth of some parts. -/
def deepest {α : Type} (parts : List (Nested α)) : Nat :=
  parts.foldr (fun part depth => max part.depth depth) 0

/-- An operation on two sets. -/
inductive Operation where
  | inter
  | diff
  | symmDiff
  deriving DecidableEq, Repr

/-- The set that an operation makes of two sets. -/
def Operation.apply : Operation → CharSet → CharSet → CharSet
  | .inter => .inter
  | .diff => .diff
  | .symmDiff => .symmDiff

/-- What has been read behind an opening bracket: whether all other characters are meant, the
operation that waits for its right side with the left one, and the parts read since. -/
structure Bracket where
  negated : Bool
  waiting : Option (Operation × Nested CharSet)
  parts : List (Nested CharSet)
  deriving DecidableEq, Repr

namespace Bracket

/-! ## Parts -/

/-- The bracket with one more part. -/
def push (bracket : Bracket) (part : Nested CharSet) : Bracket :=
  { bracket with parts := part :: bracket.parts }

/-- The parts since the last operator, together. -/
def union (bracket : Bracket) : Nested CharSet :=
  match bracket.parts with
  | [] => ⟨.empty, 0⟩
  | [part] => part
  | parts => ⟨parts.foldr (fun part set => .union part.value set) .empty, deepest parts + 1⟩

/-- All that was read, with the operation that was waiting. -/
def total (modes : Modes) (bracket : Bracket) : Nested CharSet :=
  match bracket.waiting with
  | none => bracket.union
  | some (operation, left) =>
    let right := bracket.union
    ⟨operation.apply (modes.fold left.value) (modes.fold right.value),
      max left.depth right.depth + 1⟩

/-- The bracket behind an operator. -/
def operate (modes : Modes) (operation : Operation) (bracket : Bracket) : Bracket :=
  ⟨bracket.negated, some (operation, bracket.total modes), []⟩

/-- The set at the closing bracket. -/
def close? (modes : Modes) (bracket : Bracket) : Option (Nested CharSet) := do
  let total := bracket.total modes
  let set := modes.fold total.value
  return ⟨← if bracket.negated then modes.compl? set else some set, total.depth + 1⟩

/-! ## Reading -/

/-- A text from what is part of the pattern on, unless that is nothing. -/
def skip? (modes : Modes) (text : List Char) : Option (List Char) :=
  match modes.skip text with
  | [] => none
  | rest => some rest

/-- Reads the hyphens behind an opening bracket, which stand for themselves, and gives their
number. -/
def readHyphens? (modes : Modes) : Nat → List Char → Option (Nat × List Char)
  | fuel + 1, '-' :: rest => do
    let (count, rest) ← readHyphens? modes fuel (← skip? modes rest)
    return (count + 1, rest)
  | _, text => some (0, text)

/-- Reads the start of a set behind its opening bracket.  A closing bracket stands for itself
there. -/
def readStart? (modes : Modes) (text : List Char) : Option (Bracket × List Char) := do
  let text ← skip? modes text
  let (negated, text) ← match text with
    | '^' :: rest => (skip? modes rest).map (true, ·)
    | text => some (false, text)
  let (hyphens, text) ← readHyphens? modes text.length text
  let parts := List.replicate hyphens ⟨.single '-', 0⟩
  match parts, text with
  | [], ']' :: rest => return (⟨negated, none, [⟨.single ']', 0⟩]⟩, ← skip? modes rest)
  | parts, text => return (⟨negated, none, parts⟩, text)

/-- The sets that have names between colons. -/
def namedSets : List (String × List (Char × Char)) :=
  [ ("alnum", [('0', '9'), ('A', 'Z'), ('a', 'z')]),
    ("alpha", [('A', 'Z'), ('a', 'z')]),
    ("ascii", [('\x00', '\x7F')]),
    ("blank", [('\t', '\t'), (' ', ' ')]),
    ("cntrl", [('\x00', '\x1F'), ('\x7F', '\x7F')]),
    ("digit", [('0', '9')]),
    ("graph", [('!', '~')]),
    ("lower", [('a', 'z')]),
    ("print", [(' ', '~')]),
    ("punct", [('!', '/'), (':', '@'), ('[', '\x60'), ('\x7B', '~')]),
    ("space", [('\t', '\r'), (' ', ' ')]),
    ("upper", [('A', 'Z')]),
    ("word", [('0', '9'), ('A', 'Z'), ('_', '_'), ('a', 'z')]),
    ("xdigit", [('0', '9'), ('A', 'F'), ('a', 'f')]) ]

/-- Reads a name between colons, as in `[:alpha:]` or `[:^alpha:]`, behind the opening bracket:
whether all other characters are meant, and the set. -/
def readNamed? (text : List Char) : Option ((Bool × CharSet) × List Char) := do
  let rest ← [':'].isPrefixOf? text
  let negated := rest.head? = some '^'
  let rest := if negated then rest.tail else rest
  let ranges ← namedSets.lookup (String.ofList (rest.takeWhile (· ≠ ':')))
  return ((negated, .ofRanges ranges), ← [':', ']'].isPrefixOf? (rest.dropWhile (· ≠ ':')))

/-- Reads a character, a set with a name or a range. -/
def readPart? (modes : Modes) (text : List Char) : Option (CharSet × List Char) := do
  let (first, rest) ← Atom.readInBrackets? modes text
  match modes.skip rest with
  | '-' :: behind =>
    if [some ']', some '-'].contains (modes.peek? behind) then
      return (← first.set? modes, '-' :: behind)
    else
      let (last, rest) ← Atom.readInBrackets? modes (modes.skip behind)
      let first ← first.char? modes
      let last ← last.char? modes
      if first ≤ last then some (.range first last, rest) else none
  | rest => return (← first.set? modes, rest)

/-- Reads the rest of a set, which stands inside of others, up to its closing bracket and theirs. -/
def readRest? (modes : Modes) :
    Nat → List Bracket → Bracket → List Char → Option (Nested CharSet × List Char)
  | 0, _, _, _ => none
  | fuel + 1, outer, bracket, text =>
    match modes.skip text with
    | [] => none
    | ']' :: rest => do
      let set ← bracket.close? modes
      match outer with
      | [] => some (set, rest)
      | parent :: outer => readRest? modes fuel outer (parent.push set) rest
    | '[' :: rest =>
      match readNamed? rest with
      | some ((negated, set), rest) => do
        let set := modes.fold set
        let set ← if negated then modes.compl? set else some set
        readRest? modes fuel outer (bracket.push ⟨set, 0⟩) rest
      | none => do
        let (inner, rest) ← readStart? modes rest
        readRest? modes fuel (bracket :: outer) inner rest
    | '&' :: '&' :: rest => readRest? modes fuel outer (bracket.operate modes .inter) rest
    | '-' :: '-' :: rest => readRest? modes fuel outer (bracket.operate modes .diff) rest
    | '~' :: '~' :: rest => readRest? modes fuel outer (bracket.operate modes .symmDiff) rest
    | text => do
      let (set, rest) ← readPart? modes text
      readRest? modes fuel outer (bracket.push ⟨set, 0⟩) rest

/-- Reads a set behind its opening bracket. -/
def read? (modes : Modes) (text : List Char) : Option (Nested CharSet × List Char) := do
  let (bracket, rest) ← readStart? modes text
  readRest? modes (rest.length + 1) [] bracket rest

end Bracket

end Scaffolding.Pattern
