import Scaffolding.Pattern.CharSet

/-!
# Patterns

A pattern describes texts.  It asks for characters of certain sets and for places of certain kinds,
one behind the other, as alternatives and in rounds.

- `isNullable` and `takesNothing` tell how many characters a pattern may take;
- `sequence`, `choice` and `rounds` put patterns together.
-/

namespace Scaffolding

namespace Pattern

/-! ## Places -/

/-- A place in a text: the character before it and the one behind it. -/
structure Place where
  before : Option Char
  behind : Option Char
  deriving DecidableEq, Repr

/-- What a pattern may ask of a place. -/
inductive Look where
  /-- The start of the text. -/
  | start
  /-- The end of the text. -/
  | stop
  /-- The start of a line; lines may also end with carriage returns. -/
  | lineStart (returns : Bool)
  /-- The end of a line; lines may also end with carriage returns. -/
  | lineEnd (returns : Bool)
  /-- The start or the end of a word. -/
  | boundary
  /-- Neither the start nor the end of a word. -/
  | noBoundary
  /-- The start of a word. -/
  | wordStart
  /-- The end of a word. -/
  | wordEnd
  deriving DecidableEq, Repr

/-- Whether a character belongs to a word. -/
def isWord (c : Char) : Bool := c.isAlphanum || c = '_'

/-- Whether a place is what a pattern asks for. -/
def Look.holds (place : Place) : Look → Bool
  | .start => place.before.isNone
  | .stop => place.behind.isNone
  | .lineStart false => place.before.all (· = '\n')
  | .lineStart true =>
    place.before.all (· = '\n') || (place.before = some '\r' && place.behind ≠ some '\n')
  | .lineEnd false => place.behind.all (· = '\n')
  | .lineEnd true =>
    place.behind.all (· = '\r') || (place.behind = some '\n' && place.before ≠ some '\r')
  | .boundary => place.before.any isWord ≠ place.behind.any isWord
  | .noBoundary => place.before.any isWord = place.behind.any isWord
  | .wordStart => !place.before.any isWord && place.behind.any isWord
  | .wordEnd => place.before.any isWord && !place.behind.any isWord

/-- Whether a place is what a pattern asks for, as far as the character before it tells. -/
def Look.holdsBehind (before : Option Char) : Look → Bool
  | .start => before.isNone
  | .lineStart _ => before.all (· = '\n')
  | _ => false

/-! ## Rounds -/

/-- How many rounds of a repetition there may be. -/
inductive Rounds where
  | atMostOne
  | any
  | atLeastOne
  deriving DecidableEq, Repr

end Pattern

/-! ## Patterns -/

/-- A description of texts. -/
inductive Pattern where
  /-- Nothing. -/
  | empty
  /-- One character of a set. -/
  | one (set : Pattern.CharSet)
  /-- Nothing, at a place of a kind. -/
  | here (look : Pattern.Look)
  | seq (first second : Pattern)
  /-- Two alternatives, rather the first. -/
  | either (first second : Pattern)
  /-- A pattern several times, rather more often than less if it is greedy. -/
  | repeated (rounds : Pattern.Rounds) (greedy : Bool) (body : Pattern)
  /-- A pattern with a number, which tells it from all others. -/
  | group (number : Nat) (body : Pattern)
  deriving DecidableEq, Repr

namespace Pattern

/-! ## Characters taken -/

/-- Whether a pattern may take no character. -/
def isNullable : Pattern → Bool
  | empty => true
  | one _ => false
  | here _ => true
  | seq first second => first.isNullable && second.isNullable
  | either first second => first.isNullable || second.isNullable
  | repeated .atLeastOne _ body => body.isNullable
  | repeated _ _ _ => true
  | group _ body => body.isNullable

/-- Whether a pattern takes no character in any case. -/
def takesNothing : Pattern → Bool
  | empty => true
  | one _ => false
  | here _ => true
  | seq first second => first.takesNothing && second.takesNothing
  | either first second => first.takesNothing && second.takesNothing
  | repeated _ _ body => body.takesNothing
  | group _ body => body.takesNothing

/-! ## Patterns of patterns -/

/-- Patterns one behind the other. -/
def sequence : List Pattern → Pattern
  | [] => empty
  | [pattern] => pattern
  | pattern :: patterns => seq pattern (sequence patterns)

/-- Patterns as alternatives. -/
def choice : List Pattern → Pattern
  | [] => empty
  | [pattern] => pattern
  | pattern :: patterns => either pattern (choice patterns)

/-- Rounds of some patterns, one behind the other.  There is no second round of what takes nothing
in any case. -/
def rounds (rounds : Rounds) (greedy : Bool) (patterns : List Pattern) : List Pattern :=
  let body := sequence patterns
  if body.takesNothing then
    if rounds = .atLeastOne then patterns else [repeated .atMostOne greedy body]
  else [repeated rounds greedy body]

end Pattern

end Scaffolding
