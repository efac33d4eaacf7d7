import Scaffolding.Failure
import Scaffolding.Log.Record
import Scaffolding.Pattern.Reader
import Scaffolding.Pattern.Search
import Scaffolding.Text.Quoted
import Scaffolding.Text.Utf8

/-!
# Rules

A rule lets records pass up to a level.  It may be about targets with a certain start only, about
what happens inside a span of a certain name, and about records or spans with a certain field, whose
value may have to fit a pattern.

- `Rule.parse` reads a rule as in `target[span{field=value}]=level`, of which any part may be
  missing.
-/

namespace Scaffolding.Log

/-- A value that a field shall have.  Most words are a pattern for text; those that spell a truth
value or a number ask for such a value, which no text is. -/
structure Wanted where
  words : List Char
  pattern : Option Pattern
  deriving DecidableEq, Repr

/-- A field that there shall be, and what its value shall be. -/
structure Condition where
  field : String
  value : Option Wanted
  deriving DecidableEq, Repr

/-- What passes, and what it is about. -/
structure Rule where
  target : Option (List Char)
  span : Option String
  condition : Option Condition
  level : Level
  deriving DecidableEq, Repr

namespace Rule

/-- The rule about everything. -/
def general (level : Level) : Rule := ⟨none, none, none, level⟩

/-- The rule about the targets with a certain start. -/
def forTarget (start : List Char) (level : Level) : Rule := ⟨some start, none, none, level⟩

/-! ## What a rule is about -/

/-- Whether a rule is about the same as another rule. -/
def sameSubject (rule other : Rule) : Bool := { rule with level := other.level } = other

/-- Whether a rule is about targets only. -/
def isPlain (rule : Rule) : Bool := rule.span.isNone && rule.condition.isNone

/-- Whether a rule can be applied without knowing what spans there are and what values they have. -/
def isTimeless (rule : Rule) : Bool :=
  rule.span.isNone && rule.condition.all (·.value.isNone)

/-- Whether a rule is about a target. -/
def concernsTarget (rule : Rule) (target : String) : Bool :=
  rule.target.all (·.isPrefixOf target.toList)

/-- Whether a rule is about things with certain fields. -/
def concernsFields (rule : Rule) (fields : List String) : Bool :=
  rule.condition.all fun condition => fields.contains condition.field

/-- Whether a rule is about what happens inside a span. -/
def concernsSpan (rule : Rule) (span : Span) : Bool :=
  !rule.isPlain && rule.concernsTarget span.target && rule.span.all (· = span.name)
    && rule.concernsFields (span.fields.map (·.1))

/-- Whether a span has the value that a rule asks for. -/
def fits (rule : Rule) (span : Span) : Bool :=
  match rule.condition with
  | some ⟨field, some wanted⟩ =>
    wanted.pattern.any fun pattern =>
      (span.fields.lookup field).any fun value => pattern.accepts value.toList
  | _ => true

/-- How closely a rule describes what it is about: the length of the start of a target weighs first,
then whether there is a field, then the name of the field. -/
def weight (rule : Rule) : List Nat :=
  let target := match rule.target with
    | none => 0
    | some start => Text.byteLength start + 1
  match rule.condition with
  | none => [target, 0]
  | some condition => target :: 1 :: condition.field.toList.map Char.toNat

end Rule

/-! ## Values in words -/

/-- Digits with a sign before them or without. -/
def isExponent (text : List Char) : Bool :=
  let digits := if text.head?.any ['+', '-'].contains then text.tail else text
  digits ≠ [] && digits.all Char.isDigit

/-- Whether a text spells a number: digits that may have a point and an exponent, or the word for
infinity or for what is no number. -/
def isNumber (text : List Char) : Bool :=
  let text := (if text.head?.any ['+', '-'].contains then text.tail else text).map Char.toLower
  let whole := text.takeWhile Char.isDigit
  let rest := text.dropWhile Char.isDigit
  let point := rest.head? = some '.'
  let fraction := if point then rest.tail.takeWhile Char.isDigit else []
  let rest := if point then rest.tail.dropWhile Char.isDigit else rest
  ["inf", "infinity", "nan"].contains (String.ofList text)
    || (whole ≠ [] || fraction ≠ [])
      && (rest = [] || rest.head? = some 'e' && isExponent rest.tail)

/-- Reads a value that a field shall have. -/
def Wanted.parse? (words : List Char) : Option Wanted :=
  if ["true", "false"].contains (String.ofList words) || isNumber words then some ⟨words, none⟩
  else (Pattern.parse? words).map fun pattern => ⟨words, some pattern⟩

/-- Reads a field and its value; what is behind a second equals sign does not count. -/
def Condition.parse? (text : List Char) : Option Condition :=
  let field := String.ofList (text.takeWhile (· ≠ '='))
  match text.dropWhile (· ≠ '=') with
  | [] => some ⟨field, none⟩
  | _ :: rest => (Wanted.parse? (rest.takeWhile (· ≠ '='))).map fun wanted => ⟨field, some wanted⟩

/-! ## Rules in words -/

/-- Why a text is read as no rule. -/
inductive Rule.Obstacle where
  /-- The text makes no sense. -/
  | senseless
  /-- Whoever reads the text breaks off. -/
  | crash (crash : Crash)
  deriving DecidableEq, Repr

/-- The characters that end within the first bytes of a text. -/
def within : Nat → List Char → List Char
  | _, [] => []
  | bytes, c :: text => if c.utf8Size ≤ bytes then c :: within (bytes - c.utf8Size) text else []

/-- What looking for a part of a text breaks off with that would begin or end at some byte. -/
def outsideCharacters (text : List Char) (index : Nat) : Crash where
  message :=
    let before := within index text
    let first := Text.byteLength before
    let shown := within 256 text
    let whole := "`" ++ String.ofList shown ++ "`" ++ if shown = text then "" else "[...]"
    match text.drop before.length with
    | [] => "byte index " ++ toString index ++ " is out of bounds of " ++ whole
    | c :: _ =>
      "byte index " ++ toString index ++ " is not a char boundary; it is inside " ++ Text.quoted c
        ++ " (bytes " ++ toString first ++ ".." ++ toString (first + c.utf8Size) ++ ") of " ++ whole

/-- The part of a text from one byte to another.  There is none that begins or ends inside a
character. -/
def slice (text : List Char) (first last : Nat) : Except Crash (List Char) :=
  if Text.byteLength (within first text) ≠ first then .error (outsideCharacters text first)
  else if Text.byteLength (within last text) ≠ last then .error (outsideCharacters text last)
  else .ok ((within last text).drop (within first text).length)

namespace Rule

/-- A part of a text, for whoever reads a rule. -/
def part (text : List Char) (first last : Nat) : Except Obstacle (List Char) :=
  (slice text first last).mapError .crash

/-- Goes on with what was read, if it makes sense. -/
def sensible {α : Type} : Option α → Except Obstacle α
  | some value => .ok value
  | none => .error .senseless

/-- Whether a target may start with a character. -/
def isTargetStart (c : Char) : Bool :=
  Text.isAlphanumeric c || ['-', ':', '_'].contains c

/-- The rule with the level that a text has from some byte on.  The level may be left out. -/
def readLevel (text : List Char) (rule : Rule) (offset : Nat) : Except Obstacle Rule := do
  let words ← part text offset (Text.byteLength text)
  if words = [] then return rule
  return { rule with level := ← sensible (Level.parse? words) }

/-- Reads what is behind the brackets of a rule. -/
def readEnd (text : List Char) (rule : Rule) (offset : Nat) : List Char → Except Obstacle Rule
  | [] => .ok rule
  | '=' :: _ => readLevel text rule (offset + 1)
  | _ => .error .senseless

/-- Reads what is behind the opening brace of a rule. -/
def readCondition (text : List Char) (rule : Rule) (offset : Nat) (rest : List Char) :
    Except Obstacle Rule := do
  let field := rest.takeWhile (· ≠ '\x7D')
  let stop := offset + Text.byteLength field
  match rest.dropWhile (· ≠ '\x7D') with
  | '\x7D' :: rest =>
    let words ← part text offset stop
    if words = [] then .error .senseless
    else
      let condition ← sensible (Condition.parse? words)
      match rest with
      | ']' :: rest => readEnd text { rule with condition := some condition } (stop + 2) rest
      | _ => .error .senseless
  | _ => .error .senseless

/-- Reads what is behind the opening bracket of a rule. -/
def readSpan (text : List Char) (rule : Rule) (offset : Nat) (rest : List Char) :
    Except Obstacle Rule := do
  let isName := fun c => c ≠ ']' && c ≠ '\x7B'
  let stop := offset + Text.byteLength (rest.takeWhile isName)
  match rest.dropWhile isName with
  | ']' :: rest =>
    let name ← part text offset stop
    readEnd text { rule with span := some (String.ofList name) } (stop + 1) rest
  | '\x7B' :: rest =>
    let name ← part text offset stop
    let span := if name = [] then none else some (String.ofList name)
    readCondition text { rule with span := span } (stop + 1) rest
  | _ => .error .senseless

/-- Reads a rule.  A rule without a level stands for everything, and a word alone is a level if it
can be one, and a target otherwise.  Blanks at either end count as part of the text, though the
parts are looked for behind the first of them: so the places of the parts are off by that much, and
may not be places between two characters. -/
def parse (text : List Char) : Except Obstacle Rule := do
  let isWord := fun c => c ≠ '=' && c ≠ '['
  let body := Text.trim text
  let word := body.takeWhile isWord
  let stop := Text.byteLength word
  if word = [] then
    match body with
    | '[' :: rest => readSpan text (general .trace) 1 rest
    | _ => .error .senseless
  else if !word.head?.any isTargetStart then .error .senseless
  else
    match body.dropWhile isWord with
    | [] =>
      match Level.parse? text with
      | some level => return general level
      | none => return forTarget text .trace
    | '=' :: _ => readLevel text (forTarget (← part text 0 stop) .trace) (stop + 1)
    | _ :: rest => readSpan text (forTarget (← part text 0 stop) .trace) (stop + 1) rest

end Rule

end Scaffolding.Log
