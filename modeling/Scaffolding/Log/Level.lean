/-!
# Levels

How important a record is, and how much a rule lets pass.
-/

namespace Scaffolding.Log

/-- How much a rule lets pass, or how important a record is. -/
inductive Level where
  | off
  | error
  | warn
  | info
  | debug
  | trace
  deriving DecidableEq, Repr

namespace Level

/-- The levels, from the one that lets nothing pass to the one that lets everything pass. -/
def all : List Level := [.off, .error, .warn, .info, .debug, .trace]

/-- The place of a level among the levels. -/
def rank : Level → Nat
  | .off => 0
  | .error => 1
  | .warn => 2
  | .info => 3
  | .debug => 4
  | .trace => 5

/-- The name of a level. -/
def name : Level → String
  | .off => "OFF"
  | .error => "ERROR"
  | .warn => "WARN"
  | .info => "INFO"
  | .debug => "DEBUG"
  | .trace => "TRACE"

/-- Whether a rule of one level lets a record of another level pass. -/
def lets (rule record : Level) : Bool := record.rank ≤ rule.rank

/-- The level that lets pass what either of two levels lets pass. -/
def max (level other : Level) : Level := if level.lets other then level else other

/-! ## Levels in words -/

/-- The number that decimal digits stand for. -/
def ofDigits (digits : List Char) : Nat :=
  digits.foldl (fun value digit => value * 10 + (digit.toNat - '0'.toNat)) 0

/-- A number in digits, with a plus sign or without. -/
def number? (text : List Char) : Option Nat :=
  let digits := if text.head? = some '+' then text.tail else text
  if digits ≠ [] ∧ digits.all Char.isDigit then some (ofDigits digits) else none

/-- The level that a user means by its name or its number. -/
def parse? (text : List Char) : Option Level :=
  match number? text with
  | some rank => all.find? (·.rank = rank)
  | none => all.find? fun level => level.name.toList = text.map Char.toUpper

end Level

end Scaffolding.Log
