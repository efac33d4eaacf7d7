/-!
# Sets of characters by ranges

A large set of characters is written as ranges of their numbers, in three parts so that a look-up
need not read all of them.
-/

namespace Scaffolding.Text

/-- Ranges of characters.  A range has its first and its last character, and the ranges of a part
are ascending and disjoint. -/
structure Ranges where
  /-- Characters from U+0000 to U+1FFF. -/
  scripts : List (Nat × Nat)
  /-- Characters from U+2000 to U+FFFF. -/
  symbols : List (Nat × Nat)
  /-- Characters from U+10000 on. -/
  supplement : List (Nat × Nat)
  deriving DecidableEq, Repr

/-- The ranges that may have a character. -/
def Ranges.part (ranges : Ranges) (c : Char) : List (Nat × Nat) :=
  if c.toNat < 0x2000 then ranges.scripts
  else if c.toNat < 0x10000 then ranges.symbols
  else ranges.supplement

/-- Whether a character is in one of the ranges. -/
def Ranges.contains (ranges : Ranges) (c : Char) : Bool :=
  (ranges.part c).any fun range => range.1 ≤ c.toNat && c.toNat ≤ range.2

end Scaffolding.Text
