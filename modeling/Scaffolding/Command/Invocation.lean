/-!
# What the command is asked for

An invocation is what the arguments and the environment together ask for.
-/

namespace Scaffolding.Command

/-- How a report is shown. -/
inductive Format where
  /-- In colour on a terminal, in plain text elsewhere. -/
  | auto
  /-- In colour. -/
  | human
  /-- In plain text. -/
  | plain
  /-- As JSON. -/
  | json
  deriving DecidableEq, Repr

namespace Format

/-- The formats. -/
def all : List Format := [.auto, .human, .plain, .json]

/-- The word for a format. -/
def word : Format → String
  | .auto => "auto"
  | .human => "human"
  | .plain => "plain"
  | .json => "json"

/-- The format that a word stands for. -/
def ofWord? (word : String) : Option Format :=
  all.find? (·.word = word)

theorem ofWord?_word (format : Format) : ofWord? format.word = some format := by
  cases format <;> rfl

end Format

/-- What the command is asked for. -/
structure Invocation where
  /-- The name of the provider. -/
  name : Option String
  /-- The home of the installation. -/
  home : Option String
  /-- Only tell what would be done. -/
  dryRun : Bool
  /-- Tell nothing but errors. -/
  quiet : Bool
  /-- Show nothing in colour. -/
  noColour : Bool
  /-- How much to log. -/
  verbosity : Nat
  format : Format
  deriving DecidableEq, Repr

end Scaffolding.Command
