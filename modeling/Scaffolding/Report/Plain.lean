import Mathlib.Data.List.Basic
import Scaffolding.Report.Lines
import Scaffolding.Text.Runs

/-!
# Reading the plain text of a report

A report in plain text is read line by line: the heading tells whose report it is and whether the
run was dry, and each line as far as the first empty one tells of an entry.  How a line begins says
what became of the entry, and a slash at the end of a path that it is a directory.

- `Report.plain` is the plain text of a report, and `Report.Outline` what it tells;
- `Report.readPlain?` reads the one from the other, and `Report.closingLines` are the lines behind.
-/

namespace Scaffolding

/-- What stands between a beginning and an end. -/
def Text.between? (lead tail text : String) : Option String :=
  ((text.toList.dropPrefix? lead.toList).bind (·.dropSuffix? tail.toList)).map String.ofList

namespace Report

/-- A report in plain text. -/
def plain (report : Report) (dryRun : Bool) : String :=
  String.join ((report.lines dryRun).map (·.plain ++ "\n"))

/-! ## Entries -/

/-- How the lines of entries begin and end, and what they say of the entry. -/
def frames : List (String × String × Outcome) :=
  [ ("✓ created       ", "", .created),
    ("ℹ would create  ", "", .wouldCreate),
    ("ℹ exists        ", "", .alreadyExists),
    ("⚠ skipped       ", " (already exists)", .alreadyExists) ]

/-- The entry with a label. -/
def Entry.ofLabel (outcome : Outcome) (label : String) : Entry :=
  match Text.between? "" "/" label with
  | some path => ⟨.ofText path, .directory, outcome⟩
  | none => ⟨.ofText label, .file, outcome⟩

/-- The entry that a line tells of. -/
def Entry.ofLine? (line : String) : Option Entry :=
  frames.findSome? fun (lead, tail, outcome) =>
    (Text.between? lead tail line).map (Entry.ofLabel outcome)

/-! ## Whole reports -/

/-- What the plain text of a report tells. -/
structure Outline where
  dryRun : Bool
  provider : Provider
  entries : List Entry
  deriving DecidableEq

/-- What a report tells in plain text. -/
def outline (report : Report) (dryRun : Bool) : Outline :=
  ⟨dryRun, report.provider, report.entries⟩

/-- Whether a run was dry, and the name of its provider, as the heading has them. -/
def ofHeading? (line : String) : Option (Bool × String) :=
  ((Text.between? "Dry run for provider '" "'" line).map (true, ·)).or
    ((Text.between? "Scaffolding provider '" "'" line).map (false, ·))

/-- What the lines of a report tell. -/
def ofLines? : List String → Option Outline
  | [] => none
  | heading :: rest => do
    let (dryRun, name) ← ofHeading? heading
    let provider ← (Provider.parse name).toOption
    return ⟨dryRun, provider, ← (rest.takeWhile (· ≠ "")).mapM Entry.ofLine?⟩

/-- What a plain text tells. -/
def readPlain? (text : String) : Option Outline :=
  ofLines? (Text.lines text)

/-- The lines of a plain text behind the first that is empty. -/
def closingLines (text : String) : List String :=
  ((Text.lines text).dropWhile (· ≠ "")).tail

end Report

end Scaffolding
