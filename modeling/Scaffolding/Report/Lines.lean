import Scaffolding.Report.Basic
import Scaffolding.Text.Colour

/-!
# Reports for people

A report is shown as a heading, a line for each entry, and closing lines that say what came of it
all.  Every line has a role, which decides its mark and its colour; the words are the same in plain
text and in colour.
-/

namespace Scaffolding

/-- A line of a report. -/
inductive Line where
  | heading (words : String)
  /-- Something was made. -/
  | success (words : String)
  /-- Something was left alone that a user might have wanted to be made. -/
  | warning (words : String)
  /-- Something to know. -/
  | info (words : String)
  /-- Anything else. -/
  | text (words : String)
  deriving DecidableEq, Repr

namespace Line

/-- A line in plain text. -/
def plain : Line → String
  | .heading words => words
  | .success words => "✓ " ++ words
  | .warning words => "⚠ " ++ words
  | .info words => "ℹ " ++ words
  | .text words => words

/-- A mark and some words in a colour, the mark in bold. -/
def marked (colour : Text.Colour) (mark words : String) : String :=
  Text.bold (Text.paint colour mark) ++ " " ++ Text.paint colour words

/-- A line in colour. -/
def coloured : Line → String
  | .heading words => Text.bold (Text.paint .cyan words)
  | .success words => marked .green "✓" words
  | .warning words => marked .yellow "⚠" words
  | .info words => marked .blue "ℹ" words
  | .text words => words

end Line

namespace Report

/-- A path as a report shows it; a directory has a slash behind it. -/
def Entry.label (entry : Entry) : String :=
  match entry.kind with
  | .directory => entry.path.display ++ "/"
  | .file => entry.path.display

/-- The line of an entry. -/
def Entry.line (entry : Entry) : Line :=
  match entry.outcome, entry.kind with
  | .created, _ => .success ("created       " ++ entry.label)
  | .wouldCreate, _ => .info ("would create  " ++ entry.label)
  | .alreadyExists, .directory => .info ("exists        " ++ entry.label)
  | .alreadyExists, .file => .warning ("skipped       " ++ entry.label ++ " (already exists)")

/-- The heading of a report. -/
def heading (report : Report) (dryRun : Bool) : Line :=
  .heading <|
    (if dryRun then "Dry run for provider '" else "Scaffolding provider '")
      ++ report.provider.name ++ "'"

/-- What a report says in the end. -/
def closing (report : Report) (dryRun : Bool) : List Line :=
  let name := report.provider.name
  if dryRun then [.info "Dry run: nothing was written."]
  else if report.isNoop then
    [.info ("Provider '" ++ name ++ "' is already in place; nothing to do.")]
  else
    [ .success ("Provider '" ++ name ++ "' created at " ++ report.home.display),
      .text "",
      .text "Next steps:",
      .text ("  Implement evaluate() in " ++ name ++ "/" ++ name ++ ".cpp"),
      .text ("  Describe the provider in " ++ name ++ "/descriptor.json") ]

/-- The lines of a report. -/
def lines (report : Report) (dryRun : Bool) : List Line :=
  report.heading dryRun :: report.entries.map Entry.line ++ .text "" :: report.closing dryRun

end Report

end Scaffolding
