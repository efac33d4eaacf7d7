import Scaffolding.Json.Basic
import Scaffolding.Report.Basic

/-!
# Reports as JSON

A report is an object with the provider, its home directory and the entries.  Paths are JSON
strings, so a report has a JSON value only if all its paths are text.
-/

namespace Scaffolding

namespace Report

/-- The word for a kind. -/
def Kind.word : Kind → String
  | .directory => "directory"
  | .file => "file"

/-- The word for an outcome. -/
def Outcome.word : Outcome → String
  | .created => "created"
  | .alreadyExists => "already-exists"
  | .wouldCreate => "would-create"

/-- An entry as JSON. -/
def Entry.json? (entry : Entry) : Option Json :=
  (Text.decode? entry.path.bytes).map fun path =>
    .object
      [ ("path", .string path),
        ("kind", .string entry.kind.word),
        ("outcome", .string entry.outcome.word) ]

/-- A report as JSON. -/
def json? (report : Report) : Option Json := do
  let home ← Text.decode? report.home.bytes
  let entries ← report.entries.mapM Entry.json?
  return .object
    [ ("provider", .string report.provider.name),
      ("root", .string home),
      ("entries", .array entries) ]

end Report

end Scaffolding
