import Scaffolding.Environment.Fault
import Scaffolding.Failure
import Scaffolding.Text.Colour

/-!
# What can go wrong in a run of the command

A problem has a message of one line, the causes behind it, a category that decides the exit code,
and suggestions.  `Problem.plain` and `Problem.coloured` tell the user all of it.
-/

namespace Scaffolding

/-- Why the command could not do what it was asked for. -/
inductive Problem where
  /-- The variable that should name the installation does not. -/
  | missingHome (name : String)
  /-- The file of assignments at the path could not be loaded. -/
  | environmentFile (path : Path) (fault : Environment.Fault)
  /-- No provider was named. -/
  | missingName
  /-- The provider could not be made. -/
  | unmade (failure : Failure)
  /-- The output could not be written. -/
  | output (message : String) (fault : SystemFault)
  /-- The report has no JSON value. -/
  | unencodableReport
  deriving DecidableEq, Repr

namespace Problem

/-- Whose fault a problem is. -/
inductive Category where
  | user
  | notFound
  | configuration
  | internal
  deriving DecidableEq, Repr

/-- The problem of output that could not be written, where nothing more is known about it. -/
def ofFault (fault : SystemFault) : Problem := .output fault.message fault

/-- A problem in one line. -/
def message : Problem → String
  | .missingHome name =>
    "The " ++ name ++ " environment variable is not set. This tool requires " ++ name
      ++ " to be assigned to the installation directory of BIQT."
  | .environmentFile path fault => "Failed to load " ++ path.display ++ ": " ++ fault.message
  | .missingName => "No provider name was given"
  | .unmade failure => failure.message
  | .output message _ => "I/O error: " ++ message
  | .unencodableReport => "Failed to encode report"

/-- What is behind a problem, the nearest cause first. -/
def causes : Problem → List String
  | .environmentFile _ fault => fault.message :: fault.causes
  | .output _ fault => [fault.message]
  | .unencodableReport => ["path contains invalid UTF-8 characters"]
  | .missingHome _ | .missingName | .unmade _ => []

/-- The category of a problem. -/
def category : Problem → Category
  | .missingHome _ | .environmentFile .. => .configuration
  | .missingName => .user
  | .unmade failure =>
    match failure.category with
    | .validation => .user
    | .notFound => .notFound
    | .internal => .internal
  | .output .. | .unencodableReport => .internal

/-- The exit code of a category. -/
def Category.exitCode : Category → Nat
  | .user => 2
  | .notFound => 3
  | .configuration => 4
  | .internal => 1

/-- The exit code of a problem. -/
def exitCode (problem : Problem) : Nat := problem.category.exitCode

/-- The name of a category. -/
def Category.name : Category → String
  | .user => "UserError"
  | .notFound => "NotFound"
  | .configuration => "Configuration"
  | .internal => "Internal"

/-- What to do about a problem, a line each. -/
def suggestions : Problem → List String
  | .missingHome name =>
    [ "Set " ++ name ++ " to the BIQT installation directory, e.g.",
      "  export " ++ name ++ "=/usr/local/share/biqt",
      "Or pass --biqt-home <DIR>" ]
  | .environmentFile path _ =>
    [ "Fix the syntax of " ++ path.display ++ " or remove it",
      "Each line should look like KEY=value" ]
  | .missingName =>
    [ "Pass the new provider's name, e.g.",
      "  provkit MyProvider" ]
  | .unmade failure => failure.suggestions
  | .output .. => ["Check that stdout and stderr are writable"]
  | .unencodableReport =>
    [ "This is a bug, please report it",
      "Use --output-format plain as a workaround" ]

/-! ## The whole story -/

/-- What the user is told to do for more details. -/
def hint : String := "Use -v / --verbose for more details."

/-- A problem told in plain text.  The causes are for whoever asked for more; everybody else is told
how to ask. -/
def plain (problem : Problem) (verbose : Bool) : String :=
  "\nError: " ++ problem.message ++ "\n"
    ++ (if verbose then
          String.join (problem.causes.map fun cause => "  Caused by: " ++ cause ++ "\n")
        else "")
    ++ "\nSuggestions:\n"
    ++ String.join (problem.suggestions.map fun line => "  " ++ line ++ "\n")
    ++ (if verbose then "" else "\n" ++ hint ++ "\n")

/-- A problem told in colour. -/
def coloured (problem : Problem) (verbose : Bool) : String :=
  "\n" ++ Text.bold (Text.paint .red "✗") ++ " " ++ Text.bold (Text.paint .red "Error:") ++ "\n\n"
    ++ "  " ++ Text.paint .red problem.message ++ "\n"
    ++ (if verbose then
          String.join <| problem.causes.map fun cause =>
            "\n  " ++ Text.dimmed "→" ++ " " ++ Text.dimmed cause ++ "\n"
        else "")
    ++ "\n" ++ Text.bold (Text.paint .yellow "Suggestions:") ++ "\n"
    ++ String.join (problem.suggestions.map fun line => "  " ++ line ++ "\n")
    ++ (if verbose then ""
        else "\n" ++ Text.paint .blue "ℹ" ++ " " ++ Text.dimmed hint ++ "\n")

/-- Every problem comes with a suggestion. -/
theorem suggestions_ne_nil (problem : Problem) : problem.suggestions ≠ [] := by
  cases problem with
  | unmade failure => cases failure <;> simp [suggestions, Failure.suggestions]
  | _ => simp [suggestions]

end Problem

end Scaffolding
