import Scaffolding.Command.Request
import Scaffolding.Log.Filter

/-!
# What a run of the command logs

Every step of a run has a record.  Which of them are shown is decided by a filter: the one that the
environment asks for, or else the one that fits the verbosity of the invocation.
-/

namespace Scaffolding.Command

open Log (Filter Level Record Span)

/-! ## Targets -/

/-- The program itself. -/
def programTarget : String := "provkit"

/-- The telling of problems. -/
def problemTarget : String := "provkit::error"

/-- The carrying out of a request. -/
def requestTarget : String := "provkit::commands::setup"

/-- The making of a provider. -/
def scaffoldTarget : String := "provkit_core::application::services::scaffold_service"

/-- The reading of templates. -/
def templateTarget : String := "provkit_adapters::template_source::directory"

/-! ## Filters -/

/-- The variable that asks for a filter. -/
def filterVariable : String := "RUST_LOG"

/-- How much is logged for an invocation. -/
def Invocation.level (invocation : Invocation) : Level :=
  if invocation.quiet then .error
  else
    match invocation.verbosity with
    | 0 => .warn
    | 1 => .info
    | 2 => .debug
    | _ => .trace

/-- The filter that fits an invocation. -/
def Invocation.filter (invocation : Invocation) : Filter :=
  ⟨["provkit", "provkit_core", "provkit_adapters"].map fun target =>
    .forTarget target.toList invocation.level⟩

/-- The filter for an invocation in an environment. -/
def chooseFilter (invocation : Invocation) (environment : Environment) : Except Crash Filter :=
  match (environment.text? filterVariable).map Filter.parse with
  | none | some (.error .senseless) => .ok invocation.filter
  | some (.error (.crash crash)) => .error crash
  | some (.ok filter) => .ok filter

/-! ## The run -/

/-- A truth value in a record. -/
def showTruth (truth : Bool) : String := if truth then "true" else "false"

/-- The run has begun. -/
def startRecord (invocation : Invocation) : Record where
  target := programTarget
  level := .debug
  spans := []
  message := "CLI started"
  fields :=
    [ ("verbose", toString invocation.verbosity),
      ("quiet", showTruth invocation.quiet),
      ("no_color", showTruth invocation.noColour),
      ("dry_run", showTruth invocation.dryRun) ]

/-- The run has done what it was asked for. -/
def successRecord : Record where
  target := programTarget
  level := .info
  spans := []
  message := "provkit completed successfully"
  fields := []

/-- The run has met a problem; its nearest cause has a record of its own. -/
def problemRecords (problem : Problem) : List Record :=
  let record := fun message fields => Record.mk problemTarget .debug [] message fields
  record problem.message
      [("category", problem.category.name), ("exit_code", toString problem.exitCode)]
    :: (problem.causes.take 1).map fun cause => record ("Caused by: " ++ cause) []

/-! ## The request -/

namespace Request

/-- The span of a whole request. -/
def span (request : Request) : Span :=
  ⟨requestTarget, "execute", [("provider", request.provider.name)]⟩

/-- The span of making the provider. -/
def scaffoldSpan (request : Request) : Span :=
  ⟨scaffoldTarget, "scaffold",
    [("provider", request.provider.name), ("output_root", outputRoot.display)]⟩

/-- The installation is known. -/
def installationRecord (request : Request) : Record where
  target := requestTarget
  level := .debug
  spans := [request.span]
  message := "Configuration resolved"
  fields := [("biqt_home", request.home.display), ("templates", request.templates.display)]

/-- The provider is about to be made. -/
def scaffoldRecord (request : Request) : Record where
  target := requestTarget
  level := .info
  spans := [request.span]
  message := "Scaffold started"
  fields := [("provider", request.provider.name)]

/-- An event in the making of the provider. -/
def eventRecord (request : Request) (event : Event) : Record :=
  let record := fun target level message fields =>
    Record.mk target level [request.span, request.scaffoldSpan] message fields
  match event with
  | .directoryFound path =>
    record scaffoldTarget .debug "Directory already exists" [("path", path.display)]
  | .directoryMade path =>
    record scaffoldTarget .debug "Directory created" [("path", path.display)]
  | .fileSkipped path =>
    record scaffoldTarget .info "Skipping existing file" [("path", path.display)]
  | .templateRead template =>
    record templateTarget .debug "Reading template"
      [("path", (Installation.templateFile request.templates template).display)]
  | .fileMade template path bytes =>
    record scaffoldTarget .info "File instantiated"
      [("template", template.fileName), ("path", path.display), ("bytes", toString bytes)]
  | .completed created skipped =>
    record scaffoldTarget .info "Scaffold completed"
      [("created", toString created), ("skipped", toString skipped)]

/-- The records of a request whose script noted some events. -/
def records (request : Request) (events : List Event) : List Record :=
  request.installationRecord ::
    (if request.dryRun then [] else [request.scaffoldRecord]) ++ events.map request.eventRecord

end Request

end Scaffolding.Command
