import Scaffolding.Command.Console
import Scaffolding.Command.Records

/-!
# How a run of the command ends

A run ends with an exit code, a text on standard output and a text on standard error.  Standard
error has the log, and behind it the problem if there is one.  A run that breaks off has no more
there than why it did.
-/

namespace Scaffolding.Command

open Arguments (Misuse Stop)

/-- The file of assignments in the working directory. -/
def environmentFile : Path := Path.ofText ".env"

/-- How a run ends. -/
inductive Ending where
  /-- The arguments asked for help. -/
  | help
  /-- The arguments asked for the version. -/
  | version
  /-- The arguments make no sense. -/
  | misuse (misuse : Misuse)
  /-- All was done. -/
  | success
  /-- A problem came up. -/
  | failed (problem : Problem)
  /-- The run broke off. -/
  | crashed (crash : Crash)
  deriving DecidableEq, Repr

/-- The exit code of an ending.  A run that breaks off has one of its own. -/
def Ending.exitCode : Ending → Nat
  | .help | .version | .success => 0
  | .misuse _ => 2
  | .failed problem => problem.exitCode
  | .crashed _ => 101

/-- What the user gets to see of a run, and how it ends. -/
structure Conclusion where
  ending : Ending
  stdout : String
  stderr : String
  deriving DecidableEq, Repr

namespace Conclusion

/-! ## Without an invocation -/

/-- The run that broke off.  The message is told here, and not what is put around it to say where
that was. -/
def ofCrash (crash : Crash) : Conclusion := ⟨.crashed crash, "", crash.message ++ "\n"⟩

/-- The run whose file of assignments was not loaded. -/
def ofHalt : Environment.Halt → Conclusion
  | .fault fault =>
    let problem := Problem.environmentFile environmentFile fault
    ⟨.failed problem, "", problem.plain false⟩
  | .crash crash => .ofCrash crash

/-- The version of the command. -/
def version : String := "0.1.0"

/-- What the user is told who asks for help.  This stands for the text that the reader of the
arguments makes of them: how that is worded and laid out is not said here. -/
def helpLines : List String :=
  [ "Usage: provkit [OPTIONS] [PNAME]",
    "",
    "Options:",
    "  -v, --verbose                 Increase verbosity (-v, -vv, -vvv)",
    "  -q, --quiet                   Suppress non-error output",
    "      --no-color                Disable colored output",
    "      --output-format <FORMAT>  Output format: auto, human, plain, json",
    "      --biqt-home <DIR>         BIQT installation directory",
    "      --dry-run                 Show what would be created without creating",
    "  -h, --help                    Print help",
    "  -V, --version                 Print version" ]

/-- What the user is told whose arguments make no sense.  This too stands for a text of the reader
of the arguments, of which only the start is the same. -/
def misuseText : Misuse → String
  | .unknownArgument => "error: unexpected argument\n"
  | .argumentConflict => "error: arguments exclude each other\n"
  | .invalidValue => "error: invalid value\n"
  | .tooManyValues => "error: unexpected value\n"
  | .invalidUtf8 => "error: invalid UTF-8\n"

/-- The run whose arguments ask for no invocation.  Output that cannot be written is no problem
here. -/
def ofStop (stop : Stop) (console : Console) : Conclusion :=
  match stop with
  | .help => ⟨.help, (console.write helpLines).1, ""⟩
  | .version => ⟨.version, (console.write ["provkit " ++ version]).1, ""⟩
  | .misuse misuse => ⟨.misuse misuse, "", misuseText misuse⟩

/-! ## With an invocation -/

/-- The run of an invocation that wrote a text and had some records, some of which a filter
shows. -/
def ofInvocation (invocation : Invocation) (filter : Log.Filter) (stdout : String)
    (records : List Log.Record) (problem : Option Problem) : Conclusion :=
  let log := Log.render filter
  match problem with
  | none =>
    ⟨.success, stdout, log (startRecord invocation :: records ++ [successRecord])⟩
  | some problem =>
    ⟨.failed problem, stdout,
      log (startRecord invocation :: records ++ problemRecords problem)
        ++ problem.plain (0 < invocation.verbosity)⟩

/-- The run of an invocation that comes to no request. -/
def ofRefusal (invocation : Invocation) (filter : Log.Filter) (problem : Problem) :
    Conclusion :=
  ofInvocation invocation filter "" [] (some problem)

/-- The run of a request whose script noted some events and came to an answer. -/
def ofAnswer (invocation : Invocation) (filter : Log.Filter) (console : Console)
    (request : Request) (events : List Event) (answer : Except Failure Report) : Conclusion :=
  let records := request.records events
  match answer with
  | .error failure => ofInvocation invocation filter "" records (some (.unmade failure))
  | .ok report =>
    let (stdout, problem) := console.show invocation report
    ofInvocation invocation filter stdout records problem

end Conclusion

end Scaffolding.Command
