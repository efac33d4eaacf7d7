import Scaffolding.Command.Arguments
import Scaffolding.Command.Conclusion
import Scaffolding.Command.Console
import Scaffolding.Command.Invocation
import Scaffolding.Command.Problem
import Scaffolding.Command.Records
import Scaffolding.Command.Request
import Scaffolding.Command.Run
import Scaffolding.Disk.Answer
import Scaffolding.Disk.Basic
import Scaffolding.Disk.Fault
import Scaffolding.Disk.Files
import Scaffolding.Disk.Surroundings
import Scaffolding.Disk.Walk
import Scaffolding.Environment.Assignment
import Scaffolding.Environment.Basic
import Scaffolding.Environment.Fault
import Scaffolding.Environment.File
import Scaffolding.Environment.Lines
import Scaffolding.Failure
import Scaffolding.Installation
import Scaffolding.Json.Basic
import Scaffolding.Json.Reader
import Scaffolding.Json.Spelling
import Scaffolding.Json.Token
import Scaffolding.Log.Filter
import Scaffolding.Log.Level
import Scaffolding.Log.Record
import Scaffolding.Log.Rule
import Scaffolding.Main
import Scaffolding.Path.Ancestors
import Scaffolding.Path.Basic
import Scaffolding.Pattern.Atom
import Scaffolding.Pattern.Basic
import Scaffolding.Pattern.Bracket
import Scaffolding.Pattern.CharSet
import Scaffolding.Pattern.Modes
import Scaffolding.Pattern.Reader
import Scaffolding.Pattern.Search
import Scaffolding.Pattern.Whole
import Scaffolding.Proofs.Disk.Built
import Scaffolding.Proofs.Disk.Extension
import Scaffolding.Proofs.Disk.Foresight
import Scaffolding.Proofs.Disk.Growth
import Scaffolding.Proofs.Disk.Home
import Scaffolding.Proofs.Path.Join
import Scaffolding.Proofs.Provider.Layout
import Scaffolding.Proofs.Script.Discipline
import Scaffolding.Proofs.Store.Scaffold
import Scaffolding.Provider.Layout
import Scaffolding.Provider.Name
import Scaffolding.Provider.Template
import Scaffolding.Report.Basic
import Scaffolding.Report.Json
import Scaffolding.Report.Lines
import Scaffolding.Report.Reader
import Scaffolding.Script.Basic
import Scaffolding.Script.Scaffold
import Scaffolding.Store.Basic
import Scaffolding.Store.Guarded
import Scaffolding.Store.Memory
import Scaffolding.Text.Alphanumeric
import Scaffolding.Text.Blank
import Scaffolding.Text.Colour
import Scaffolding.Text.Invisible
import Scaffolding.Text.Quoted
import Scaffolding.Text.Ranges
import Scaffolding.Text.Substitution
import Scaffolding.Text.Utf8
import Scaffolding.Text.Utf8.RoundTrip
import Scaffolding.Proofs.Disk.Confinement
import Scaffolding.Proofs.Disk.Depiction
import Scaffolding.Proofs.Store.Resume
import Scaffolding.Proofs.Script.Turns
import Scaffolding.Proofs.Store.Convergence
import Scaffolding.Proofs.Path.Ancestors
import Scaffolding.Proofs.Provider.Separation
import Scaffolding.Proofs.Script.Invariant
import Scaffolding.Proofs.Store.History
import Scaffolding.Proofs.Store.WellFormed
import Scaffolding.Proofs.Disk.Stop
import Scaffolding.Proofs.Command.Stages
import Scaffolding.Proofs.Command.ExitCode
import Scaffolding.Proofs.Environment.Blank
import Scaffolding.Proofs.Command.Diagnostic
import Scaffolding.Proofs.Command.Home
import Scaffolding.Proofs.Command.Showing
import Scaffolding.Proofs.Environment.Faults
import Scaffolding.Proofs.Report.RoundTrip
import Scaffolding.Proofs.Path.Spelling
import Scaffolding.Proofs.Script.Likeness
import Scaffolding.Proofs.Script.Respelling
import Scaffolding.Proofs.Store.Recall
import Scaffolding.Proofs.Store.Session
import Scaffolding.Proofs.Store.Spelling
import Scaffolding.Proofs.Disk.Lasting
import Scaffolding.Proofs.Text.Overlap
import Scaffolding.Proofs.Text.Substitution
import Scaffolding.Proofs.Provider.Instantiation
import Scaffolding.Proofs.Store.Foresight
import Scaffolding.Text.Runs
import Scaffolding.Proofs.Text.Locality
import Scaffolding.Proofs.Provider.Locality
import Scaffolding.Proofs.Script.Concurrence
import Scaffolding.Proofs.Store.Poison
import Scaffolding.Report.Plain
import Scaffolding.Proofs.Report.Plain
import Scaffolding.Proofs.Command.Plain
import Scaffolding.Proofs.Disk.Breaking
import Scaffolding.Proofs.Command.Templates
import Scaffolding.Proofs.Provider.Grammar
import Scaffolding.Proofs.Text.Colour
import Scaffolding.Proofs.Command.Colour
import Scaffolding.Proofs.Script.Chronicle
import Scaffolding.Proofs.Disk.Written
import Scaffolding.Proofs.Command.Log
import Scaffolding.Proofs.Command.Settling
import Scaffolding.Proofs.Command.Phrases
import Scaffolding.Proofs.Command.Order
import Scaffolding.Proofs.Path.Order
import Scaffolding.Proofs.Store.Listing
import Scaffolding.Proofs.Store.Seeding
import Scaffolding.Proofs.Log.Rules
