import Scaffolding.Command.Invocation
import Scaffolding.Environment.Basic

/-!
# Reading the arguments

The words of a command line are read from left to right.  A word is a long option (`--name` or
`--name=value`), a cluster of short switches (`-vq`), a value for the option before it, or the name
of the provider; behind the word `--` every word is a plain one.

Values are settled late: a value is checked when the next switch or option is read, or at the end.
So of two faults it is not always the one further left that is reported.  The environment is asked
last, for the options that the words do not give.
-/

namespace Scaffolding.Command.Arguments

/-! ## What can be given -/

/-- What needs no value. -/
inductive Switch where
  | verbose
  | quiet
  | noColour
  | dryRun
  | help
  | version
  deriving DecidableEq, Repr

/-- What takes a value. -/
inductive Slot where
  /-- The name of the provider, the only value without an option. -/
  | name
  | home
  | format
  deriving DecidableEq, Repr

/-- The long name of a switch. -/
def Switch.long : Switch → String
  | .verbose => "verbose"
  | .quiet => "quiet"
  | .noColour => "no-color"
  | .dryRun => "dry-run"
  | .help => "help"
  | .version => "version"

/-- The letter of a switch, if it has one. -/
def Switch.short? : Switch → Option Char
  | .verbose => some 'v'
  | .quiet => some 'q'
  | .help => some 'h'
  | .version => some 'V'
  | .noColour | .dryRun => none

/-- The long name of an option. -/
def Slot.long? : Slot → Option String
  | .home => some "biqt-home"
  | .format => some "output-format"
  | .name => none

/-- The switches. -/
def Switch.all : List Switch := [.verbose, .quiet, .noColour, .dryRun, .help, .version]

/-- What is wrong with the arguments. -/
inductive Misuse where
  /-- An option or a word that nothing asks for. -/
  | unknownArgument
  /-- The same thing twice, or two things that exclude each other. -/
  | argumentConflict
  /-- No value, or not one of the values to choose from. -/
  | invalidValue
  /-- A value for a switch. -/
  | tooManyValues
  /-- A value that is no text. -/
  | invalidUtf8
  deriving DecidableEq, Repr

/-- Why the reading of the arguments ended without an invocation. -/
inductive Stop where
  | help
  | version
  | misuse (misuse : Misuse)
  deriving DecidableEq, Repr

/-! ## Words -/

/-- A word of the command line. -/
inductive Word where
  /-- The word `--`. -/
  | divider
  /-- `--name` or `--name=value`. -/
  | long (name : Bytes) (value : Option Bytes)
  /-- A dash and at least one letter. -/
  | cluster (letters : List (Option Char))
  /-- Any other word, `-` among them. -/
  | plain (value : Bytes)
  deriving DecidableEq, Repr

/-- The byte that starts an option. -/
def dash : UInt8 := 0x2D

/-- The byte between an option and its value. -/
def equals : UInt8 := 0x3D

/-- The kind of a word. -/
def Word.of (word : Bytes) : Word :=
  match word with
  | first :: second :: rest =>
    if first ≠ dash then .plain word
    else if second ≠ dash then .cluster (Text.pieces (second :: rest))
    else if rest = [] then .divider
    else
      let name := rest.takeWhile (· ≠ equals)
      match rest.dropWhile (· ≠ equals) with
      | [] => .long name none
      | _ :: value => .long name (some value)
  | word => .plain word

/-! ## Reading -/

/-- A value that was read and is not settled yet; an option may still wait for its value. -/
structure Pending where
  slot : Slot
  value : Option Bytes
  deriving DecidableEq, Repr

/-- What was read so far. -/
structure Reading where
  name : Option String
  home : Option String
  format : Option Format
  dryRun : Bool
  quiet : Bool
  noColour : Bool
  verbosity : Nat
  pending : Option Pending
  /-- The name of the provider was read, settled or not. -/
  isNamed : Bool
  /-- The word `--` was read. -/
  isDivided : Bool
  deriving DecidableEq, Repr

namespace Reading

/-- Nothing was read yet. -/
def start : Reading where
  name := none
  home := none
  format := none
  dryRun := false
  quiet := false
  noColour := false
  verbosity := 0
  pending := none
  isNamed := false
  isDivided := false

/-- A value that is text. -/
def asText (value : Bytes) : Except Stop String :=
  match Text.decode? value with
  | some text => .ok text
  | none => .error (.misuse .invalidUtf8)

/-- A value that is the word for a format. -/
def asFormat (value : Bytes) : Except Stop Format :=
  match (Text.decode? value).bind Format.ofWord? with
  | some format => .ok format
  | none => .error (.misuse .invalidValue)

/-- Whether a slot is filled. -/
def isFilled (reading : Reading) : Slot → Bool
  | .name => reading.name.isSome
  | .home => reading.home.isSome
  | .format => reading.format.isSome

/-- Fills a slot, unless it is filled already or the value is none for it. -/
def fill (reading : Reading) (slot : Slot) (value : Bytes) : Except Stop Reading :=
  if reading.isFilled slot then .error (.misuse .argumentConflict)
  else
    match slot with
    | .name => (asText value).map fun text => { reading with name := some text }
    | .home => (asText value).map fun text => { reading with home := some text }
    | .format => (asFormat value).map fun format => { reading with format := some format }

/-- Settles the pending value. -/
def settle (reading : Reading) : Except Stop Reading :=
  match reading.pending with
  | none => .ok reading
  | some ⟨_, none⟩ => .error (.misuse .invalidValue)
  | some ⟨slot, some value⟩ => { reading with pending := none }.fill slot value

/-- The greatest verbosity; more does not count. -/
def maxVerbosity : Nat := 255

/-- Turns a switch on.  Only the verbosity can be turned up again. -/
def turn (reading : Reading) (switch : Switch) : Except Stop Reading := do
  let reading ← reading.settle
  match switch with
  | .help => .error .help
  | .version => .error .version
  | .verbose => .ok { reading with verbosity := min maxVerbosity (reading.verbosity + 1) }
  | .quiet =>
    if reading.quiet then .error (.misuse .argumentConflict) else .ok { reading with quiet := true }
  | .noColour =>
    if reading.noColour then .error (.misuse .argumentConflict)
    else .ok { reading with noColour := true }
  | .dryRun =>
    if reading.dryRun then .error (.misuse .argumentConflict)
    else .ok { reading with dryRun := true }

/-- Reads an option, with the value that came in the same word. -/
def option (reading : Reading) (slot : Slot) (value : Option Bytes) : Except Stop Reading := do
  let reading ← reading.settle
  match value with
  | some value => reading.fill slot value
  | none => .ok { reading with pending := some ⟨slot, none⟩ }

/-- Reads a long option. -/
def long (reading : Reading) (name : Bytes) (value : Option Bytes) : Except Stop Reading :=
  match Switch.all.find? fun switch => Text.encode switch.long = name with
  | some switch =>
    if value.isSome then .error (.misuse .tooManyValues) else reading.turn switch
  | none =>
    match [Slot.home, Slot.format].find? fun slot => slot.long?.map Text.encode = some name with
    | some slot => reading.option slot value
    | none => .error (.misuse .unknownArgument)

/-- Reads a cluster of short switches. -/
def cluster (reading : Reading) : List (Option Char) → Except Stop Reading
  | [] => .ok reading
  | letter :: rest =>
    match Switch.all.find? fun switch => switch.short?.isSome && switch.short? = letter with
    | some switch => do (← reading.turn switch).cluster rest
    | none => .error (.misuse .unknownArgument)

/-- Reads a word that is no option: the value that an option waits for, or the provider's name. -/
def plain (reading : Reading) (value : Bytes) : Except Stop Reading :=
  match reading.pending with
  | some ⟨slot, none⟩ =>
    if reading.isDivided then named else .ok { reading with pending := some ⟨slot, some value⟩ }
  | _ => named
where
  /-- The word is the provider's name. -/
  named : Except Stop Reading :=
    if reading.isNamed then .error (.misuse .unknownArgument)
    else do
      let reading ← reading.settle
      .ok { reading with pending := some ⟨.name, some value⟩, isNamed := true }

/-- Reads a word. -/
def word (reading : Reading) (bytes : Bytes) : Except Stop Reading :=
  if reading.isDivided then reading.plain bytes
  else
    match Word.of bytes with
    | .divider => .ok { reading with isDivided := true }
    | .long name value => reading.long name value
    | .cluster letters => reading.cluster letters
    | .plain value => reading.plain value

end Reading

/-! ## The environment -/

/-- The variable that names the home of the installation. -/
def homeVariable : String := "BIQT_HOME"

/-- The variable that forbids colour. -/
def noColourVariable : String := "NO_COLOR"

/-- The words that mean no, apart from no word at all. -/
def falseWords : List String := ["n", "no", "f", "false", "off", "0"]

/-- Whether a text means yes. -/
def isAffirmative (text : String) : Bool :=
  text ≠ "" && !falseWords.contains (String.ofList (text.toList.map Char.toLower))

/-- What a variable says, where what was read does not say it already. -/
def consult {α : Type} (environment : Environment) (variableName : String) (read : Option α)
    (meaning : String → α) : Except Stop (Option α) :=
  match read, environment.get? variableName with
  | some value, _ => .ok (some value)
  | none, none => .ok none
  | none, some value => (Reading.asText value).map fun text => some (meaning text)

/-- The invocation that words ask for in an environment. -/
def parse (words : List Bytes) (environment : Environment) : Except Stop Invocation := do
  let reading ← words.foldlM Reading.word Reading.start
  let reading ← reading.settle
  let given := if reading.noColour then some true else none
  let noColour ← consult environment noColourVariable given isAffirmative
  let home ← consult environment homeVariable reading.home id
  if reading.quiet && 0 < reading.verbosity then .error (.misuse .argumentConflict)
  else
    .ok
      { name := reading.name
        home
        dryRun := reading.dryRun
        quiet := reading.quiet
        noColour := noColour.getD false
        verbosity := reading.verbosity
        format := reading.format.getD .auto }

end Scaffolding.Command.Arguments
