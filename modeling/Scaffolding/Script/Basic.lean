import Scaffolding.Failure
import Scaffolding.Provider.Template

/-!
# Scripts

A script asks its surroundings one question after another, gives them one order after another, and
goes on according to the answers.  An order that fails ends the script with that failure.  Between
questions a script notes what it did.

- `Script` is the type of scripts;
- `Surroundings` answer questions and obey orders, and may change with each;
- `Script.exec` runs a script to its end and keeps what was asked and answered;
- `Script.step?` runs a script as far as the next answer, so that scripts can take turns.
-/

namespace Scaffolding

/-- What a script notes. -/
inductive Event where
  /-- The directory was there already. -/
  | directoryFound (path : Path)
  /-- The directory was made. -/
  | directoryMade (path : Path)
  /-- The file was there already. -/
  | fileSkipped (path : Path)
  /-- The template is about to be read. -/
  | templateRead (template : Template)
  /-- The file was made from the template, and has so many bytes. -/
  | fileMade (template : Template) (path : Path) (bytes : Nat)
  /-- Everything is in place: so many sites were made, and so many were there already. -/
  | completed (created skipped : Nat)
  deriving DecidableEq, Repr

/-- A script that ends with an `α` unless an order fails. -/
inductive Script (α : Type) where
  /-- The end. -/
  | done (answer : α)
  /-- Whether there is a directory at the path. -/
  | isDirectory (path : Path) (next : Bool → Script α)
  /-- Whether there is anything at the path. -/
  | isPresent (path : Path) (next : Bool → Script α)
  /-- Make sure that there is a directory at the path. -/
  | makeDirectory (path : Path) (next : Script α)
  /-- Put a file with this text at the path. -/
  | write (path : Path) (text : String) (next : Script α)
  /-- The text of the template. -/
  | load (template : Template) (next : String → Script α)
  /-- Note an event. -/
  | note (event : Event) (next : Script α)

/-- Whatever answers the questions of a script and obeys its orders.  The state may change with
every question. -/
structure Surroundings (σ : Type) where
  isDirectory : Path → σ → Bool × σ
  isPresent : Path → σ → Bool × σ
  makeDirectory : Path → σ → Except Failure Unit × σ
  write : Path → String → σ → Except Failure Unit × σ
  load : Template → σ → Except Failure String × σ

/-- Surroundings that no question and no order changes. -/
def Surroundings.unchanging (isDirectory isPresent : Path → Bool)
    (makeDirectory write : Path → Except Failure Unit)
    (load : Template → Except Failure String) : Surroundings Unit where
  isDirectory path state := (isDirectory path, state)
  isPresent path state := (isPresent path, state)
  makeDirectory path state := (makeDirectory path, state)
  write path _ state := (write path, state)
  load template state := (load template, state)

/-- A question or an order with its answer, or an event that was noted. -/
inductive Act where
  | isDirectory (path : Path) (answer : Bool)
  | isPresent (path : Path) (answer : Bool)
  | makeDirectory (path : Path) (answer : Except Failure Unit)
  | write (path : Path) (text : String) (answer : Except Failure Unit)
  | load (template : Template) (answer : Except Failure String)
  | note (event : Event)

/-- The events among some acts. -/
def Act.events (acts : List Act) : List Event :=
  acts.filterMap fun
    | .note event => some event
    | _ => none

/-- The questions and orders among some acts. -/
def Act.calls (acts : List Act) : List Act :=
  acts.filter fun
    | .note _ => false
    | _ => true

/-- What came of running a script. -/
structure Run (σ α : Type) where
  acts : List Act
  answer : Except Failure α
  state : σ

/-- The run that does one more act at its start. -/
def Run.after {σ α : Type} (act : Act) (run : Run σ α) : Run σ α :=
  { run with acts := act :: run.acts }

namespace Script

variable {σ α : Type}

/-- Runs a script to its end. -/
def exec (around : Surroundings σ) : Script α → σ → Run σ α
  | .done answer, state => ⟨[], .ok answer, state⟩
  | .isDirectory path next, state =>
    let (answer, state) := around.isDirectory path state
    (exec around (next answer) state).after (.isDirectory path answer)
  | .isPresent path next, state =>
    let (answer, state) := around.isPresent path state
    (exec around (next answer) state).after (.isPresent path answer)
  | .makeDirectory path next, state =>
    match around.makeDirectory path state with
    | (.ok answer, state) => (exec around next state).after (.makeDirectory path (.ok answer))
    | (.error failure, state) =>
      ⟨[.makeDirectory path (.error failure)], .error failure, state⟩
  | .write path text next, state =>
    match around.write path text state with
    | (.ok answer, state) => (exec around next state).after (.write path text (.ok answer))
    | (.error failure, state) => ⟨[.write path text (.error failure)], .error failure, state⟩
  | .load template next, state =>
    match around.load template state with
    | (.ok text, state) => (exec around (next text) state).after (.load template (.ok text))
    | (.error failure, state) => ⟨[.load template (.error failure)], .error failure, state⟩
  | .note event next, state => (exec around next state).after (.note event)

/-- Runs a script as far as its next act: the act, what is left of the script unless it failed, and
the state afterwards. -/
def step? (around : Surroundings σ) :
    Script α → σ → Option (Act × Except Failure (Script α) × σ)
  | .done _, _ => none
  | .isDirectory path next, state =>
    let (answer, state) := around.isDirectory path state
    some (.isDirectory path answer, .ok (next answer), state)
  | .isPresent path next, state =>
    let (answer, state) := around.isPresent path state
    some (.isPresent path answer, .ok (next answer), state)
  | .makeDirectory path next, state =>
    let (answer, state) := around.makeDirectory path state
    some (.makeDirectory path answer, answer.map fun _ => next, state)
  | .write path text next, state =>
    let (answer, state) := around.write path text state
    some (.write path text answer, answer.map fun _ => next, state)
  | .load template next, state =>
    let (answer, state) := around.load template state
    some (.load template answer, answer.map next, state)
  | .note event next, state => some (.note event, .ok next, state)

/-- A run is its first step and the run of what is left. -/
theorem exec_of_step {around : Surroundings σ} {script : Script α} {state state' : σ} {act : Act}
    {next : Except Failure (Script α)}
    (hstep : script.step? around state = some (act, next, state')) :
    script.exec around state =
      match next with
      | .ok rest => (rest.exec around state').after act
      | .error failure => ⟨[act], .error failure, state'⟩ := by
  cases script with
  | done => simp [step?] at hstep
  | isDirectory path rest => cases hstep; rfl
  | isPresent path rest => cases hstep; rfl
  | note event rest => cases hstep; rfl
  | makeDirectory path rest =>
    rcases hanswer : around.makeDirectory path state with ⟨_ | _, _⟩ <;>
      simp only [step?, hanswer] at hstep <;> cases hstep <;> simp [exec, hanswer, Except.map]
  | write path text rest =>
    rcases hanswer : around.write path text state with ⟨_ | _, _⟩ <;>
      simp only [step?, hanswer] at hstep <;> cases hstep <;> simp [exec, hanswer, Except.map]
  | load template rest =>
    rcases hanswer : around.load template state with ⟨_ | _, _⟩ <;>
      simp only [step?, hanswer] at hstep <;> cases hstep <;> simp [exec, hanswer, Except.map]

end Script

end Scaffolding
