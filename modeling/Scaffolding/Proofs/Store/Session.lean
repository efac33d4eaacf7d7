import Scaffolding.Proofs.Store.History
import Scaffolding.Proofs.Store.Recall
import Scaffolding.Proofs.Store.Spelling

/-!
# Sessions in memory

A session is a sequence of calls, each with its answer.  Two sessions that
differ in the spelling of paths only have answers that differ in that only,
and leave stores that do.  What is found in a store is the text that was
put there last, and a path keeps the spelling it was put there with first.

* `Call` lists the calls, `answers` and `afterCalls` carry them out.
* `Call.Respelled.answer` is one call, and `respelled_answers` the session.
* `spelling_session` is the result.
-/

namespace Scaffolding.Memory

open Store (Insertion)

variable {τ : Type} {load : Template → τ → Except Failure String × τ}

/-! ## Calls and answers -/

/-- A use of a memory. -/
inductive Call where
  | change (operation : Operation)
  | isDirectory (path : Path)
  | isPresent (path : Path)
  | read (path : Path)

/-- An answer to a call. -/
inductive Answer where
  | order (answer : Except Failure Unit)
  | report (answer : Except Failure Report)
  | seed (answer : Except Crash Unit)
  | truth (there : Bool)
  | text (answer : Except Crash (Option String))

namespace Call

/-- The answer to a call. -/
def answer (load : Template → τ → Except Failure String × τ) : Call → Memory × τ → Answer
  | change (.makeDirectory path), (memory, _) => .order (memory.makeDirectory path).1
  | change (.write path text), (memory, _) => .order (memory.write path text).1
  | change (.run task), state => .report (task.script.exec (surroundingsWith load) state).answer
  | change (.seed path text), (memory, _) => .seed (memory.seed path text).1
  | isDirectory path, (memory, _) => .truth (memory.isDirectory path)
  | isPresent path, (memory, _) => .truth (memory.isPresent path)
  | read path, (memory, _) => .text (memory.read path)

/-- The memory and the source of templates after a call. -/
def perform (load : Template → τ → Except Failure String × τ) (call : Call) (state : Memory × τ) :
    Memory × τ :=
  match call with
  | change operation => operation.perform load state
  | _ => state

/-- What is put into the store by a call. -/
def insertions (load : Template → τ → Except Failure String × τ) (call : Call)
    (state : Memory × τ) : List Insertion :=
  match call with
  | change operation => operation.insertions load state
  | _ => []

/-- Whether a call leaves the lock of the store poisoned. -/
def breaksOff : Call → Bool
  | change (.seed _ (.error _)) => true
  | _ => false

end Call

/-- The answers to some calls. -/
def answers (load : Template → τ → Except Failure String × τ) : List Call → Memory × τ → List Answer
  | [], _ => []
  | call :: rest, state => call.answer load state :: answers load rest (call.perform load state)

/-- The memory and the source of templates after some calls. -/
def afterCalls (load : Template → τ → Except Failure String × τ) (calls : List Call)
    (state : Memory × τ) : Memory × τ :=
  calls.foldl (fun state call => call.perform load state) state

/-- What is put into the store by some calls. -/
def insertions (load : Template → τ → Except Failure String × τ) :
    List Call → Memory × τ → List Insertion
  | [], _ => []
  | call :: rest, state =>
    call.insertions load state ++ insertions load rest (call.perform load state)

/-! ## Other spellings of the calls -/

/-- That two operations differ in the spelling of a path only. -/
inductive Operation.Respelled : Operation → Operation → Prop where
  | makeDirectory {path path' : Path} (hpath : path ≈ path') :
    Respelled (.makeDirectory path) (.makeDirectory path')
  | write {path path' : Path} (hpath : path ≈ path') (text : String) :
    Respelled (.write path text) (.write path' text)
  | run {task task' : Script.Task} (htask : task.Respelled task') :
    Respelled (.run task) (.run task')
  | seed {path path' : Path} (hpath : path ≈ path') (text : Except Crash String) :
    Respelled (.seed path text) (.seed path' text)

/-- That two calls differ in the spelling of a path only. -/
inductive Call.Respelled : Call → Call → Prop where
  | change {operation operation' : Operation} (hoperation : operation.Respelled operation') :
    Respelled (.change operation) (.change operation')
  | isDirectory {path path' : Path} (hpath : path ≈ path') :
    Respelled (.isDirectory path) (.isDirectory path')
  | isPresent {path path' : Path} (hpath : path ≈ path') :
    Respelled (.isPresent path) (.isPresent path')
  | read {path path' : Path} (hpath : path ≈ path') : Respelled (.read path) (.read path')

/-- That two answers differ in the spelling of paths only. -/
inductive Answer.Respelled : Answer → Answer → Prop where
  | order {answer answer' : Except Failure Unit}
      (hanswer : Likeness.spelling.Answers Eq answer answer') :
    Respelled (.order answer) (.order answer')
  | report {answer answer' : Except Failure Report}
      (hanswer : Likeness.spelling.Answers Report.Respelled answer answer') :
    Respelled (.report answer) (.report answer')
  | seed {answer answer' : Except Crash Unit} (hanswer : answer = answer') :
    Respelled (.seed answer) (.seed answer')
  | truth {there there' : Bool} (hthere : there = there') : Respelled (.truth there) (.truth there')
  | text {answer answer' : Except Crash (Option String)} (hanswer : answer = answer') :
    Respelled (.text answer) (.text answer')

/-- A call is answered the same under every spelling, and leaves the same. -/
theorem Call.Respelled.answer {call call' : Call} (hcalls : call.Respelled call')
    {state state' : Memory × τ} (hstates : StatesRespelled state state') :
    (call.answer load state).Respelled (call'.answer load state') ∧
      StatesRespelled (call.perform load state) (call'.perform load state') := by
  obtain ⟨memory, source⟩ := state
  obtain ⟨memory', _⟩ := state'
  obtain ⟨hmemories, rfl⟩ := hstates
  have hstates : StatesRespelled (memory, source) (memory', source) := ⟨hmemories, rfl⟩
  have haround := around_surroundings load
  cases hcalls with
  | change hoperation =>
    cases hoperation with
    | makeDirectory hpath =>
      obtain ⟨hanswer, hafter⟩ := haround.makeDirectory hpath hstates
      exact ⟨.order hanswer, hafter⟩
    | write hpath text =>
      obtain ⟨hanswer, hafter⟩ := haround.write text hpath hstates
      exact ⟨.order hanswer, hafter⟩
    | run htask =>
      obtain ⟨-, hanswer, hafter⟩ := Likeness.exec haround htask.scripts hstates
      exact ⟨.report hanswer, hafter⟩
    | seed hpath text =>
      obtain ⟨hanswer, hafter⟩ := hmemories.seed hpath text
      exact ⟨.seed hanswer, hafter, rfl⟩
  | isDirectory hpath => exact ⟨.truth (haround.isDirectory hpath hstates).1, hstates⟩
  | isPresent hpath => exact ⟨.truth (haround.isPresent hpath hstates).1, hstates⟩
  | read hpath => exact ⟨.text (hmemories.read_eq hpath), hstates⟩

theorem respelled_answers {calls calls' : List Call}
    (hcalls : List.Forall₂ Call.Respelled calls calls') {state state' : Memory × τ}
    (hstates : StatesRespelled state state') :
    List.Forall₂ Answer.Respelled (answers load calls state) (answers load calls' state') ∧
      StatesRespelled (afterCalls load calls state) (afterCalls load calls' state') := by
  induction hcalls generalizing state state' with
  | nil => exact ⟨.nil, hstates⟩
  | cons hcall _ ih =>
    obtain ⟨hanswer, hafter⟩ := hcall.answer hstates
    exact (ih hafter).imp_left (.cons hanswer)

/-! ## What is remembered -/

theorem store_afterCalls (calls : List Call) (state : Memory × τ) :
    (afterCalls load calls state).1.store.value =
      state.1.store.value.after (insertions load calls state) := by
  induction calls generalizing state with
  | nil => rfl
  | cons call rest ih =>
    have hcall : (call.perform load state).1.store.value =
        state.1.store.value.after (call.insertions load state) := by
      cases call with
      | change operation => exact store_perform load operation state
      | isDirectory path | isPresent path | read path => rfl
    unfold insertions
    rw [Store.after_append, ← hcall]
    exact ih (call.perform load state)

theorem isPoisoned_order (memory : Memory) (change : Store → Except Failure Store) :
    (memory.order change).2.store.isPoisoned = memory.store.isPoisoned := by
  rcases memory.order_cases change with ⟨store, -, hdone⟩ | ⟨failure, hkept⟩
  · rw [hdone]
    rfl
  · rw [hkept]

theorem preserves_isPoisoned (isPoisoned : Bool) :
    surroundings.Preserves (·.store.isPoisoned = isPoisoned) where
  isDirectory _ hlock := hlock
  isPresent _ hlock := hlock
  makeDirectory _ hlock := (isPoisoned_order _ _).trans hlock
  write _ _ hlock := (isPoisoned_order _ _).trans hlock
  load _ hlock := hlock

theorem isPoisoned_exec {α : Type} (script : Script α) (state : Memory × τ) :
    (script.exec (surroundingsWith load) state).state.1.store.isPoisoned =
      state.1.store.isPoisoned :=
  Script.exec_preserves (preserves_surroundingsWith (preserves_isPoisoned _) load) script rfl

theorem isPoisoned_perform (call : Call) (state : Memory × τ) :
    (call.perform load state).1.store.isPoisoned =
      (state.1.store.isPoisoned || call.breaksOff) := by
  cases call with
  | isDirectory path | isPresent path | read path => exact (Bool.or_false _).symm
  | change operation =>
    cases operation with
    | makeDirectory path | write path text =>
      exact (isPoisoned_order _ _).trans (Bool.or_false _).symm
    | run task => exact (isPoisoned_exec task.script state).trans (Bool.or_false _).symm
    | seed path text =>
      obtain ⟨⟨⟨store, isPoisoned⟩, shelf⟩, source⟩ := state
      cases isPoisoned with
      | true => rfl
      | false =>
        cases text with
        | ok text => rfl
        | error crash => rfl

/-- The lock is poisoned from the first call on that breaks off. -/
theorem isPoisoned_afterCalls (calls : List Call) (state : Memory × τ) :
    (afterCalls load calls state).1.store.isPoisoned =
      (state.1.store.isPoisoned || calls.any Call.breaksOff) := by
  induction calls generalizing state with
  | nil => exact (Bool.or_false _).symm
  | cons call rest ih =>
    rw [List.any_cons, ← Bool.or_assoc, ← isPoisoned_perform]
    exact ih (call.perform load state)

/-! ## The result -/

section Session

variable (load) (shelf : Guarded Shelf) (source : τ)

/-- Sessions on fresh stores that differ in the spelling of paths only have answers that differ in
that only, and leave the same directories and files under other spellings.  A text that is read is
the last that was put there under any spelling, unless a call broke off before.  A path that is
stored is the first spelling that was put there. -/
theorem spelling_session {calls calls' : List Call}
    (hcalls : List.Forall₂ Call.Respelled calls calls') :
    let start : Memory × τ := (⟨.fresh .empty, shelf⟩, source)
    let memory := (afterCalls load calls start).1
    let memory' := (afterCalls load calls' start).1
    let done := insertions load calls start
    List.Forall₂ Answer.Respelled (answers load calls start) (answers load calls' start) ∧
      List.Forall₂ (· ≈ ·) memory.store.value.listDirectories memory'.store.value.listDirectories ∧
      List.Forall₂ (fun file file' => file.1 ≈ file'.1 ∧ file.2 = file'.2)
        memory.store.value.listFiles memory'.store.value.listFiles ∧
      (∀ path, memory.read path =
        if calls.any Call.breaksOff then .error Guarded.poisonCrash
        else .ok (Store.lastText? done path)) ∧
      (∀ key : Path, key ∈ memory.store.value.files.map (·.1) →
        (done.filterMap Insertion.file?).find? (· ≈ key) = some key) ∧
      ∀ key : Path, key ∈ memory.store.value.directories →
        (done.filterMap Insertion.directory?).find? (· ≈ key) = some key := by
  intro start memory memory' done
  have hstart : StatesRespelled start start := ⟨⟨⟨rfl, rfl⟩, rfl, rfl⟩, rfl⟩
  have hstore : memory.store.value = Store.empty.after done := store_afterCalls calls start
  have hlock : memory.store.isPoisoned = calls.any Call.breaksOff :=
    isPoisoned_afterCalls calls start
  obtain ⟨hanswers, hafter⟩ := respelled_answers hcalls hstart
  refine ⟨hanswers, hafter.memory.store.listDirectories, hafter.memory.store.listFiles, ?_, ?_, ?_⟩
  · intro path
    unfold read Guarded.view
    rw [hlock, hstore]
    simp only [Store.read?_after]
  · rw [hstore]
    exact fun key => Store.find?_of_mem_files_after
  · rw [hstore]
    exact fun key => Store.find?_of_mem_directories_after

end Session

/-- A file that is seeded, written again and read, each time as spelled otherwise, beside a provider
below a root with a slash more: the sessions have the same answers, the last text is read, and the
first spelling is stored. -/
theorem spelling_session_of_slashes :
    let load : Template → Unit → Except Failure String × Unit := fun _ source => (.ok "text", source)
    let calls : List Call :=
      [.change (.seed (.ofText "a/f") (.ok "one")), .change (.write (.ofText "a//f/") "two"),
        .change (.run (.scaffold Script.shortNamed (.ofText "a"))), .read (.ofText "a/./f")]
    let calls' : List Call :=
      [.change (.seed (.ofText "a//./f") (.ok "one")), .change (.write (.ofText "a/f") "two"),
        .change (.run (.scaffold Script.shortNamed (.ofText "a/"))), .read (.ofText "a/f")]
    let start : Memory × Unit := (⟨.fresh .empty, .fresh .empty⟩, ())
    let memory := (afterCalls load calls start).1
    List.Forall₂ Answer.Respelled (answers load calls start) (answers load calls' start) ∧
      memory.read (.ofText "a/f//") = .ok (some "two") ∧
      Path.ofText "a/f" ∈ memory.store.value.files.map (·.1) := by
  intro load calls calls' start memory
  have hcalls : List.Forall₂ Call.Respelled calls calls' :=
    .cons (.change (.seed (by decide +kernel) _)) <|
      .cons (.change (.write (by decide +kernel) _)) <|
      .cons (.change (.run (.scaffold _ (by decide +kernel)))) <|
      .cons (.read (by decide +kernel)) .nil
  obtain ⟨hanswers, -, -, hread, -, -⟩ := spelling_session load (.fresh .empty) () hcalls
  refine ⟨hanswers, (hread _).trans ?_, ?_⟩
  · decide +kernel
  · decide +kernel

end Scaffolding.Memory
