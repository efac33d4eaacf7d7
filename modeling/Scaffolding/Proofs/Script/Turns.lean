import Mathlib.Algebra.GroupWithZero.Nat
import Mathlib.Data.List.Count
import Mathlib.Logic.Function.Basic
import Scaffolding.Proofs.Script.Tour

/-!
# Scripts that take turns

Several scripts can be on their way at once in the same surroundings.  Each
act is a turn, and a schedule says whose turn it is.  A script that came to
its end lets its turns pass.

* `takeTurns` runs scripts according to a schedule, and
  `takeTurns_induction` carries an invariant from one turn to the next.
* `Script.EndsWithin` bounds the acts of a script.
  `isSome_answer?_of_count` says that a script which had that many turns
  came to its end, whatever the others did.
* `takeTurns_replicate` says that a script which has all the turns runs as
  it does alone.
-/

namespace Scaffolding

variable {σ α ι : Type} {around : Surroundings σ}

/-! ## Threads -/

/-- A script that is on its way: the acts behind it, and what is left of it unless it failed. -/
structure Thread (α : Type) where
  acts : List Act
  rest : Except Failure (Script α)

namespace Thread

/-- A script that has not begun. -/
def start (script : Script α) : Thread α := ⟨[], .ok script⟩

/-- How a thread ended, if it did. -/
def answer? (thread : Thread α) : Option (Except Failure α) :=
  match thread.rest with
  | .ok (.done answer) => some (.ok answer)
  | .ok _ => none
  | .error failure => some (.error failure)

/-- The thread after its next act. -/
def advance (around : Surroundings σ) (thread : Thread α) (state : σ) : Thread α × σ :=
  match thread.rest with
  | .ok script =>
    match script.step? around state with
    | some (act, rest, state) => (⟨thread.acts ++ [act], rest⟩, state)
    | none => (thread, state)
  | .error _ => (thread, state)

variable {thread : Thread α} {state : σ}

theorem advance_of_step {script : Script α} {act : Act} {rest : Except Failure (Script α)}
    {state' : σ} (hrest : thread.rest = .ok script)
    (hstep : script.step? around state = some (act, rest, state')) :
    thread.advance around state = (⟨thread.acts ++ [act], rest⟩, state') := by
  unfold advance
  rw [hrest]
  simp only [hstep]

theorem advance_of_done {answer : α} (hrest : thread.rest = .ok (.done answer)) :
    thread.advance around state = (thread, state) := by
  unfold advance
  rw [hrest]
  rfl

theorem advance_of_error {failure : Failure} (hrest : thread.rest = .error failure) :
    thread.advance around state = (thread, state) := by
  unfold advance
  rw [hrest]

theorem acts_isPrefix_advance : thread.acts <+: (thread.advance around state).1.acts := by
  unfold advance
  split
  · split
    · exact List.prefix_append _ _
    · exact List.prefix_refl _
  · exact List.prefix_refl _

section Turn

variable (acts : List Act) (path : Path) (state : σ)

theorem advance_isDirectory (next : Bool → Script α) :
    (⟨acts, .ok (.isDirectory path next)⟩ : Thread α).advance around state =
      let (there, state) := around.isDirectory path state
      (⟨acts ++ [.isDirectory path there], .ok (next there)⟩, state) := rfl

theorem advance_isPresent (next : Bool → Script α) :
    (⟨acts, .ok (.isPresent path next)⟩ : Thread α).advance around state =
      let (there, state) := around.isPresent path state
      (⟨acts ++ [.isPresent path there], .ok (next there)⟩, state) := rfl

theorem advance_makeDirectory (next : Script α) :
    (⟨acts, .ok (.makeDirectory path next)⟩ : Thread α).advance around state =
      let (answer, state) := around.makeDirectory path state
      (⟨acts ++ [.makeDirectory path answer], answer.map fun _ => next⟩, state) := rfl

theorem advance_write (text : String) (next : Script α) :
    (⟨acts, .ok (.write path text next)⟩ : Thread α).advance around state =
      let (answer, state) := around.write path text state
      (⟨acts ++ [.write path text answer], answer.map fun _ => next⟩, state) := rfl

theorem advance_load (template : Template) (next : String → Script α) :
    (⟨acts, .ok (.load template next)⟩ : Thread α).advance around state =
      let (answer, state) := around.load template state
      (⟨acts ++ [.load template answer], answer.map next⟩, state) := rfl

theorem advance_note (event : Event) (next : Script α) :
    (⟨acts, .ok (.note event next)⟩ : Thread α).advance around state =
      (⟨acts ++ [.note event], .ok next⟩, state) := rfl

end Turn

end Thread

/-- The threads and the state after the turns of a schedule. -/
def takeTurns [DecidableEq ι] (around : Surroundings σ) :
    List ι → (ι → Thread α) → σ → (ι → Thread α) × σ
  | [], threads, state => (threads, state)
  | turn :: turns, threads, state =>
    let (thread, state) := (threads turn).advance around state
    takeTurns around turns (Function.update threads turn thread) state

section Schedule

variable [DecidableEq ι] {threads : ι → Thread α} {state : σ}

/-- What each turn keeps, a schedule keeps. -/
theorem takeTurns_induction {kept : (ι → Thread α) → σ → Prop}
    (hturn : ∀ turn threads state, kept threads state →
      kept (Function.update threads turn ((threads turn).advance around state).1)
        ((threads turn).advance around state).2)
    (turns : List ι) (hstart : kept threads state) :
    kept (takeTurns around turns threads state).1 (takeTurns around turns threads state).2 := by
  induction turns generalizing threads state with
  | nil => exact hstart
  | cons turn turns ih => exact ih (hturn turn threads state hstart)

end Schedule

/-! ## How long a script can take -/

namespace Script

/-- That a script ends after so many acts at most, whatever the answers are. -/
inductive EndsWithin : Nat → Script α → Prop where
  | done (bound : Nat) (answer : α) : EndsWithin bound (.done answer)
  | isDirectory {bound : Nat} {path : Path} {next : Bool → Script α}
      (hnext : ∀ there, EndsWithin bound (next there)) :
      EndsWithin (bound + 1) (.isDirectory path next)
  | isPresent {bound : Nat} {path : Path} {next : Bool → Script α}
      (hnext : ∀ there, EndsWithin bound (next there)) :
      EndsWithin (bound + 1) (.isPresent path next)
  | makeDirectory {bound : Nat} {path : Path} {next : Script α} (hnext : EndsWithin bound next) :
      EndsWithin (bound + 1) (.makeDirectory path next)
  | write {bound : Nat} {path : Path} {text : String} {next : Script α}
      (hnext : EndsWithin bound next) : EndsWithin (bound + 1) (.write path text next)
  | load {bound : Nat} {template : Template} {next : String → Script α}
      (hnext : ∀ text, EndsWithin bound (next text)) :
      EndsWithin (bound + 1) (.load template next)
  | note {bound : Nat} {event : Event} {next : Script α} (hnext : EndsWithin bound next) :
      EndsWithin (bound + 1) (.note event next)

theorem EndsWithin.succ {bound : Nat} {script : Script α} (hends : EndsWithin bound script) :
    EndsWithin (bound + 1) script := by
  induction hends with
  | done bound answer => exact .done _ answer
  | isDirectory _ ih => exact .isDirectory ih
  | isPresent _ ih => exact .isPresent ih
  | makeDirectory _ ih => exact .makeDirectory ih
  | write _ ih => exact .write ih
  | load _ ih => exact .load ih
  | note _ ih => exact .note ih

/-- Every act brings a script one act closer to its end. -/
theorem EndsWithin.of_step {bound : Nat} {script rest : Script α} {state state' : σ} {act : Act}
    (hends : EndsWithin (bound + 1) script)
    (hstep : script.step? around state = some (act, .ok rest, state')) :
    EndsWithin bound rest := by
  have hmap : ∀ {β : Type} {answer : Except Failure β} {next : β → Script α},
      (∀ value, EndsWithin bound (next value)) → answer.map next = .ok rest →
        EndsWithin bound rest := by
    intro β answer next hnext hrest
    cases answer with
    | error failure => cases hrest
    | ok value =>
      cases hrest
      exact hnext value
  cases hends with
  | done => cases hstep
  | isDirectory hnext | isPresent hnext =>
    cases hstep
    exact hnext _
  | note hnext =>
    cases hstep
    exact hnext
  | makeDirectory hnext | write hnext =>
    obtain ⟨-, hrest, -⟩ := by simpa only [step?, Option.some.injEq, Prod.mk.injEq] using hstep
    exact hmap (fun _ => hnext) hrest
  | load hnext =>
    obtain ⟨-, hrest, -⟩ := by simpa only [step?, Option.some.injEq, Prod.mk.injEq] using hstep
    exact hmap hnext hrest

theorem step?_eq_none_iff {script : Script α} {state : σ} :
    script.step? around state = none ↔ ∃ answer, script = .done answer := by
  cases script with
  | done answer => exact iff_of_true rfl ⟨answer, rfl⟩
  | _ => exact iff_of_false nofun nofun

/-- How many acts the visit of a site takes at most. -/
def visitBound : Site → Nat
  | .directory _ => 3
  | .file _ _ => 5

theorem endsWithin_visit {provider : Provider} {site : Site} {next : Report.Entry → Script α}
    {bound : Nat} (hnext : ∀ entry, EndsWithin bound (next entry)) :
    EndsWithin (bound + visitBound site) (visit provider site next) := by
  cases site with
  | directory path =>
    refine .isDirectory fun there => ?_
    cases there with
    | true => exact .note (hnext _).succ
    | false => exact .makeDirectory (.note (hnext _))
  | file template path =>
    refine .isPresent fun there => ?_
    cases there with
    | true => exact .note (hnext _).succ.succ.succ
    | false => exact .note (.load fun text => .write (.note (hnext _)))

theorem endsWithin_through {provider : Provider} {sites : List Site}
    {next : List Report.Entry → Script α} {bound : Nat}
    (hnext : ∀ entries, EndsWithin bound (next entries)) :
    EndsWithin (bound + (sites.map visitBound).sum) (through (visit provider) sites next) := by
  induction sites generalizing next with
  | nil => exact hnext []
  | cons site rest ih =>
    rw [List.map_cons, List.sum_cons, Nat.add_comm (visitBound site), ← Nat.add_assoc]
    exact endsWithin_visit fun entry => ih fun entries => hnext (entry :: entries)

/-- Three acts for each of three directories, five for each of four files, and a note. -/
theorem endsWithin_scaffold (provider : Provider) (root : Path) :
    EndsWithin 30 (scaffold provider root) :=
  @endsWithin_through _ provider (provider.sites root) _ 1 fun _ => .note (.done 0 _)

end Script

/-! ## Threads come to their ends -/

namespace Thread

/-- That a thread has so many acts before it at most. -/
def EndsWithin (bound : Nat) (thread : Thread α) : Prop :=
  ∀ script, thread.rest = .ok script → script.EndsWithin bound

variable {thread : Thread α} {state : σ} {bound : Nat}

theorem EndsWithin.advance (hends : thread.EndsWithin bound) :
    (thread.advance around state).1.EndsWithin (bound - 1) := by
  cases hrest : thread.rest with
  | error failure =>
    rw [advance_of_error hrest]
    intro script hscript
    rw [hrest] at hscript
    cases hscript
  | ok script =>
    have hscript := hends script hrest
    cases hstep : script.step? around state with
    | none =>
      obtain ⟨answer, rfl⟩ := Script.step?_eq_none_iff.mp hstep
      rw [advance_of_done hrest]
      intro other hother
      rw [hrest] at hother
      cases hother
      exact .done _ answer
    | some step =>
      obtain ⟨act, rest, state'⟩ := step
      rw [advance_of_step hrest hstep]
      rintro _ rfl
      cases bound with
      | zero =>
        cases hscript
        cases hstep
      | succ bound => exact hscript.of_step hstep

theorem EndsWithin.isSome_answer? (hends : thread.EndsWithin 0) : thread.answer?.isSome := by
  unfold answer?
  cases hrest : thread.rest with
  | error failure => rfl
  | ok script =>
    cases hends script hrest
    rfl

end Thread

section Schedule

variable [DecidableEq ι] {threads : ι → Thread α} {state : σ} {bound : Nat}

theorem endsWithin_takeTurns {turns : List ι} {i : ι} (hends : (threads i).EndsWithin bound) :
    ((takeTurns around turns threads state).1 i).EndsWithin (bound - turns.count i) := by
  induction turns generalizing bound threads state with
  | nil => exact hends
  | cons turn turns ih =>
    unfold takeTurns
    by_cases hturn : turn = i
    · subst hturn
      rw [List.count_cons_self, Nat.add_comm, Nat.sub_add_eq]
      apply ih
      rw [Function.update_self]
      exact hends.advance
    · rw [List.count_cons_of_ne hturn]
      apply ih
      rw [Function.update_of_ne (Ne.symm hturn)]
      exact hends

/-- A thread that had its turns came to its end. -/
theorem isSome_answer?_of_count {turns : List ι} {i : ι} (hends : (threads i).EndsWithin bound)
    (hcount : bound ≤ turns.count i) :
    ((takeTurns around turns threads state).1 i).answer?.isSome := by
  have hzero := @endsWithin_takeTurns _ _ _ around _ _ state _ turns i hends
  rw [Nat.sub_eq_zero_of_le hcount] at hzero
  exact hzero.isSome_answer?

/-! ## A thread that has all the turns -/

/-- The thread of a script that ran to its end. -/
def Run.thread (run : Run σ α) : Thread α := ⟨run.acts, run.answer.map .done⟩

theorem Run.answer?_thread (run : Run σ α) : run.thread.answer? = some run.answer := by
  unfold Run.thread Thread.answer?
  cases run.answer <;> rfl

theorem takeTurns_replicate_of_idle {turn : ι}
    (hidle : (threads turn).advance around state = (threads turn, state)) :
    takeTurns around (List.replicate bound turn) threads state = (threads, state) := by
  induction bound with
  | zero => rfl
  | succ bound ih =>
    rw [List.replicate_succ, takeTurns, hidle]
    simp only [Function.update_eq_self]
    exact ih

/-- A thread that has all the turns it needs does what its script does alone. -/
theorem takeTurns_replicate {turn : ι} {acts : List Act} {script : Script α}
    (hthread : threads turn = ⟨acts, .ok script⟩) (hends : script.EndsWithin bound) :
    takeTurns around (List.replicate bound turn) threads state =
      (Function.update threads turn ((script.exec around state).afterAll acts).thread,
        (script.exec around state).state) := by
  induction bound generalizing acts script threads state with
  | zero =>
    cases hends with
    | done _ answer =>
      have hend : ((Script.done answer).exec around state |>.afterAll acts).thread =
          threads turn := by
        rw [hthread]
        show Thread.mk (acts ++ []) _ = _
        rw [List.append_nil]
        rfl
      rw [hend, Function.update_eq_self]
      rfl
  | succ bound ih =>
    have hrest : (threads turn).rest = .ok script := by rw [hthread]
    cases hstep : script.step? around state with
    | none =>
      obtain ⟨answer, rfl⟩ := Script.step?_eq_none_iff.mp hstep
      rw [List.replicate_succ, takeTurns, Thread.advance_of_done hrest]
      simp only [Function.update_eq_self]
      exact ih hthread (.done bound answer)
    | some step =>
      obtain ⟨act, rest, state'⟩ := step
      have hexec := Script.exec_of_step hstep
      rw [List.replicate_succ, takeTurns, Thread.advance_of_step hrest hstep, hexec]
      have hthread' : Function.update threads turn ⟨(threads turn).acts ++ [act], rest⟩ turn =
          ⟨acts ++ [act], rest⟩ := by
        rw [Function.update_self, hthread]
      cases rest with
      | error failure =>
        simp only
        rw [takeTurns_replicate_of_idle (Thread.advance_of_error (by rw [hthread'])), hthread]
        rfl
      | ok rest =>
        simp only
        rw [ih hthread' (hends.of_step hstep), Function.update_idem]
        unfold Run.afterAll Run.after
        rw [List.append_assoc]
        rfl

end Schedule

end Scaffolding
