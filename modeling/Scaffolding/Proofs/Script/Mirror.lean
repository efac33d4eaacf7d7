import Scaffolding.Proofs.Script.Likeness
import Scaffolding.Script.Scaffold

/-!
# Surroundings that mirror each other

Two surroundings may answer the same questions alike although their states
have nothing in common.  A script cannot tell them apart: it goes the same
way in both, call by call, and what it leaves behind still corresponds.

* `Surroundings.Mirrors` is what has to be shown, one field for each kind
  of call, and for the paths that matter only.
* `exec_mirrors` is what comes of it, for a script that `Keeps` to those
  paths.
* `keeps_scaffold` and `keeps_plan` say which paths the two scripts keep
  to.
* `serve_mirrors` goes on from one script to a sequence of them.
-/

namespace Scaffolding

open Report (Entry)

variable {σ τ α : Type} {same : Failure → Failure → Prop} {allowed : Path → Prop}

/-! ## Answers and calls that are alike -/

/-- That two answers are the same, but for the failures that count as the same. -/
inductive Alike (same : Failure → Failure → Prop) : Except Failure α → Except Failure α → Prop where
  | ok (answer : α) : Alike same (.ok answer) (.ok answer)
  | error {failure failure' : Failure} (hsame : same failure failure') :
      Alike same (.error failure) (.error failure')

theorem Alike.imp {same' : Failure → Failure → Prop} {answer answer' : Except Failure α}
    (halike : Alike same answer answer') (himp : ∀ {left right}, same left right → same' left right) :
    Alike same' answer answer' := by
  cases halike with
  | ok answer => exact .ok answer
  | error hsame => exact .error (himp hsame)

/-- That two calls are the same, and their answers are alike. -/
inductive Act.Alike (same : Failure → Failure → Prop) : Act → Act → Prop where
  | isDirectory (path : Path) (there : Bool) :
      Alike same (.isDirectory path there) (.isDirectory path there)
  | isPresent (path : Path) (there : Bool) :
      Alike same (.isPresent path there) (.isPresent path there)
  | makeDirectory (path : Path) {answer answer' : Except Failure Unit}
      (halike : Scaffolding.Alike same answer answer') :
      Alike same (.makeDirectory path answer) (.makeDirectory path answer')
  | write (path : Path) (text : String) {answer answer' : Except Failure Unit}
      (halike : Scaffolding.Alike same answer answer') :
      Alike same (.write path text answer) (.write path text answer')
  | load (template : Template) {answer answer' : Except Failure String}
      (halike : Scaffolding.Alike same answer answer') :
      Alike same (.load template answer) (.load template answer')
  | note (event : Event) : Alike same (.note event) (.note event)

/-- That surroundings answer alike about some paths, from corresponding states, and that their
states correspond afterwards. -/
structure Surroundings.Mirrors (around : Surroundings σ) (around' : Surroundings τ)
    (allowed : Path → Prop) (same : Failure → Failure → Prop) (related : σ → τ → Prop) :
    Prop where
  isDirectory : ∀ {path state state'}, allowed path → related state state' →
    (around.isDirectory path state).1 = (around'.isDirectory path state').1 ∧
      related (around.isDirectory path state).2 (around'.isDirectory path state').2
  isPresent : ∀ {path state state'}, allowed path → related state state' →
    (around.isPresent path state).1 = (around'.isPresent path state').1 ∧
      related (around.isPresent path state).2 (around'.isPresent path state').2
  makeDirectory : ∀ {path state state'}, allowed path → related state state' →
    Alike same (around.makeDirectory path state).1 (around'.makeDirectory path state').1 ∧
      related (around.makeDirectory path state).2 (around'.makeDirectory path state').2
  write : ∀ {path state state'} (text : String), allowed path → related state state' →
    Alike same (around.write path text state).1 (around'.write path text state').1 ∧
      related (around.write path text state).2 (around'.write path text state').2
  load : ∀ {state state'} (template : Template), related state state' →
    Alike same (around.load template state).1 (around'.load template state').1 ∧
      related (around.load template state).2 (around'.load template state').2

namespace Script

/-! ## Scripts that keep to some paths -/

/-- That a script asks about certain paths only, and changes no others. -/
inductive Keeps (allowed : Path → Prop) : Script α → Prop where
  | done (answer : α) : Keeps allowed (.done answer)
  | isDirectory {path : Path} {next : Bool → Script α} (hpath : allowed path)
      (hnext : ∀ there, Keeps allowed (next there)) : Keeps allowed (.isDirectory path next)
  | isPresent {path : Path} {next : Bool → Script α} (hpath : allowed path)
      (hnext : ∀ there, Keeps allowed (next there)) : Keeps allowed (.isPresent path next)
  | makeDirectory {path : Path} {next : Script α} (hpath : allowed path)
      (hnext : Keeps allowed next) : Keeps allowed (.makeDirectory path next)
  | write {path : Path} {next : Script α} (text : String) (hpath : allowed path)
      (hnext : Keeps allowed next) : Keeps allowed (.write path text next)
  | load {next : String → Script α} (template : Template)
      (hnext : ∀ text, Keeps allowed (next text)) : Keeps allowed (.load template next)
  | note {next : Script α} (event : Event) (hnext : Keeps allowed next) :
      Keeps allowed (.note event next)

theorem keeps_through {one : Site → (Entry → Script α) → Script α} {sites : List Site}
    {next : List Entry → Script α}
    (hone : ∀ site ∈ sites, ∀ go, (∀ entry, Keeps allowed (go entry)) → Keeps allowed (one site go))
    (hnext : ∀ entries, Keeps allowed (next entries)) :
    Keeps allowed (through one sites next) := by
  induction sites generalizing next with
  | nil => exact hnext []
  | cons site rest ih =>
    obtain ⟨hhere, hrest⟩ := List.forall_mem_cons.mp hone
    apply hhere
    intro entry
    exact ih hrest fun entries => hnext (entry :: entries)

section Provider

variable {provider : Provider} {root : Path}

/-- A scaffold keeps to the paths of its sites. -/
theorem keeps_scaffold (hsites : ∀ site ∈ provider.sites root, allowed site.path) :
    Keeps allowed (scaffold provider root) := by
  refine keeps_through ?_ fun entries => .note _ (.done _)
  intro site hsite go hgo
  have hpath := hsites site hsite
  cases site with
  | directory path =>
    refine .isDirectory hpath ?_
    intro there
    cases there with
    | true => exact .note _ (hgo _)
    | false => exact .makeDirectory hpath (.note _ (hgo _))
  | file template path =>
    refine .isPresent hpath ?_
    intro there
    cases there with
    | true => exact .note _ (hgo _)
    | false => exact .note _ (.load template fun text => .write _ hpath (.note _ (hgo _)))

theorem keeps_plan (hsites : ∀ site ∈ provider.sites root, allowed site.path) :
    Keeps allowed (plan provider root) := by
  refine keeps_through ?_ fun entries => .done _
  intro site hsite go hgo
  have hpath := hsites site hsite
  cases site with
  | directory path => exact .isDirectory hpath fun there => hgo _
  | file template path => exact .isPresent hpath fun there => hgo _

end Provider

/-! ## Runs that go the same way -/

/-- That two runs made the same calls and came to the same end, and left corresponding states. -/
structure RunsAlike (same : Failure → Failure → Prop) (related : σ → τ → Prop) (run : Run σ α)
    (run' : Run τ α) : Prop where
  acts : List.Forall₂ (Act.Alike same) run.acts run'.acts
  answer : Alike same run.answer run'.answer
  state : related run.state run'.state

theorem alike_iff_answers {answer answer' : Except Failure α} :
    Alike same answer answer' ↔ (Likeness.identity allowed same).Answers Eq answer answer' := by
  constructor
  · rintro (_ | hsame)
    · exact .ok rfl
    · exact .error hsame
  · rintro (rfl | hsame)
    · exact .ok _
    · exact .error hsame

theorem alike_of_acts {act act' : Act} (hacts : (Likeness.identity allowed same).Acts act act') :
    act.Alike same act' := by
  cases hacts with
  | isDirectory hpath there =>
    obtain ⟨rfl, -⟩ := hpath
    exact .isDirectory _ there
  | isPresent hpath there =>
    obtain ⟨rfl, -⟩ := hpath
    exact .isPresent _ there
  | makeDirectory hpath hanswer =>
    obtain ⟨rfl, -⟩ := hpath
    exact .makeDirectory _ (alike_iff_answers.mpr hanswer)
  | write hpath text hanswer =>
    obtain ⟨rfl, -⟩ := hpath
    exact .write _ text (alike_iff_answers.mpr hanswer)
  | load template hanswer => exact .load template (alike_iff_answers.mpr hanswer)
  | note hevent =>
    obtain rfl := hevent
    exact .note _

theorem Keeps.scripts {script : Script α} (hkeeps : Keeps allowed script) :
    (Likeness.identity allowed same).Scripts Eq script script := by
  induction hkeeps with
  | done answer => exact .done rfl
  | isDirectory hpath _ ih => exact .isDirectory (And.intro rfl hpath) ih
  | isPresent hpath _ ih => exact .isPresent (And.intro rfl hpath) ih
  | makeDirectory hpath _ ih => exact .makeDirectory (And.intro rfl hpath) ih
  | write text hpath _ ih => exact .write (And.intro rfl hpath) text ih
  | load template _ ih => exact .load template ih
  | note event _ ih => exact .note rfl ih

theorem around_of_mirrors {around : Surroundings σ} {around' : Surroundings τ}
    {related : σ → τ → Prop} (hmirrors : around.Mirrors around' allowed same related) :
    (Likeness.identity allowed same).Around related around around' where
  isDirectory := by
    rintro path _ state state' ⟨rfl, hpath⟩ hrelated
    exact hmirrors.isDirectory hpath hrelated
  isPresent := by
    rintro path _ state state' ⟨rfl, hpath⟩ hrelated
    exact hmirrors.isPresent hpath hrelated
  makeDirectory := by
    rintro path _ state state' ⟨rfl, hpath⟩ hrelated
    exact (hmirrors.makeDirectory hpath hrelated).imp_left alike_iff_answers.mp
  write := by
    rintro path _ state state' text ⟨rfl, hpath⟩ hrelated
    exact (hmirrors.write text hpath hrelated).imp_left alike_iff_answers.mp
  load := by
    intro state state' template hrelated
    exact (hmirrors.load template hrelated).imp_left alike_iff_answers.mp

/-- A script goes the same way in surroundings that mirror each other. -/
theorem exec_mirrors {around : Surroundings σ} {around' : Surroundings τ}
    {related : σ → τ → Prop} (hmirrors : around.Mirrors around' allowed same related)
    {script : Script α} (hkeeps : Keeps allowed script) {state : σ} {state' : τ}
    (hrelated : related state state') :
    RunsAlike same related (script.exec around state) (script.exec around' state') := by
  have hruns := Likeness.exec (around_of_mirrors hmirrors) hkeeps.scripts hrelated
  exact ⟨hruns.acts.imp fun _ _ => alike_of_acts, alike_iff_answers.mpr hruns.answer,
    hruns.state⟩

/-! ## One script after another -/

/-- What can be asked for. -/
inductive Task where
  | scaffold (provider : Provider) (root : Path)
  | plan (provider : Provider) (root : Path)

namespace Task

def provider : Task → Provider
  | scaffold provider _ | plan provider _ => provider

def root : Task → Path
  | scaffold _ root | plan _ root => root

def script : Task → Script Report
  | scaffold provider root => Script.scaffold provider root
  | plan provider root => Script.plan provider root

theorem keeps_script {task : Task}
    (hsites : ∀ site ∈ task.provider.sites task.root, allowed site.path) :
    Keeps allowed task.script := by
  cases task with
  | scaffold provider root => exact keeps_scaffold hsites
  | plan provider root => exact keeps_plan hsites

end Task

/-- The answers to some tasks, one after another, and the state that is left. -/
def serve (around : Surroundings σ) : List Task → σ → List (Except Failure Report) × σ
  | [], state => ([], state)
  | task :: rest, state =>
    let run := task.script.exec around state
    let (answers, state) := serve around rest run.state
    (run.answer :: answers, state)

theorem serve_mirrors {around : Surroundings σ} {around' : Surroundings τ}
    {related : σ → τ → Prop} (hmirrors : around.Mirrors around' allowed same related)
    {tasks : List Task} (hkeeps : ∀ task ∈ tasks, Keeps allowed task.script) {state : σ} {state' : τ}
    (hrelated : related state state') :
    List.Forall₂ (Alike same) (serve around tasks state).1 (serve around' tasks state').1 ∧
      related (serve around tasks state).2 (serve around' tasks state').2 := by
  induction tasks generalizing state state' with
  | nil => exact ⟨.nil, hrelated⟩
  | cons task rest ih =>
    obtain ⟨hhere, hrest⟩ := List.forall_mem_cons.mp hkeeps
    have hruns := exec_mirrors hmirrors hhere hrelated
    obtain ⟨hanswers, hstates⟩ := ih hrest hruns.state
    exact ⟨.cons hruns.answer hanswers, hstates⟩

end Script

end Scaffolding
