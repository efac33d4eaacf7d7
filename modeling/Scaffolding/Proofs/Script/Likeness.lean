import Mathlib.Data.List.Forall2
import Scaffolding.Script.Basic

/-!
# Scripts that go the same way

Two scripts can be the same but for the paths they ask about, and two
surroundings can answer them the same although their states have nothing in
common.  Then the scripts go the same way, call by call, and what they come
to and what they leave behind is the same in that sense.

* `Likeness` says which paths, events and failures count as the same.
* `Likeness.Scripts` and `Likeness.Around` are what has to be shown of the
  scripts and of the surroundings, one constructor or field for each kind
  of call.
* `Likeness.exec` is what comes of it.
-/

namespace Scaffolding

/-- Which paths, events and failures count as the same. -/
structure Likeness where
  path : Path → Path → Prop
  event : Event → Event → Prop
  failure : Failure → Failure → Prop

namespace Likeness

/-- The paths that are allowed count as the same as themselves only, and so do all events. -/
def identity (allowed : Path → Prop) (same : Failure → Failure → Prop) : Likeness where
  path path path' := path = path' ∧ allowed path
  event := Eq
  failure := same

variable {like : Likeness} {σ τ α β : Type} {ended : α → β → Prop} {related : σ → τ → Prop}

/-- That two answers are the same, where `ended` relates those that are no failures. -/
inductive Answers (like : Likeness) (ended : α → β → Prop) :
    Except Failure α → Except Failure β → Prop where
  | ok {answer : α} {answer' : β} (hended : ended answer answer') :
    Answers like ended (.ok answer) (.ok answer')
  | error {failure failure' : Failure} (hfailure : like.failure failure failure') :
    Answers like ended (.error failure) (.error failure')

theorem Answers.refl (hfailure : ∀ failure, like.failure failure failure)
    (answer : Except Failure α) : like.Answers Eq answer answer := by
  cases answer with
  | ok answer => exact .ok rfl
  | error failure => exact .error (hfailure failure)

/-- That two acts are the same. -/
inductive Acts (like : Likeness) : Act → Act → Prop where
  | isDirectory {path path' : Path} (hpath : like.path path path') (there : Bool) :
    Acts like (.isDirectory path there) (.isDirectory path' there)
  | isPresent {path path' : Path} (hpath : like.path path path') (there : Bool) :
    Acts like (.isPresent path there) (.isPresent path' there)
  | makeDirectory {path path' : Path} {answer answer' : Except Failure Unit}
      (hpath : like.path path path') (hanswer : like.Answers Eq answer answer') :
    Acts like (.makeDirectory path answer) (.makeDirectory path' answer')
  | write {path path' : Path} {answer answer' : Except Failure Unit}
      (hpath : like.path path path') (text : String)
      (hanswer : like.Answers Eq answer answer') :
    Acts like (.write path text answer) (.write path' text answer')
  | load {answer answer' : Except Failure String} (template : Template)
      (hanswer : like.Answers Eq answer answer') :
    Acts like (.load template answer) (.load template answer')
  | note {event event' : Event} (hevent : like.event event event') :
    Acts like (.note event) (.note event')

/-- That two scripts are the same, where `ended` relates what they end with. -/
inductive Scripts (like : Likeness) (ended : α → β → Prop) : Script α → Script β → Prop where
  | done {answer : α} {answer' : β} (hended : ended answer answer') :
    Scripts like ended (.done answer) (.done answer')
  | isDirectory {path path' : Path} {next : Bool → Script α} {next' : Bool → Script β}
      (hpath : like.path path path') (hnext : ∀ there, Scripts like ended (next there) (next' there)) :
    Scripts like ended (.isDirectory path next) (.isDirectory path' next')
  | isPresent {path path' : Path} {next : Bool → Script α} {next' : Bool → Script β}
      (hpath : like.path path path') (hnext : ∀ there, Scripts like ended (next there) (next' there)) :
    Scripts like ended (.isPresent path next) (.isPresent path' next')
  | makeDirectory {path path' : Path} {next : Script α} {next' : Script β}
      (hpath : like.path path path') (hnext : Scripts like ended next next') :
    Scripts like ended (.makeDirectory path next) (.makeDirectory path' next')
  | write {path path' : Path} {next : Script α} {next' : Script β} (hpath : like.path path path')
      (text : String) (hnext : Scripts like ended next next') :
    Scripts like ended (.write path text next) (.write path' text next')
  | load {next : String → Script α} {next' : String → Script β} (template : Template)
      (hnext : ∀ text, Scripts like ended (next text) (next' text)) :
    Scripts like ended (.load template next) (.load template next')
  | note {event event' : Event} {next : Script α} {next' : Script β}
      (hevent : like.event event event') (hnext : Scripts like ended next next') :
    Scripts like ended (.note event next) (.note event' next')

/-- That surroundings answer the same about the same paths, from states that are related, and that
their states are related afterwards. -/
structure Around (like : Likeness) (related : σ → τ → Prop) (around : Surroundings σ)
    (around' : Surroundings τ) : Prop where
  isDirectory : ∀ {path path' state state'}, like.path path path' → related state state' →
    (around.isDirectory path state).1 = (around'.isDirectory path' state').1 ∧
      related (around.isDirectory path state).2 (around'.isDirectory path' state').2
  isPresent : ∀ {path path' state state'}, like.path path path' → related state state' →
    (around.isPresent path state).1 = (around'.isPresent path' state').1 ∧
      related (around.isPresent path state).2 (around'.isPresent path' state').2
  makeDirectory : ∀ {path path' state state'}, like.path path path' → related state state' →
    like.Answers Eq (around.makeDirectory path state).1 (around'.makeDirectory path' state').1 ∧
      related (around.makeDirectory path state).2 (around'.makeDirectory path' state').2
  write : ∀ {path path' state state'} (text : String), like.path path path' →
    related state state' →
      like.Answers Eq (around.write path text state).1 (around'.write path' text state').1 ∧
        related (around.write path text state).2 (around'.write path' text state').2
  load : ∀ {state state'} (template : Template), related state state' →
    like.Answers Eq (around.load template state).1 (around'.load template state').1 ∧
      related (around.load template state).2 (around'.load template state').2

/-- That two runs made the same calls and came to the same end, and left related states. -/
structure Runs (like : Likeness) (ended : α → β → Prop) (related : σ → τ → Prop) (run : Run σ α)
    (run' : Run τ β) : Prop where
  acts : List.Forall₂ like.Acts run.acts run'.acts
  answer : like.Answers ended run.answer run'.answer
  state : related run.state run'.state

theorem Runs.after {run : Run σ α} {run' : Run τ β} {act act' : Act} (hact : like.Acts act act')
    (hruns : like.Runs ended related run run') :
    like.Runs ended related (run.after act) (run'.after act') :=
  ⟨.cons hact hruns.acts, hruns.answer, hruns.state⟩

theorem Runs.stop {act act' : Act} {failure failure' : Failure} {state : σ} {state' : τ}
    (hact : like.Acts act act') (hfailure : like.failure failure failure')
    (hstate : related state state') :
    like.Runs ended related ⟨[act], .error failure, state⟩ ⟨[act'], .error failure', state'⟩ :=
  ⟨.cons hact .nil, .error hfailure, hstate⟩

/-- Scripts that are the same go the same way in surroundings that are. -/
theorem exec {around : Surroundings σ} {around' : Surroundings τ}
    (haround : like.Around related around around') {script : Script α} {script' : Script β}
    (hscripts : like.Scripts ended script script') {state : σ} {state' : τ}
    (hstate : related state state') :
    like.Runs ended related (script.exec around state) (script'.exec around' state') := by
  induction hscripts generalizing state state' with
  | done hended => exact ⟨.nil, .ok hended, hstate⟩
  | @isDirectory path path' next next' hpath _ ih =>
    obtain ⟨hanswer, hafter⟩ := haround.isDirectory hpath hstate
    have hrest := ih (around.isDirectory path state).1 hafter
    have hact : like.Acts _ _ := .isDirectory hpath (around.isDirectory path state).1
    simp only [Script.exec]
    rw [← hanswer]
    exact hrest.after hact
  | @isPresent path path' next next' hpath _ ih =>
    obtain ⟨hanswer, hafter⟩ := haround.isPresent hpath hstate
    have hrest := ih (around.isPresent path state).1 hafter
    have hact : like.Acts _ _ := .isPresent hpath (around.isPresent path state).1
    simp only [Script.exec]
    rw [← hanswer]
    exact hrest.after hact
  | @makeDirectory path path' next next' hpath _ ih =>
    obtain ⟨hanswer, hafter⟩ := haround.makeDirectory hpath hstate
    simp only [Script.exec]
    generalize around.makeDirectory path state = left at hanswer hafter ⊢
    generalize around'.makeDirectory path' state' = right at hanswer hafter ⊢
    obtain ⟨answer, left⟩ := left
    obtain ⟨answer', right⟩ := right
    cases hanswer with
    | ok hended => exact (ih hafter).after (.makeDirectory hpath (.ok hended))
    | error hfailure => exact .stop (.makeDirectory hpath (.error hfailure)) hfailure hafter
  | @write path path' next next' hpath text _ ih =>
    obtain ⟨hanswer, hafter⟩ := haround.write text hpath hstate
    simp only [Script.exec]
    generalize around.write path text state = left at hanswer hafter ⊢
    generalize around'.write path' text state' = right at hanswer hafter ⊢
    obtain ⟨answer, left⟩ := left
    obtain ⟨answer', right⟩ := right
    cases hanswer with
    | ok hended => exact (ih hafter).after (.write hpath text (.ok hended))
    | error hfailure => exact .stop (.write hpath text (.error hfailure)) hfailure hafter
  | @load next next' template _ ih =>
    obtain ⟨hanswer, hafter⟩ := haround.load template hstate
    simp only [Script.exec]
    generalize around.load template state = left at hanswer hafter ⊢
    generalize around'.load template state' = right at hanswer hafter ⊢
    obtain ⟨answer, left⟩ := left
    obtain ⟨answer', right⟩ := right
    cases hanswer with
    | ok hended =>
      subst hended
      exact (ih _ hafter).after (.load template (.ok rfl))
    | error hfailure => exact .stop (.load template (.error hfailure)) hfailure hafter
  | note hevent _ ih => exact (ih hstate).after (.note hevent)

end Likeness

end Scaffolding
