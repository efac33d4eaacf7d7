import Scaffolding.Proofs.Provider.Layout
import Scaffolding.Proofs.Script.Tour

/-!
# Runs that get no template

Two surroundings that differ in their templates cannot be told apart by a
run that asks for none.  A scaffold asks for one only when it has looked for
a file in vain, so where every template is refused it writes nothing, and
fails with that refusal exactly if a file was missing.

* `Surroundings.Concurs` says that all other calls are answered alike, and
  `exec_without_load` is the step from calls to scripts.
* `Surroundings.Withholds` says that every template is refused.  `Thwarted` is
  how a tour ends there, and `scaffold_withheld` says it of a scaffold.
-/

namespace Scaffolding

open Report (Entry)

variable {σ τ α : Type} {around : Surroundings σ} {around' : Surroundings τ}
  {related : σ → τ → Prop}

/-- That two answers are the same, and the states behind them related. -/
def Agree {β : Type} (related : σ → τ → Prop) (answer : β × σ) (answer' : β × τ) : Prop :=
  answer.1 = answer'.1 ∧ related answer.2 answer'.2

/-- That two surroundings answer alike, unless they are asked for a template. -/
structure Surroundings.Concurs (around : Surroundings σ) (around' : Surroundings τ)
    (related : σ → τ → Prop) : Prop where
  isDirectory : ∀ {state state'} (path : Path), related state state' →
    Agree related (around.isDirectory path state) (around'.isDirectory path state')
  isPresent : ∀ {state state'} (path : Path), related state state' →
    Agree related (around.isPresent path state) (around'.isPresent path state')
  makeDirectory : ∀ {state state'} (path : Path), related state state' →
    Agree related (around.makeDirectory path state) (around'.makeDirectory path state')
  write : ∀ {state state'} (path : Path) (text : String), related state state' →
    Agree related (around.write path text state) (around'.write path text state')

/-- That every template is refused with a failure that no directory is refused with, as long as a
fact holds that only a write could end. -/
structure Surroundings.Withholds (around : Surroundings σ) (failure : Failure) (shut : σ → Prop) :
    Prop where
  isDirectory : ∀ {state} (path : Path), shut state → shut (around.isDirectory path state).2
  isPresent : ∀ {state} (path : Path), shut state → shut (around.isPresent path state).2
  makeDirectory : ∀ {state} (path : Path), shut state →
    (around.makeDirectory path state).1 ≠ .error failure ∧
      shut (around.makeDirectory path state).2
  load : ∀ {state} (template : Template), shut state →
    (around.load template state).1 = .error failure ∧ shut (around.load template state).2

/-- That some acts ask for no template. -/
def Act.LoadNothing (acts : List Act) : Prop :=
  ∀ template answer, .load template answer ∉ acts

theorem Act.LoadNothing.tail {act : Act} {acts : List Act}
    (hfree : Act.LoadNothing (act :: acts)) : Act.LoadNothing acts :=
  fun template answer hmem => hfree template answer (List.mem_cons_of_mem act hmem)

theorem Act.LoadNothing.append {acts acts' : List Act} (hfree : Act.LoadNothing acts)
    (hfree' : Act.LoadNothing acts') : Act.LoadNothing (acts ++ acts') :=
  fun template answer hmem =>
    (List.mem_append.mp hmem).elim (hfree template answer) (hfree' template answer)

/-- That two runs do the same and end the same, in states that are related. -/
structure Run.Retraces (related : σ → τ → Prop) (run : Run σ α) (run' : Run τ α) : Prop where
  acts_eq : run'.acts = run.acts
  answer_eq : run'.answer = run.answer
  state : related run.state run'.state

theorem Run.Retraces.after {run : Run σ α} {run' : Run τ α} (act : Act)
    (hretraces : run.Retraces related run') :
    (run.after act).Retraces related (run'.after act) :=
  ⟨congrArg (act :: ·) hretraces.acts_eq, hretraces.answer_eq, hretraces.state⟩

namespace Script

/-- A run that asks for no template is the same wherever all else is answered the same. -/
theorem exec_without_load (hconcurs : around.Concurs around' related) (script : Script α)
    {state : σ} {state' : τ} (hstates : related state state')
    (hfree : Act.LoadNothing (script.exec around state).acts) :
    (script.exec around state).Retraces related (script.exec around' state') := by
  induction script generalizing state state' with
  | done answer => exact ⟨rfl, rfl, hstates⟩
  | note event next ih => exact (ih hstates hfree.tail).after _
  | isDirectory path next ih =>
    obtain ⟨hanswer, hafter⟩ := hconcurs.isDirectory path hstates
    simp only [exec, ← hanswer]
    exact (ih _ hafter hfree.tail).after _
  | isPresent path next ih =>
    obtain ⟨hanswer, hafter⟩ := hconcurs.isPresent path hstates
    simp only [exec, ← hanswer]
    exact (ih _ hafter hfree.tail).after _
  | makeDirectory path next ih =>
    have hagree := hconcurs.makeDirectory path hstates
    rcases hmake : around.makeDirectory path state with ⟨answer, after⟩
    rcases hmake' : around'.makeDirectory path state' with ⟨answer', after'⟩
    rw [hmake, hmake'] at hagree
    obtain ⟨rfl, hafter⟩ : answer = answer' ∧ related after after' := hagree
    cases answer with
    | error failure =>
      simp only [exec, hmake, hmake']
      exact ⟨rfl, rfl, hafter⟩
    | ok _ =>
      simp only [exec, hmake, hmake'] at hfree ⊢
      exact (ih hafter hfree.tail).after _
  | write path text next ih =>
    have hagree := hconcurs.write path text hstates
    rcases hwrite : around.write path text state with ⟨answer, after⟩
    rcases hwrite' : around'.write path text state' with ⟨answer', after'⟩
    rw [hwrite, hwrite'] at hagree
    obtain ⟨rfl, hafter⟩ : answer = answer' ∧ related after after' := hagree
    cases answer with
    | error failure =>
      simp only [exec, hwrite, hwrite']
      exact ⟨rfl, rfl, hafter⟩
    | ok _ =>
      simp only [exec, hwrite, hwrite'] at hfree ⊢
      exact (ih hafter hfree.tail).after _
  | load template next ih =>
    rcases hload : around.load template state with ⟨failure | text, after⟩
    · simp only [exec, hload] at hfree
      exact absurd (List.mem_singleton_self _) (hfree _ _)
    · simp only [exec, hload] at hfree
      exact absurd List.mem_cons_self (hfree _ _)

/-! ## Where every template is refused -/

variable {provider : Provider} {root : Path} {site : Site} {sites : List Site} {state state' : σ}
  {acts acts' : List Act} {failure : Failure} {shut : σ → Prop}

/-- How visits end where every template is refused, told from their acts. -/
structure Thwarted {β : Type} (failure : Failure) (sites : List Site) (acts : List Act)
    (result : Except Failure β) : Prop where
  looks : ∀ path answer, .isPresent path answer ∈ acts → ∃ template, .file template path ∈ sites
  failed_iff : result = .error failure ↔ ∃ path, .isPresent path false ∈ acts
  no_write : ∀ path text answer, .write path text answer ∉ acts
  no_load : result ≠ .error failure → Act.LoadNothing acts

/-- A visit fails for want of a template exactly if it looks for a file in vain. -/
theorem Visit.thwarted {result : Except Failure Entry}
    (hwithholds : around.Withholds failure shut) (hshut : shut state)
    (hvisit : Visit around provider site state acts result state') :
    Thwarted failure [site] acts result ∧ shut state' := by
  cases hvisit with
  | directoryFound hlook =>
    have hafter := hlook ▸ hwithholds.isDirectory _ hshut
    refine ⟨?_, hafter⟩
    constructor <;> simp [Act.LoadNothing]
  | directoryMade hlook hmake =>
    have hafter := hlook ▸ hwithholds.isDirectory _ hshut
    obtain ⟨-, hmade⟩ := hmake ▸ hwithholds.makeDirectory _ hafter
    refine ⟨?_, hmade⟩
    constructor <;> simp [Act.LoadNothing]
  | directoryRefused hlook hmake =>
    have hafter := hlook ▸ hwithholds.isDirectory _ hshut
    obtain ⟨hother, hrefused⟩ := hmake ▸ hwithholds.makeDirectory _ hafter
    refine ⟨?_, hrefused⟩
    constructor <;> simp_all [Act.LoadNothing]
  | fileFound hlook =>
    have hafter := hlook ▸ hwithholds.isPresent _ hshut
    refine ⟨?_, hafter⟩
    constructor <;> simp [Act.LoadNothing]
  | templateRefused hlook hload =>
    have hafter := hlook ▸ hwithholds.isPresent _ hshut
    obtain ⟨hfailure, hrefused⟩ := hload ▸ hwithholds.load _ hafter
    obtain rfl := Except.error.inj hfailure
    refine ⟨?_, hrefused⟩
    constructor <;> simp
  | fileRefused hlook hload | fileMade hlook hload =>
    have hafter := hlook ▸ hwithholds.isPresent _ hshut
    obtain ⟨hfailure, -⟩ := hload ▸ hwithholds.load _ hafter
    cases hfailure

/-- A tour fails for want of a template exactly if one of its visits looks for a file in vain. -/
theorem Tour.thwarted {result : Except Failure (List Entry)}
    (hwithholds : around.Withholds failure shut) (hshut : shut state)
    (htour : Tour around provider sites state acts result state') :
    Thwarted failure sites acts result ∧ shut state' := by
  induction htour with
  | done =>
    refine ⟨?_, hshut⟩
    constructor <;> simp [Act.LoadNothing]
  | stop hvisit =>
    obtain ⟨⟨hlooks, hfailed, hwrite, hload⟩, hafter⟩ := hvisit.thwarted hwithholds hshut
    refine ⟨⟨?_, ?_, hwrite, ?_⟩, hafter⟩
    · intro path answer hmem
      obtain ⟨template, hsite⟩ := hlooks path answer hmem
      exact ⟨template, List.mem_cons.mpr (.inl (List.mem_singleton.mp hsite))⟩
    · rw [← hfailed]
      simp
    · intro hother
      exact hload fun hsame => hother (by simpa using hsame)
  | @go site rest _ _ _ acts acts' entry result hvisit _ ih =>
    obtain ⟨⟨hlooks, hfailed, hwrite, hload⟩, hmiddle⟩ := hvisit.thwarted hwithholds hshut
    obtain ⟨⟨hlooks', hfailed', hwrite', hload'⟩, hafter⟩ := ih hmiddle
    have hfound : ¬ ∃ path, .isPresent path false ∈ acts := fun hmissing =>
      nomatch hfailed.mpr hmissing
    have hresult : result.map (entry :: ·) = .error failure ↔ result = .error failure := by
      cases result <;> simp [Except.map]
    refine ⟨⟨?_, ?_, ?_, ?_⟩, hafter⟩
    · intro path answer hmem
      rcases List.mem_append.mp hmem with hmem | hmem
      · obtain ⟨template, hsite⟩ := hlooks path answer hmem
        exact ⟨template, List.mem_cons.mpr (.inl (List.mem_singleton.mp hsite))⟩
      · obtain ⟨template, hsite⟩ := hlooks' path answer hmem
        exact ⟨template, List.mem_cons_of_mem site hsite⟩
    · rw [hresult, hfailed']
      simp only [List.mem_append, exists_or, hfound, false_or]
    · intro path text answer hmem
      exact (List.mem_append.mp hmem).elim (hwrite path text answer) (hwrite' path text answer)
    · intro hother
      exact (hload nofun).append (hload' fun hsame => hother (hresult.mpr hsame))

/-- A tour that comes to its end found or made every directory. -/
theorem Tour.directory_in_place {path : Path} {entries : List Entry}
    (htour : Tour around provider sites state acts (.ok entries) state')
    (hmem : .directory path ∈ sites) :
    .isDirectory path true ∈ acts ∨ .makeDirectory path (.ok ()) ∈ acts := by
  generalize hresult : Except.ok entries = result at htour
  induction htour generalizing entries with
  | done => cases hmem
  | stop => cases hresult
  | @go site rest _ _ _ acts acts' entry result hvisit _ ih =>
    rcases List.mem_cons.mp hmem with rfl | hrest
    · cases hvisit with
      | directoryFound => exact .inl (List.mem_append_left _ (by simp))
      | directoryMade => exact .inr (List.mem_append_left _ (by simp))
    · obtain ⟨later, rfl, -⟩ := exists_of_map_eq_ok hresult.symm
      exact (ih hrest rfl).imp (List.mem_append_right acts) (List.mem_append_right acts)

/-- A scaffold that fails for want of a template is at a file, and has all directories behind it. -/
theorem Tour.exists_stop_withheld (hwithholds : around.Withholds failure shut) (hshut : shut state)
    (htour : Tour around provider (provider.sites root) state acts (.error failure) state') :
    ∃ before template after first last entries middle looked,
      provider.sites root = before ++ .file template (provider.file root template) :: after ∧
      (∀ path ∈ provider.directories root, .directory path ∈ before) ∧ acts = first ++ last ∧
      Tour around provider before state first (.ok entries) middle ∧
      around.isPresent (provider.file root template) middle = (false, looked) ∧
      around.load template looked = (.error failure, state') := by
  obtain ⟨before, site, after, first, last, entries, middle, hsites, hacts, hbefore, hstop⟩ :=
    htour.exists_stop
  obtain ⟨-, hmiddle⟩ := hbefore.thwarted hwithholds hshut
  obtain ⟨hthwarted, -⟩ := hstop.thwarted hwithholds hmiddle
  obtain ⟨path, hmissing⟩ := hthwarted.failed_iff.mp rfl
  obtain ⟨template, hmem⟩ := hthwarted.looks path false hmissing
  obtain rfl := (List.mem_singleton.mp hmem).symm
  obtain ⟨rfl, hsplit⟩ := Provider.before_eq_of_sites_eq hsites
  have hdirectories : ∀ path ∈ provider.directories root, .directory path ∈ before := by
    intro path hpath
    rw [hsplit]
    exact List.mem_append_left _ (List.mem_map_of_mem hpath)
  cases hstop with
  | templateRefused hlook hload =>
    exact ⟨before, template, after, first, _, entries, middle, _, hsites, hdirectories, hacts,
      hbefore, hlook, hload⟩
  | fileRefused hlook hload =>
    have hlooked := hlook ▸ hwithholds.isPresent _ hmiddle
    obtain ⟨hfailure, -⟩ := hload ▸ hwithholds.load _ hlooked
    cases hfailure

/-- A scaffold to which every template is refused fails for that exactly if it looks for a file in
vain.  Then all its directories are in place.  It writes nothing, and if it does not fail for that,
it asks for no template. -/
theorem scaffold_withheld (hwithholds : around.Withholds failure shut) (hshut : shut state)
    (provider : Provider) (root : Path) :
    let run := (scaffold provider root).exec around state
    (run.answer = .error failure ↔
        ∃ template, .isPresent (provider.file root template) false ∈ run.acts) ∧
      (run.answer = .error failure → ∀ path ∈ provider.directories root,
        .isDirectory path true ∈ run.acts ∨ .makeDirectory path (.ok ()) ∈ run.acts) ∧
      (∀ path text answer, .write path text answer ∉ run.acts) ∧
      (run.answer ≠ .error failure → Act.LoadNothing run.acts) ∧ shut run.state := by
  obtain ⟨acts, result, state', htour, hexec⟩ := @exec_scaffold _ around provider root state
  obtain ⟨⟨hlooks, hfailed, hwrite, hload⟩, hafter⟩ := htour.thwarted hwithholds hshut
  have hfile : (∃ path, .isPresent path false ∈ acts) ↔
      ∃ template, .isPresent (provider.file root template) false ∈ acts := by
    constructor
    · intro hmissing
      obtain ⟨path, hmem⟩ := hmissing
      obtain ⟨template, hsite⟩ := hlooks path false hmem
      obtain ⟨before, after, hsites⟩ := List.append_of_mem hsite
      obtain ⟨rfl, -⟩ := Provider.before_eq_of_sites_eq hsites
      exact ⟨template, hmem⟩
    · intro hmissing
      obtain ⟨template, hmem⟩ := hmissing
      exact ⟨_, hmem⟩
  rw [hfile] at hfailed
  rw [hexec]
  cases result with
  | error other =>
    refine ⟨?_, ?_, hwrite, ?_, hafter⟩
    · rw [← hfailed]
      simp
    · rintro ⟨⟩ path hpath
      obtain ⟨before, template, after, first, last, entries, middle, looked, -, hdirectories, rfl,
        hbefore, -⟩ := htour.exists_stop_withheld hwithholds hshut
      exact (hbefore.directory_in_place (hdirectories path hpath)).imp
        (List.mem_append_left last) (List.mem_append_left last)
    · intro hother
      exact hload fun hsame => hother (by simpa using hsame)
  | ok entries =>
    refine ⟨?_, nofun, ?_, ?_, hafter⟩
    · simpa using hfailed
    · intro path text answer hmem
      exact hwrite path text answer (by simpa using hmem)
    · intro _ template answer hmem
      exact hload nofun template answer (by simpa using hmem)

end Script

end Scaffolding
