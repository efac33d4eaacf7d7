import Scaffolding.Script.Scaffold

/-!
# The tour of the sites

`Script.scaffold` visits sites one by one and stops at the first visit
that fails.  `Visit` lists the seven ways in which one visit can go, each
with all the answers that lead to it, and `Tour` strings visits together.
Both are relations on the surroundings' states, so a proof about a run
needs one case for every way of a visit and one induction on the tour.

* `Tour.of_found` is the tour that finds everything.
* `exec_scaffold` and `exec_plan` open the two scripts.  No later proof
  unfolds `Script.exec`.
-/

namespace Scaffolding

open Report (Entry Kind Outcome)

/-! ## What is said of a site -/

namespace Site

/-- What a site is in a report. -/
def kind : Site → Kind
  | .directory _ => .directory
  | .file _ _ => .file

/-- The entry of a site in a report. -/
def entry (site : Site) (outcome : Outcome) : Entry := ⟨site.path, site.kind, outcome⟩

/-- The entries that a visit can leave. -/
def Reported (site : Site) (entry : Entry) : Prop :=
  entry = site.entry .created ∨ entry = site.entry .alreadyExists

/-- The call that finds a site. -/
def sighting : Site → Act
  | .directory path => .isDirectory path true
  | .file _ path => .isPresent path true

end Site

/-- An entry as a plan has it. -/
def Report.Entry.asPlanned (entry : Entry) : Entry :=
  { entry with outcome := if entry.outcome = .created then .wouldCreate else entry.outcome }

/-- A report as a plan has it. -/
def Report.asPlanned (report : Report) : Report :=
  { report with entries := report.entries.map Entry.asPlanned }

variable {σ α : Type}

/-- The answer to a look at a site, and the state afterwards. -/
def Surroundings.look (around : Surroundings σ) (state : σ) : Site → Bool × σ
  | .directory path => around.isDirectory path state
  | .file _ path => around.isPresent path state

/-- Whether a look at a site finds it. -/
def Surroundings.finds (around : Surroundings σ) (state : σ) : Site → Bool
  | .directory path => (around.isDirectory path state).1
  | .file _ path => (around.isPresent path state).1

theorem Act.calls_append (acts acts' : List Act) :
    Act.calls (acts ++ acts') = Act.calls acts ++ Act.calls acts' :=
  List.filter_append acts acts'

/-- The run that does some more acts at its start. -/
def Run.afterAll (acts : List Act) (run : Run σ α) : Run σ α :=
  { run with acts := acts ++ run.acts }

namespace Script

variable {around : Surroundings σ} {provider : Provider}

/-! ## One visit -/

/-- The ways in which the visit of a site can go: the acts, the entry or the failure, and the state
that is left. -/
inductive Visit (around : Surroundings σ) (provider : Provider) :
    Site → σ → List Act → Except Failure Entry → σ → Prop where
  | directoryFound {path : Path} {state state₁ : σ}
      (hlook : around.isDirectory path state = (true, state₁)) :
      Visit around provider (.directory path) state
        [.isDirectory path true, .note (.directoryFound path)]
        (.ok ((Site.directory path).entry .alreadyExists)) state₁
  | directoryMade {path : Path} {state state₁ state₂ : σ}
      (hlook : around.isDirectory path state = (false, state₁))
      (hmake : around.makeDirectory path state₁ = (.ok (), state₂)) :
      Visit around provider (.directory path) state
        [.isDirectory path false, .makeDirectory path (.ok ()), .note (.directoryMade path)]
        (.ok ((Site.directory path).entry .created)) state₂
  | directoryRefused {path : Path} {state state₁ state₂ : σ} {failure : Failure}
      (hlook : around.isDirectory path state = (false, state₁))
      (hmake : around.makeDirectory path state₁ = (.error failure, state₂)) :
      Visit around provider (.directory path) state
        [.isDirectory path false, .makeDirectory path (.error failure)]
        (.error failure) state₂
  | fileFound {template : Template} {path : Path} {state state₁ : σ}
      (hlook : around.isPresent path state = (true, state₁)) :
      Visit around provider (.file template path) state
        [.isPresent path true, .note (.fileSkipped path)]
        (.ok ((Site.file template path).entry .alreadyExists)) state₁
  | templateRefused {template : Template} {path : Path} {state state₁ state₂ : σ}
      {failure : Failure}
      (hlook : around.isPresent path state = (false, state₁))
      (hload : around.load template state₁ = (.error failure, state₂)) :
      Visit around provider (.file template path) state
        [.isPresent path false, .note (.templateRead template), .load template (.error failure)]
        (.error failure) state₂
  | fileRefused {template : Template} {path : Path} {state state₁ state₂ state₃ : σ}
      {text : String} {failure : Failure}
      (hlook : around.isPresent path state = (false, state₁))
      (hload : around.load template state₁ = (.ok text, state₂))
      (hwrite : around.write path (instantiate text provider) state₂ = (.error failure, state₃)) :
      Visit around provider (.file template path) state
        [.isPresent path false, .note (.templateRead template), .load template (.ok text),
          .write path (instantiate text provider) (.error failure)]
        (.error failure) state₃
  | fileMade {template : Template} {path : Path} {state state₁ state₂ state₃ : σ}
      {text : String}
      (hlook : around.isPresent path state = (false, state₁))
      (hload : around.load template state₁ = (.ok text, state₂))
      (hwrite : around.write path (instantiate text provider) state₂ = (.ok (), state₃)) :
      Visit around provider (.file template path) state
        [.isPresent path false, .note (.templateRead template), .load template (.ok text),
          .write path (instantiate text provider) (.ok ()),
          .note (.fileMade template path (instantiate text provider).utf8ByteSize)]
        (.ok ((Site.file template path).entry .created)) state₃

theorem exec_visit (site : Site) (next : Entry → Script α) (state : σ) :
    ∃ acts result state₁, Visit around provider site state acts result state₁ ∧
      (visit provider site next).exec around state =
        match result with
        | .ok entry => ((next entry).exec around state₁).afterAll acts
        | .error failure => ⟨acts, .error failure, state₁⟩ := by
  cases site with
  | directory path =>
    rcases hlook : around.isDirectory path state with ⟨there, state₁⟩
    cases there with
    | true =>
      refine ⟨_, _, _, .directoryFound hlook, ?_⟩
      simp only [visit, exec, hlook, if_true]
      rfl
    | false =>
      rcases hmake : around.makeDirectory path state₁ with ⟨failure | answer, state₂⟩
      · refine ⟨_, _, _, .directoryRefused hlook hmake, ?_⟩
        simp only [visit, exec, hlook, hmake, Bool.false_eq_true, if_false]
        rfl
      · refine ⟨_, _, _, .directoryMade hlook hmake, ?_⟩
        simp only [visit, exec, hlook, hmake, Bool.false_eq_true, if_false]
        rfl
  | file template path =>
    rcases hlook : around.isPresent path state with ⟨there, state₁⟩
    cases there with
    | true =>
      refine ⟨_, _, _, .fileFound hlook, ?_⟩
      simp only [visit, exec, hlook, if_true]
      rfl
    | false =>
      rcases hload : around.load template state₁ with ⟨failure | text, state₂⟩
      · refine ⟨_, _, _, .templateRefused hlook hload, ?_⟩
        simp only [visit, exec, hlook, hload, Bool.false_eq_true, if_false]
        rfl
      · rcases hwrite : around.write path (instantiate text provider) state₂ with
          ⟨failure | answer, state₃⟩
        · refine ⟨_, _, _, .fileRefused hlook hload hwrite, ?_⟩
          simp only [visit, exec, hlook, hload, hwrite, Bool.false_eq_true, if_false]
          rfl
        · refine ⟨_, _, _, .fileMade hlook hload hwrite, ?_⟩
          simp only [visit, exec, hlook, hload, hwrite, Bool.false_eq_true, if_false]
          rfl

/-! ## One visit after another -/

theorem exists_of_map_eq_ok {ε β : Type} {answer : Except ε α} {change : α → β} {changed : β}
    (hmap : answer.map change = .ok changed) :
    ∃ value, answer = .ok value ∧ change value = changed := by
  cases answer with
  | error failure => cases hmap
  | ok value =>
    injection hmap with hmap
    exact ⟨value, rfl, hmap⟩

/-- Visits of sites in their order, up to the first that fails. -/
inductive Tour (around : Surroundings σ) (provider : Provider) :
    List Site → σ → List Act → Except Failure (List Entry) → σ → Prop where
  | done {state : σ} : Tour around provider [] state [] (.ok []) state
  | stop {site : Site} {rest : List Site} {state state₁ : σ} {acts : List Act}
      {failure : Failure}
      (hvisit : Visit around provider site state acts (.error failure) state₁) :
      Tour around provider (site :: rest) state acts (.error failure) state₁
  | go {site : Site} {rest : List Site} {state state₁ state₂ : σ} {acts acts' : List Act}
      {entry : Entry} {result : Except Failure (List Entry)}
      (hvisit : Visit around provider site state acts (.ok entry) state₁)
      (htour : Tour around provider rest state₁ acts' result state₂) :
      Tour around provider (site :: rest) state (acts ++ acts') (result.map (entry :: ·)) state₂

theorem exec_through (sites : List Site) (next : List Entry → Script α) (state : σ) :
    ∃ acts result state₁, Tour around provider sites state acts result state₁ ∧
      (through (visit provider) sites next).exec around state =
        match result with
        | .ok entries => ((next entries).exec around state₁).afterAll acts
        | .error failure => ⟨acts, .error failure, state₁⟩ := by
  induction sites generalizing state next with
  | nil => exact ⟨[], .ok [], state, .done, rfl⟩
  | cons site rest ih =>
    rw [through]
    obtain ⟨acts, result, state₁, hvisit, hexec⟩ :=
      exec_visit site
        (fun entry => through (visit provider) rest fun entries => next (entry :: entries)) state
    cases result with
    | error failure => exact ⟨acts, .error failure, state₁, .stop hvisit, hexec⟩
    | ok entry =>
      obtain ⟨acts', result, state₂, htour, hrest⟩ :=
        ih (fun entries => next (entry :: entries)) state₁
      refine ⟨acts ++ acts', result.map (entry :: ·), state₂, .go hvisit htour, ?_⟩
      rw [hexec]
      simp only
      rw [hrest]
      cases result with
      | error failure => rfl
      | ok entries =>
        show Run.afterAll acts (Run.afterAll acts' _) = Run.afterAll (acts ++ acts') _
        unfold Run.afterAll
        rw [List.append_assoc]

/-- A tour that fails got through the sites before the one at which it stops. -/
theorem Tour.exists_stop {sites : List Site} {state state' : σ} {acts : List Act}
    {failure : Failure} (htour : Tour around provider sites state acts (.error failure) state') :
    ∃ before site after first last entries state₁, sites = before ++ site :: after ∧
      acts = first ++ last ∧ Tour around provider before state first (.ok entries) state₁ ∧
      Visit around provider site state₁ last (.error failure) state' := by
  -- The failure is the result of every part of the tour, so the site is found at the end of it.
  generalize hresult : Except.error failure = result at htour
  induction htour with
  | done => cases hresult
  | @stop site rest state state₁ acts _ hvisit =>
    cases hresult
    exact ⟨[], site, rest, [], acts, [], state, rfl, rfl, .done, hvisit⟩
  | @go site _ _ _ _ acts _ entry result hvisit _ ih =>
    cases result with
    | ok entries => cases hresult
    | error other =>
      cases hresult
      obtain ⟨before, stopped, after, first, last, entries, state₁, rfl, rfl, htour, hstop⟩ :=
        ih rfl
      exact ⟨site :: before, stopped, after, acts ++ first, last, entry :: entries, state₁, rfl,
        (List.append_assoc _ _ _).symm, .go hvisit htour, hstop⟩

/-! ## What is there already -/

/-- The visit of a site that is there looks at it and does nothing else. -/
theorem Visit.of_found {site : Site} {state state' : σ} {acts : List Act}
    {result : Except Failure Entry} (hlook : around.look state site = (true, state))
    (hvisit : Visit around provider site state acts result state') :
    result = .ok (site.entry .alreadyExists) ∧ state' = state ∧
      Act.calls acts = [site.sighting] := by
  cases hvisit with
  | directoryFound hfound | fileFound hfound =>
    obtain ⟨-, rfl⟩ := Prod.mk.inj (hlook.symm.trans hfound)
    exact ⟨rfl, rfl, rfl⟩
  | directoryMade hmissing _ | directoryRefused hmissing _ | templateRefused hmissing _
    | fileRefused hmissing _ _ | fileMade hmissing _ _ =>
    cases (Prod.mk.inj (hlook.symm.trans hmissing)).1

/-- A tour of sites that are all there looks at each and does nothing else. -/
theorem Tour.of_found {sites : List Site} {state state' : σ} {acts : List Act}
    {result : Except Failure (List Entry)}
    (hlook : ∀ site ∈ sites, around.look state site = (true, state))
    (htour : Tour around provider sites state acts result state') :
    result = .ok (sites.map fun site => site.entry .alreadyExists) ∧ state' = state ∧
      Act.calls acts = sites.map Site.sighting := by
  induction htour with
  | done => exact ⟨rfl, rfl, rfl⟩
  | stop hvisit =>
    obtain ⟨hresult, -⟩ := hvisit.of_found (hlook _ List.mem_cons_self)
    cases hresult
  | go hvisit _ ih =>
    obtain ⟨hhere, hrest⟩ := List.forall_mem_cons.mp hlook
    obtain ⟨hentry, rfl, hcalls⟩ := hvisit.of_found hhere
    cases hentry
    obtain ⟨rfl, rfl, hcalls'⟩ := ih hrest
    refine ⟨rfl, rfl, ?_⟩
    rw [Act.calls_append, hcalls, hcalls', List.map_cons, List.singleton_append]

/-! ## The two scripts -/

theorem exec_scaffold (provider : Provider) (root : Path) (state : σ) :
    ∃ acts result state₁, Tour around provider (provider.sites root) state acts result state₁ ∧
      (scaffold provider root).exec around state =
        match result with
        | .ok entries =>
          let report : Report := ⟨provider, provider.home root, entries⟩
          ⟨acts ++ [.note (.completed (report.count .created) (report.count .alreadyExists))],
            .ok report, state₁⟩
        | .error failure => ⟨acts, .error failure, state₁⟩ := by
  obtain ⟨acts, result, state₁, htour, hexec⟩ :=
    exec_through (provider.sites root)
      (fun entries =>
        let report : Report := ⟨provider, provider.home root, entries⟩
        .note (.completed (report.count .created) (report.count .alreadyExists)) (.done report))
      state
  refine ⟨acts, result, state₁, htour, ?_⟩
  rw [scaffold, hexec]
  cases result <;> rfl

/-- Every run of a scaffold is a tour, with one note at the end if no visit fails. -/
theorem exists_tour (around : Surroundings σ) (provider : Provider) (root : Path) (state : σ) :
    ∃ acts result, Tour around provider (provider.sites root) state acts result
        ((scaffold provider root).exec around state).state ∧
      ((scaffold provider root).exec around state).answer =
        result.map (fun entries => ⟨provider, provider.home root, entries⟩) ∧
      Act.calls ((scaffold provider root).exec around state).acts = Act.calls acts := by
  obtain ⟨acts, result, state₁, htour, hexec⟩ :=
    @exec_scaffold _ around provider root state
  refine ⟨acts, result, ?_⟩
  rw [hexec]
  cases result with
  | error failure => exact ⟨htour, rfl, rfl⟩
  | ok entries =>
    refine ⟨htour, rfl, ?_⟩
    show Act.calls (acts ++ [_]) = _
    rw [Act.calls_append]
    exact List.append_nil _

theorem exec_through_inspect {state : σ}
    (hdirectory : ∀ path, (around.isDirectory path state).2 = state)
    (hpresent : ∀ path, (around.isPresent path state).2 = state) (sites : List Site)
    (next : List Entry → Script α) :
    ∃ acts, (through inspect sites next).exec around state =
      ((next (sites.map fun site =>
        site.entry (if around.finds state site then .alreadyExists else .wouldCreate))).exec
          around state).afterAll acts := by
  induction sites generalizing next with
  | nil => exact ⟨[], rfl⟩
  | cons site rest ih =>
    cases site with
    | directory path =>
      obtain ⟨acts, hrest⟩ := ih fun entries => next
        (⟨path, .directory, if (around.isDirectory path state).1 then .alreadyExists
          else .wouldCreate⟩ :: entries)
      refine ⟨.isDirectory path (around.isDirectory path state).1 :: acts, ?_⟩
      simp only [through, inspect, exec, hdirectory, hrest]
      rfl
    | file template path =>
      obtain ⟨acts, hrest⟩ := ih fun entries => next
        (⟨path, .file, if (around.isPresent path state).1 then .alreadyExists
          else .wouldCreate⟩ :: entries)
      refine ⟨.isPresent path (around.isPresent path state).1 :: acts, ?_⟩
      simp only [through, inspect, exec, hpresent, hrest]
      rfl

/-- A plan tells what each look finds, as long as looking changes nothing. -/
theorem exec_plan (provider : Provider) (root : Path) {state : σ}
    (hdirectory : ∀ path, (around.isDirectory path state).2 = state)
    (hpresent : ∀ path, (around.isPresent path state).2 = state) :
    ((plan provider root).exec around state).answer =
        .ok ⟨provider, provider.home root, (provider.sites root).map fun site =>
          site.entry (if around.finds state site then .alreadyExists else .wouldCreate)⟩ ∧
      ((plan provider root).exec around state).state = state := by
  obtain ⟨acts, hexec⟩ := exec_through_inspect hdirectory hpresent (provider.sites root)
    fun entries => .done (⟨provider, provider.home root, entries⟩ : Report)
  rw [plan, hexec]
  exact ⟨rfl, rfl⟩

end Script

end Scaffolding
