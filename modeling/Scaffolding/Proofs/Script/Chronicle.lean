import Scaffolding.Proofs.Script.Discipline

/-!
# What the events of a scaffold tell

A visit notes what became of its site behind the last of its calls, and a
visit that fails has nothing to note then.  So the events that tell of
files go along with the entries of the report, and where a scaffold stops
they go as far as the sites before.

* `Tells` says when an event tells of a file what its entry does, and
  `Chronicle` strings such events together.
* `Visit.chronicle` and `Tour.chronicle` make the chronicle.
* `chronicle_scaffold` is the result, for whatever a scaffold is run in.
-/

namespace Scaffolding

open Report (Entry)

/-- Whether an event tells what became of a file, or of everything. -/
def Event.isTold : Event → Bool
  | .fileSkipped _ | .fileMade _ _ _ | .completed _ _ => true
  | .directoryFound _ | .directoryMade _ | .templateRead _ => false

/-- The events among some acts that tell what became of a file, or of everything. -/
def Act.told (acts : List Act) : List Event :=
  (Act.events acts).filter Event.isTold

theorem Act.told_append (acts acts' : List Act) :
    Act.told (acts ++ acts') = Act.told acts ++ Act.told acts' := by
  unfold Act.told Act.events
  rw [List.filterMap_append, List.filter_append]

namespace Script

variable {σ : Type} {around : Surroundings σ} {provider : Provider} {site : Site}
  {sites sites' : List Site} {state state' : σ} {acts acts' : List Act} {entry : Entry}
  {entries : List Entry} {event : Event} {events : List Event} {failure : Failure}

/-! ## One event -/

/-- That an event tells of a file what its entry does, where there are these sites and these acts
were done.  A file that was made has as many bytes as the text that was written. -/
inductive Tells (provider : Provider) (sites : List Site) (acts : List Act) :
    Entry → Event → Prop where
  | skipped {template : Template} {path : Path} (hsite : .file template path ∈ sites)
      (hlook : .isPresent path true ∈ acts) :
      Tells provider sites acts ⟨path, .file, .alreadyExists⟩ (.fileSkipped path)
  | made {template : Template} {path : Path} {source : String}
      (hsite : .file template path ∈ sites) (hload : .load template (.ok source) ∈ acts)
      (hwrite : .write path (instantiate source provider) (.ok ()) ∈ acts) :
      Tells provider sites acts ⟨path, .file, .created⟩
        (.fileMade template path (instantiate source provider).utf8ByteSize)

theorem Tells.mono (hsites : sites ⊆ sites') (hacts : acts ⊆ acts')
    (htells : Tells provider sites acts entry event) :
    Tells provider sites' acts' entry event := by
  cases htells with
  | skipped hsite hlook => exact .skipped (hsites hsite) (hacts hlook)
  | made hsite hload hwrite => exact .made (hsites hsite) (hacts hload) (hacts hwrite)

/-! ## Chronicles -/

/-- That entries are for some sites, one for each, and that events tell of the files among them
what the entries do. -/
structure Chronicle (provider : Provider) (sites : List Site) (acts : List Act)
    (entries : List Entry) (events : List Event) : Prop where
  reported : List.Forall₂ Site.Reported sites entries
  tells : List.Forall₂ (Tells provider sites acts) (entries.filter (·.kind = .file)) events

theorem Chronicle.append {entries' : List Entry} {events' : List Event}
    (hfirst : Chronicle provider sites acts entries events)
    (hsecond : Chronicle provider sites' acts' entries' events') :
    Chronicle provider (sites ++ sites') (acts ++ acts') (entries ++ entries')
      (events ++ events') where
  reported := List.rel_append hfirst.reported hsecond.reported
  tells := by
    rw [List.filter_append]
    refine List.rel_append (hfirst.tells.imp fun _ _ => ?_) (hsecond.tells.imp fun _ _ => ?_)
    · exact Tells.mono (List.subset_append_left _ _) (List.subset_append_left _ _)
    · exact Tells.mono (List.subset_append_right _ _) (List.subset_append_right _ _)

theorem Chronicle.mono (hacts : acts ⊆ acts')
    (hchronicle : Chronicle provider sites acts entries events) :
    Chronicle provider sites acts' entries events where
  reported := hchronicle.reported
  tells := hchronicle.tells.imp fun _ _ => Tells.mono (List.Subset.refl _) hacts

/-- The events of a chronicle tell of files only. -/
theorem Chronicle.ne_completed (hchronicle : Chronicle provider sites acts entries events)
    {created skipped : Nat} (hevent : event ∈ events) : event ≠ .completed created skipped := by
  obtain ⟨-, htells⟩ := hchronicle
  generalize entries.filter _ = files at htells
  induction htells with
  | nil => cases hevent
  | cons htells _ ih =>
    rcases List.mem_cons.mp hevent with rfl | hrest
    · cases htells <;> exact nofun
    · exact ih hrest

theorem Visit.chronicle (hvisit : Visit around provider site state acts (.ok entry) state') :
    Chronicle provider [site] acts [entry] (Act.told acts) := by
  obtain ⟨-, -, hreported⟩ := hvisit.changes_eq
  refine ⟨.cons hreported .nil, ?_⟩
  cases hvisit with
  | directoryFound | directoryMade => exact .nil
  | fileFound => exact .cons (.skipped List.mem_cons_self (by simp [Site.path])) .nil
  | fileMade =>
    exact .cons (.made List.mem_cons_self (by simp) (by simp [Site.path])) .nil

/-- A visit that fails tells of nothing. -/
theorem Visit.told_of_error
    (hvisit : Visit around provider site state acts (.error failure) state') :
    Act.told acts = [] := by
  cases hvisit with
  | directoryRefused | templateRefused | fileRefused => rfl

theorem Tour.chronicle (htour : Tour around provider sites state acts (.ok entries) state') :
    Chronicle provider sites acts entries (Act.told acts) := by
  generalize hresult : (Except.ok entries : Except Failure (List Entry)) = result at htour
  induction htour generalizing entries with
  | done =>
    cases hresult
    exact ⟨.nil, .nil⟩
  | stop hvisit => cases hresult
  | go hvisit _ ih =>
    obtain ⟨rest, rfl, rfl⟩ := exists_of_map_eq_ok hresult.symm
    rw [Act.told_append]
    exact hvisit.chronicle.append (ih rfl)

/-! ## A whole scaffold -/

/-- The entries of a provider's sites count what was made and what was there, and nothing else. -/
theorem Chronicle.count_add {root : Path}
    (hchronicle : Chronicle provider (provider.sites root) acts entries events) :
    let report : Report := ⟨provider, provider.home root, entries⟩
    report.count .created + report.count .alreadyExists = 7 := by
  intro report
  have hlength : entries.length = 7 :=
    hchronicle.reported.length_eq.symm.trans (provider.length_sites root)
  have hother : entries.countP (fun entry => entry.outcome = .alreadyExists) =
      entries.countP fun entry => !decide (entry.outcome = .created) := by
    refine List.countP_congr fun entry hentry => ?_
    rcases outcome_of_mem_entries hchronicle.reported hentry with houtcome | houtcome
    · simp [houtcome]
    · simp [houtcome]
  rw [← hlength, List.length_eq_countP_add_countP fun entry => entry.outcome = .created]
  show entries.countP _ + entries.countP _ = _
  rw [hother]
  simp

/-- The events of a scaffold tell of the files what its report does, and then how many entries tell
of something made and how many do not.  Where the visit of a site fails they tell of the files
before, and of no end. -/
theorem chronicle_scaffold (around : Surroundings σ) (provider : Provider) (root : Path)
    (state : σ) :
    let run := (scaffold provider root).exec around state
    (∀ report, run.answer = .ok report → ∃ events,
      Act.told run.acts =
          events ++ [.completed (report.count .created) (report.count .alreadyExists)] ∧
        Chronicle provider (provider.sites root) run.acts report.entries events ∧
        report.count .created + report.count .alreadyExists = 7) ∧
    (∀ failure, run.answer = .error failure → ∃ before site after first last entries state₁,
      provider.sites root = before ++ site :: after ∧ run.acts = first ++ last ∧
        Visit around provider site state₁ last (.error failure) run.state ∧
        Chronicle provider before first entries (Act.told run.acts) ∧
        ∀ created skipped, .completed created skipped ∉ Act.told run.acts) := by
  intro run
  obtain ⟨acts, result, state', htour, hexec⟩ := @exec_scaffold _ around provider root state
  have hrun : run = _ := hexec
  rw [hrun]
  cases result with
  | ok entries =>
    refine ⟨?_, nofun⟩
    rintro report ⟨⟩
    have hchronicle := htour.chronicle
    refine ⟨Act.told acts, Act.told_append acts _, ?_, hchronicle.count_add⟩
    exact hchronicle.mono (List.subset_append_left _ _)
  | error failure =>
    refine ⟨nofun, ?_⟩
    rintro _ ⟨⟩
    obtain ⟨before, site, after, first, last, entries, state₁, hsites, rfl, hfirst, hstop⟩ :=
      htour.exists_stop
    have htold : Act.told (first ++ last) = Act.told first := by
      rw [Act.told_append, hstop.told_of_error, List.append_nil]
    refine ⟨before, site, after, first, last, entries, state₁, hsites, rfl, hstop, ?_, ?_⟩
    · rw [htold]
      exact hfirst.chronicle
    · intro created skipped hmem
      rw [htold] at hmem
      exact hfirst.chronicle.ne_completed hmem rfl

end Script

end Scaffolding
