import Scaffolding.Proofs.Path.Spelling
import Scaffolding.Proofs.Provider.Layout
import Scaffolding.Proofs.Script.Mirror

/-!
# Output roots that are spelled otherwise

The paths of a provider are those of the output root with names behind
them.  Below another spelling of the root they are other spellings of the
same paths, and so the scripts there are the same but for that.

* `Failure.Respelled`, `Event.Respelled` and `Report.Respelled` relate what
  differs in the spelling of paths only, and `Likeness.spelling` takes that
  for the same.
* `sites_respelled` is the layout, and `Task.Respelled.scripts` what comes
  of it for the scripts.
-/

namespace Scaffolding

open Report (Entry)

variable {path path' root root' : Path} {α β : Type} {ended : α → β → Prop}

/-! ## Other spellings of the same -/

/-- That two failures differ in the spelling of a path only. -/
inductive Failure.Respelled : Failure → Failure → Prop where
  | invalidName (name reason : String) :
    Respelled (.invalidName name reason) (.invalidName name reason)
  | templateUnavailable {path path' : Path} (template : String) (hpath : path ≈ path')
      (reason : String) :
    Respelled (.templateUnavailable template path reason) (.templateUnavailable template path' reason)
  | templateUnreadable {path path' : Path} (template : String) (hpath : path ≈ path')
      (reason : String) :
    Respelled (.templateUnreadable template path reason) (.templateUnreadable template path' reason)
  | filesystem {path path' : Path} (hpath : path ≈ path') (reason : String) :
    Respelled (.filesystem path reason) (.filesystem path' reason)
  | lockPoisoned : Respelled .lockPoisoned .lockPoisoned

theorem Failure.Respelled.refl (failure : Failure) : failure.Respelled failure := by
  cases failure with
  | invalidName name reason => exact .invalidName name reason
  | templateUnavailable template path reason =>
    exact .templateUnavailable template (Setoid.refl path) reason
  | templateUnreadable template path reason =>
    exact .templateUnreadable template (Setoid.refl path) reason
  | filesystem path reason => exact .filesystem (Setoid.refl path) reason
  | lockPoisoned => exact .lockPoisoned

/-- That two events differ in the spelling of a path only. -/
inductive Event.Respelled : Event → Event → Prop where
  | directoryFound {path path' : Path} (hpath : path ≈ path') :
    Respelled (.directoryFound path) (.directoryFound path')
  | directoryMade {path path' : Path} (hpath : path ≈ path') :
    Respelled (.directoryMade path) (.directoryMade path')
  | fileSkipped {path path' : Path} (hpath : path ≈ path') :
    Respelled (.fileSkipped path) (.fileSkipped path')
  | templateRead (template : Template) : Respelled (.templateRead template) (.templateRead template)
  | fileMade {path path' : Path} (template : Template) (hpath : path ≈ path') (bytes : Nat) :
    Respelled (.fileMade template path bytes) (.fileMade template path' bytes)
  | completed (created skipped : Nat) :
    Respelled (.completed created skipped) (.completed created skipped)

/-- Paths of one meaning count as the same, and what differs in them only. -/
def Likeness.spelling : Likeness where
  path := (· ≈ ·)
  event := Event.Respelled
  failure := Failure.Respelled

/-- That two sites differ in the spelling of their path only. -/
inductive Site.Respelled : Site → Site → Prop where
  | directory {path path' : Path} (hpath : path ≈ path') :
    Respelled (.directory path) (.directory path')
  | file {path path' : Path} (template : Template) (hpath : path ≈ path') :
    Respelled (.file template path) (.file template path')

/-- That two entries differ in the spelling of their path only. -/
structure Report.Entry.Respelled (entry entry' : Entry) : Prop where
  path_equiv : entry.path ≈ entry'.path
  kind_eq : entry.kind = entry'.kind
  outcome_eq : entry.outcome = entry'.outcome

/-- That two reports differ in the spelling of their paths only. -/
structure Report.Respelled (report report' : Report) : Prop where
  provider_eq : report.provider = report'.provider
  home_equiv : report.home ≈ report'.home
  entries : List.Forall₂ Entry.Respelled report.entries report'.entries

theorem Report.Respelled.count_eq {report report' : Report} (hreports : report.Respelled report')
    (outcome : Outcome) : report.count outcome = report'.count outcome := by
  obtain ⟨provider, home, entries⟩ := report
  obtain ⟨provider', home', entries'⟩ := report'
  obtain ⟨-, -, hentries⟩ := hreports
  unfold Report.count
  simp only at hentries ⊢
  induction hentries with
  | nil => rfl
  | cons hentry _ ih => rw [List.countP_cons, List.countP_cons, ih, hentry.outcome_eq]

/-! ## The sites of a provider -/

theorem Provider.home_respelled (provider : Provider) (hroot : root ≈ root') :
    provider.home root ≈ provider.home root' :=
  Path.child_congr provider.isName_name hroot

theorem Provider.sites_respelled (provider : Provider) (hroot : root ≈ root') :
    List.Forall₂ Site.Respelled (provider.sites root) (provider.sites root') := by
  have hhome := provider.home_respelled hroot
  unfold sites directories
  refine List.rel_append ?_ ?_
  · rw [List.forall₂_map_left_iff, List.forall₂_map_right_iff]
    refine .cons (.directory hhome) ?_
    rw [List.forall₂_map_left_iff, List.forall₂_map_right_iff, List.forall₂_same]
    intro text htext
    exact .directory (Path.child_congr (isName_of_mem_subdirectories htext) hhome)
  · rw [List.forall₂_map_left_iff, List.forall₂_map_right_iff, List.forall₂_same]
    intro template _
    exact .file template (Path.child_congr (provider.isName_target template) hhome)

/-! ## The scripts -/

namespace Script

theorem scripts_visit (provider : Provider) {site site' : Site} {next : Entry → Script α}
    {next' : Entry → Script β} (hsite : site.Respelled site')
    (hnext : ∀ {entry entry'}, Entry.Respelled entry entry' →
      Likeness.spelling.Scripts ended (next entry) (next' entry')) :
    Likeness.spelling.Scripts ended (visit provider site next) (visit provider site' next') := by
  cases hsite with
  | directory hpath =>
    refine .isDirectory hpath fun there => ?_
    cases there with
    | true => exact .note (Event.Respelled.directoryFound hpath) (hnext ⟨hpath, rfl, rfl⟩)
    | false =>
      exact .makeDirectory hpath <|
        .note (Event.Respelled.directoryMade hpath) (hnext ⟨hpath, rfl, rfl⟩)
  | file template hpath =>
    refine .isPresent hpath fun there => ?_
    cases there with
    | true => exact .note (Event.Respelled.fileSkipped hpath) (hnext ⟨hpath, rfl, rfl⟩)
    | false =>
      refine .note (Event.Respelled.templateRead template) (.load template fun text => ?_)
      exact .write hpath _ <|
        .note (Event.Respelled.fileMade template hpath _) (hnext ⟨hpath, rfl, rfl⟩)

theorem scripts_inspect {site site' : Site} {next : Entry → Script α} {next' : Entry → Script β}
    (hsite : site.Respelled site')
    (hnext : ∀ {entry entry'}, Entry.Respelled entry entry' →
      Likeness.spelling.Scripts ended (next entry) (next' entry')) :
    Likeness.spelling.Scripts ended (inspect site next) (inspect site' next') := by
  cases hsite with
  | directory hpath => exact .isDirectory hpath fun there => hnext ⟨hpath, rfl, rfl⟩
  | file template hpath => exact .isPresent hpath fun there => hnext ⟨hpath, rfl, rfl⟩

theorem scripts_through {one : Site → (Entry → Script α) → Script α}
    {one' : Site → (Entry → Script β) → Script β} {sites sites' : List Site}
    (hsites : List.Forall₂ Site.Respelled sites sites')
    (hone : ∀ {site site' next next'}, Site.Respelled site site' →
      (∀ {entry entry'}, Entry.Respelled entry entry' →
        Likeness.spelling.Scripts ended (next entry) (next' entry')) →
      Likeness.spelling.Scripts ended (one site next) (one' site' next'))
    {next : List Entry → Script α} {next' : List Entry → Script β}
    (hnext : ∀ {entries entries'}, List.Forall₂ Entry.Respelled entries entries' →
      Likeness.spelling.Scripts ended (next entries) (next' entries')) :
    Likeness.spelling.Scripts ended (through one sites next) (through one' sites' next') := by
  induction hsites generalizing next next' with
  | nil => exact hnext .nil
  | cons hsite _ ih => exact hone hsite fun hentry => ih fun hentries => hnext (.cons hentry hentries)

/-- A scaffold is the same below every spelling of the output root. -/
theorem scripts_scaffold (provider : Provider) (hroot : root ≈ root') :
    Likeness.spelling.Scripts Report.Respelled (scaffold provider root) (scaffold provider root') := by
  refine scripts_through (provider.sites_respelled hroot) (scripts_visit provider) ?_
  intro entries entries' hentries
  have hreports : Report.Respelled ⟨provider, provider.home root, entries⟩
      ⟨provider, provider.home root', entries'⟩ :=
    ⟨rfl, provider.home_respelled hroot, hentries⟩
  simp only [hreports.count_eq]
  exact .note (Event.Respelled.completed _ _) (.done hreports)

theorem scripts_plan (provider : Provider) (hroot : root ≈ root') :
    Likeness.spelling.Scripts Report.Respelled (plan provider root) (plan provider root') :=
  scripts_through (provider.sites_respelled hroot) scripts_inspect fun hentries =>
    .done ⟨rfl, provider.home_respelled hroot, hentries⟩

/-- That two tasks differ in the spelling of the output root only. -/
inductive Task.Respelled : Task → Task → Prop where
  | scaffold {root root' : Path} (provider : Provider) (hroot : root ≈ root') :
    Respelled (.scaffold provider root) (.scaffold provider root')
  | plan {root root' : Path} (provider : Provider) (hroot : root ≈ root') :
    Respelled (.plan provider root) (.plan provider root')

theorem Task.Respelled.scripts {task task' : Task} (htasks : task.Respelled task') :
    Likeness.spelling.Scripts Report.Respelled task.script task'.script := by
  cases htasks with
  | scaffold provider hroot => exact scripts_scaffold provider hroot
  | plan provider hroot => exact scripts_plan provider hroot

end Script

end Scaffolding
