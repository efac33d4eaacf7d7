import Scaffolding.Proofs.Disk.Confinement

/-!
# Where a scaffold on a disk stops

A site that was found or made stays, so the sites that a scaffold got
through are on the disk when it ends.  The site at which it stops is not
there: it was looked for in vain, and what is refused changes nothing.

* `Built.holds` is the first half and `Visit.refusal` the second, where
  `Refusal` lists the four ways to stop, each with the act that failed.
* `scaffold_cases` is the result, for every run of a scaffold.
-/

namespace Scaffolding

open Report (Entry)

namespace Disk

variable {disk disk' : Disk} {templates path : Path} {provider : Provider} {root : Path}
  {site : Site} {sites : List Site} {entries : List Entry} {location : Location} {node : Node}
  {failure : Failure}

/-! ## What is there at the end -/

/-- What was made is found. -/
theorem Makes.holds_insert (hmakes : disk.Makes site location node) :
    (disk.insert location node).holds site = true := by
  have hraised : Raised disk (disk.insert location node) site location node :=
    ⟨[], disk, .refl _, hmakes, .refl _⟩
  have hlocate := hraised.locate_eq
  cases hmakes with
  | directory => exact isDirectory_eq_true_iff.mpr ⟨_, hlocate⟩
  | file => exact isPresent_eq_true_iff.mpr ⟨_, _, hlocate⟩

theorem Built.holds (hbuilt : Built sites disk entries disk') (hsite : site ∈ sites) :
    disk'.holds site = true := by
  induction hbuilt with
  | done => cases hsite
  | found hholds hrest ih =>
    rcases List.mem_cons.mp hsite with rfl | hsite
    · exact hrest.extends.holds hholds
    · exact ih hsite
  | made hmakes hrest ih =>
    rcases List.mem_cons.mp hsite with rfl | hsite
    · exact hrest.extends.holds hmakes.holds_insert
    · exact ih hsite

theorem Built.map_path (hbuilt : Built sites disk entries disk') :
    entries.map Entry.path = sites.map Site.path := by
  induction hbuilt with
  | done => rfl
  | found _ _ ih => rw [List.map_cons, List.map_cons, ih]; rfl
  | made _ _ ih => rw [List.map_cons, List.map_cons, ih]; rfl

/-! ## What is refused -/

/-- The ways in which a disk with a directory of templates stops a scaffold at a site: the act that
fails, and the failure. -/
inductive Refusal (templates : Path) : Site → Act → Failure → Prop where
  | directory {path : Path} {reason : String} :
    Refusal templates (.directory path) (.makeDirectory path (.error (.filesystem path reason)))
      (.filesystem path reason)
  | unavailable {template : Template} {path source : Path} {reason : String}
      (hsource : source = Installation.templateFile templates template) :
    Refusal templates (.file template path)
      (.load template (.error (.templateUnavailable template.fileName source reason)))
      (.templateUnavailable template.fileName source reason)
  | unreadable {template : Template} {path source : Path} {reason : String}
      (hsource : source = Installation.templateFile templates template) :
    Refusal templates (.file template path)
      (.load template (.error (.templateUnreadable template.fileName source reason)))
      (.templateUnreadable template.fileName source reason)
  | file {template : Template} {path : Path} {text reason : String} :
    Refusal templates (.file template path) (.write path text (.error (.filesystem path reason)))
      (.filesystem path reason)

theorem obey_eq_error {answer : Except Failure Disk}
    (hrefused : disk.obey answer = (.error failure, disk')) :
    answer = .error failure ∧ disk' = disk := by
  cases answer with
  | ok _ => cases hrefused
  | error other =>
    cases hrefused
    exact ⟨rfl, rfl⟩

theorem ensureDirectory_eq_error (hrefused : disk.ensureDirectory path = (.error failure, disk')) :
    (∃ reason, failure = .filesystem path reason) ∧ disk' = disk := by
  unfold ensureDirectory at hrefused
  split at hrefused
  · cases hrefused
  · obtain ⟨hanswer, hsame⟩ := obey_eq_error hrefused
    unfold directoryAnswer at hanswer
    split at hanswer
    · cases hanswer
    · cases hanswer
      exact ⟨⟨_, rfl⟩, hsame⟩

theorem writeText_eq_error {text : String}
    (hrefused : disk.writeText path text = (.error failure, disk')) :
    (∃ reason, failure = .filesystem path reason) ∧ disk' = disk := by
  obtain ⟨hanswer, hsame⟩ := obey_eq_error hrefused
  unfold fileAnswer at hanswer
  split at hanswer
  · cases hanswer
  · cases hanswer
    exact ⟨⟨_, rfl⟩, hsame⟩

theorem refusal_of_loadTemplate {template : Template}
    (hload : disk.loadTemplate templates template = .error failure) :
    Refusal templates (.file template path) (.load template (.error failure)) failure := by
  unfold loadTemplate templateAnswer at hload
  simp only at hload
  split at hload
  · cases hload
  · split at hload
    · cases hload
      exact .unavailable rfl
    · cases hload
      exact .unreadable rfl

end Disk

namespace Script

variable {templates : Path} {provider : Provider} {disk disk' : Disk} {acts : List Act}
  {failure : Failure}

/-- A visit that fails did not find its site, left the disk as it was, and did the refused act
last. -/
theorem Visit.refusal {site : Site}
    (hvisit : Visit (Disk.surroundings templates) provider site disk acts (.error failure) disk') :
    disk' = disk ∧ disk.holds site = false ∧
      ∃ act, acts.getLast? = some act ∧ Disk.Refusal templates site act failure := by
  cases hvisit with
  | directoryRefused hlook hmake =>
    obtain ⟨hmissing, rfl⟩ := Prod.mk.inj hlook
    obtain ⟨⟨reason, rfl⟩, hsame⟩ := Disk.ensureDirectory_eq_error hmake
    exact ⟨hsame, hmissing, _, rfl, .directory⟩
  | templateRefused hlook hload =>
    obtain ⟨hmissing, rfl⟩ := Prod.mk.inj hlook
    obtain ⟨hrefused, hsame⟩ := Prod.mk.inj hload
    exact ⟨hsame.symm, hmissing, _, rfl, Disk.refusal_of_loadTemplate hrefused⟩
  | fileRefused hlook hload hwrite =>
    obtain ⟨hmissing, rfl⟩ := Prod.mk.inj hlook
    obtain ⟨-, rfl⟩ := Prod.mk.inj hload
    obtain ⟨⟨reason, rfl⟩, hsame⟩ := Disk.writeText_eq_error hwrite
    exact ⟨hsame, hmissing, _, rfl, .file⟩

/-- A scaffold on a disk gets through all sites, and all are there.  Or it stops at one that is not
there, behind sites that are. -/
theorem scaffold_cases (templates : Path) (provider : Provider) (root : Path) (disk : Disk) :
    let run := (scaffold provider root).exec (Disk.surroundings templates) disk
    (∃ entries event, run.answer = .ok ⟨provider, provider.home root, entries⟩ ∧
        entries.map Entry.path = (provider.sites root).map Site.path ∧
        run.acts.getLast? = some (.note event) ∧
        ∀ site ∈ provider.sites root, run.state.holds site = true) ∨
      ∃ before site after act failure, provider.sites root = before ++ site :: after ∧
        run.answer = .error failure ∧ run.acts.getLast? = some act ∧
        Disk.Refusal templates site act failure ∧ run.state.holds site = false ∧
        ∀ earlier ∈ before, run.state.holds earlier = true := by
  intro run
  obtain ⟨acts, result, disk', htour, hexec⟩ :=
    @exec_scaffold _ (Disk.surroundings templates) provider root disk
  have hlies := Disk.liesOn_surroundings templates
  cases result with
  | ok entries =>
    have hbuilt := htour.built hlies
    have hrun : run = _ := hexec
    rw [hrun]
    exact .inl ⟨entries, _, rfl, hbuilt.map_path, List.getLast?_concat, fun _ => hbuilt.holds⟩
  | error failure =>
    obtain ⟨before, site, after, first, last, entries, _, hsites, rfl, hfirst, hstop⟩ :=
      htour.exists_stop
    obtain ⟨rfl, hmissing, act, hlast, hrefusal⟩ := hstop.refusal
    have hrun : run = _ := hexec
    rw [hrun]
    refine .inr ⟨before, site, after, act, failure, hsites, rfl, ?_, hrefusal, hmissing, ?_⟩
    · rw [List.getLast?_append, hlast]
      rfl
    · exact fun _ => (hfirst.built hlies).holds

end Script

end Scaffolding
