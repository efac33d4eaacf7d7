import Scaffolding.Proofs.Command.Stages

/-!
# What the exit code tells

Whoever runs the command sees its exit code, and can tell from it what is
on the disk.

* A run that gets to no request changes nothing and says whose fault it is
  (`run_cases_of_request`), and a dry run changes nothing either
  (`Invokes.run_of_dryRun`).
* `Ends` are the four ways in which a provider is made or not, each with
  what is on the disk then, and `Invokes.ends` says that there is no other.
* `exitCode_run` is the result.
-/

namespace Scaffolding

/-- That the last of some acts found no file for a template. -/
def Act.EndForLackOf (acts : List Act) (template : Template) : Prop :=
  ∃ file source reason,
    acts.getLast? = some (.load template (.error (.templateUnavailable file source reason)))

namespace Disk

variable {disk : Disk} {provider : Provider} {root : Path}

/-- That all directories of a provider are there. -/
def HasDirectories (disk : Disk) (provider : Provider) (root : Path) : Prop :=
  ∀ path ∈ provider.directories root, disk.isDirectory path = true

/-- That there is something at the targets of some templates. -/
def HasTargets (disk : Disk) (provider : Provider) (root : Path) (templates : List Template) :
    Prop :=
  ∀ template ∈ templates, disk.isPresent (provider.file root template) = true

theorem forall_holds_iff {templates : List Template} :
    (∀ site ∈ (provider.directories root).map Site.directory ++
        templates.map (fun template => .file template (provider.file root template)),
        disk.holds site = true) ↔
      disk.HasDirectories provider root ∧ disk.HasTargets provider root templates := by
  rw [List.forall_mem_append, List.forall_mem_map, List.forall_mem_map]
  rfl

end Disk

namespace Command

variable {words : List Bytes} {environment loaded : Environment} {console : Console}
  {disk : Disk} {invocation : Invocation} {request : Request}

/-! ## Runs that change nothing -/

/-- That a run ends with help, with the version, with the blame on the arguments or on the
configuration, or breaks off. -/
def Ending.IsEarly (ending : Ending) : Prop :=
  ending = .help ∨ ending = .version ∨ ending.exitCode = 2 ∨ ending.exitCode = 4 ∨
    ∃ crash, ending = .crashed crash

theorem Ending.IsEarly.exitCode_ne {ending : Ending} (hearly : ending.IsEarly) :
    ending.exitCode ≠ 1 ∧ ending.exitCode ≠ 3 := by
  rcases hearly with rfl | rfl | htwo | hfour | ⟨crash, rfl⟩
  · exact ⟨nofun, nofun⟩
  · exact ⟨nofun, nofun⟩
  · omega
  · omega
  · exact ⟨nofun, nofun⟩

/-- A run gets to a request, or it ends early and changes nothing. -/
theorem Parses.run_cases_of_request
    (hparses : Parses words environment disk loaded invocation) (console : Console) :
    (∃ request, Invokes words environment disk loaded invocation ∧
        invocation.request = .ok request) ∨
      (run words environment console disk).2 = disk ∧
        (run words environment console disk).1.ending.IsEarly := by
  cases hfilter : chooseFilter invocation loaded with
  | error crash =>
    rw [hparses.run_of_crash hfilter]
    exact .inr ⟨rfl, .inr (.inr (.inr (.inr ⟨crash, rfl⟩)))⟩
  | ok filter =>
    have hinvokes : Invokes words environment disk loaded invocation := ⟨hparses, filter, hfilter⟩
    cases hrequest : invocation.request with
    | ok request => exact .inl ⟨request, hinvokes, rfl⟩
    | error problem =>
      obtain ⟨_, -, hrun⟩ := hinvokes.run_of_refused hrequest
      rw [hrun]
      refine .inr ⟨rfl, .inr (.inr ?_)⟩
      rcases problem_of_request hrequest with rfl | rfl | ⟨name, reason, rfl⟩
      · exact .inr (.inl rfl)
      · exact .inl rfl
      · exact .inl rfl

theorem run_cases_of_request (words : List Bytes) (environment : Environment) (console : Console)
    (disk : Disk) :
    (∃ loaded invocation request, Invokes words environment disk loaded invocation ∧
        invocation.request = .ok request) ∨
      (run words environment console disk).2 = disk ∧
        (run words environment console disk).1.ending.IsEarly := by
  rcases run_cases words environment console disk with
    ⟨halt, -, hrun⟩ | ⟨stop, hrun⟩ | ⟨loaded, invocation, hparses⟩
  · rw [hrun]
    refine .inr ⟨rfl, .inr (.inr (.inr ?_))⟩
    cases halt with
    | fault fault => exact .inl rfl
    | crash crash => exact .inr ⟨crash, rfl⟩
  · rw [hrun]
    refine .inr ⟨rfl, ?_⟩
    cases stop with
    | help => exact .inl rfl
    | version => exact .inr (.inl rfl)
    | misuse misuse => exact .inr (.inr (.inl rfl))
  · exact (hparses.run_cases_of_request console).imp_left fun ⟨request, hrequest⟩ =>
      ⟨loaded, invocation, request, hrequest⟩

/-- That a run ends with a report, whether the console takes it or not. -/
def Ending.HasReport (ending : Ending) : Prop :=
  ending = .success ∨ ∃ message fault, ending = .failed (.output message fault)

theorem Ending.HasReport.exitCode_cases {ending : Ending} (hreport : ending.HasReport) :
    ending.exitCode = 0 ∨ ending.exitCode = 1 := by
  rcases hreport with rfl | ⟨message, fault, rfl⟩
  · exact .inl rfl
  · exact .inr rfl

theorem Ending.HasReport.ne_failed {ending : Ending} (hreport : ending.HasReport) :
    ending ≠ .failed .unencodableReport ∧ ending ≠ .failed (.unmade .lockPoisoned) := by
  rcases hreport with rfl | ⟨message, fault, rfl⟩
  · exact ⟨nofun, nofun⟩
  · exact ⟨nofun, nofun⟩

/-- A dry run that gets to a request changes nothing, and fails only if the console does. -/
theorem Invokes.run_of_dryRun (hinvokes : Invokes words environment disk loaded invocation)
    (hrequest : invocation.request = .ok request) (hdry : invocation.dryRun = true)
    (console : Console) :
    (run words environment console disk).2 = disk ∧
      (run words environment console disk).1.ending.HasReport := by
  obtain ⟨hstate, hending⟩ := hinvokes.ending_of_request hrequest console
  have hscript := script_of_dryRun ((dryRun_of_request hrequest).trans hdry)
  obtain ⟨hanswer, hsame⟩ := @Script.exec_plan _ (Disk.surroundings request.templates)
    request.provider Request.outputRoot disk (fun _ => rfl) fun _ => rfl
  rw [hscript] at hstate hending
  refine ⟨hstate.trans hsame, ?_⟩
  rcases hending with ⟨_, -, hshown | ⟨message, fault, -, hrefused⟩⟩ | ⟨_, hfailed, -⟩
  · exact .inl hshown
  · exact .inr ⟨message, fault, hrefused⟩
  · rw [hanswer] at hfailed
    cases hfailed

/-! ## Runs that make a provider -/

/-- How a run ends that makes a provider by some acts and leaves a disk. -/
inductive Ends (console : Console) (provider : Provider) (root : Path) (acts : List Act)
    (disk : Disk) : Ending → Prop where
  | complete (hdirectories : disk.HasDirectories provider root)
      (htargets : disk.HasTargets provider root Template.all)
      (hacts : ∀ template, ¬ Act.EndForLackOf acts template) :
      Ends console provider root acts disk .success
  | unshown {message : String} {fault : SystemFault} (hfault : console.fault = some fault) :
      Ends console provider root acts disk (.failed (.output message fault))
  | lacking {template : Template} {file : String} {source : Path} {reason : String}
      (hacts : acts.getLast? =
        some (.load template (.error (.templateUnavailable file source reason))))
      (hmissing : disk.isPresent (provider.file root template) = false)
      (hdirectories : disk.HasDirectories provider root)
      (htargets : disk.HasTargets provider root (Template.all.takeWhile (· ≠ template))) :
      Ends console provider root acts disk
        (.failed (.unmade (.templateUnavailable file source reason)))
  | refused {failure : Failure} (hcategory : failure.category = .internal)
      (hlock : failure ≠ .lockPoisoned)
      (hmissing : ¬ (disk.HasDirectories provider root ∧
        disk.HasTargets provider root Template.all))
      (hacts : ∀ template, ¬ Act.EndForLackOf acts template) :
      Ends console provider root acts disk (.failed (.unmade failure))

theorem not_endForLackOf {acts : List Act} {act : Act} (hlast : acts.getLast? = some act)
    (hother : ∀ template file source reason,
      act ≠ .load template (.error (.templateUnavailable file source reason)))
    (template : Template) : ¬ Act.EndForLackOf acts template := by
  rintro ⟨file, source, reason, hload⟩
  exact hother template file source reason (Option.some.inj (hlast.symm.trans hload))

/-- A scaffold that a disk refuses ends for lack of a template, or with an internal failure. -/
theorem ends_of_refusal {templates root : Path} {provider : Provider} {acts : List Act}
    {before after : List Site} {site : Site} {act : Act} {failure : Failure} (console : Console)
    (hsites : provider.sites root = before ++ site :: after) (hlast : acts.getLast? = some act)
    (hrefusal : Disk.Refusal templates site act failure) (hmissing : disk.holds site = false)
    (hbefore : ∀ earlier ∈ before, disk.holds earlier = true) :
    Ends console provider root acts disk (.failed (.unmade failure)) := by
  have hall : ¬ (disk.HasDirectories provider root ∧
      disk.HasTargets provider root Template.all) := by
    intro hboth
    have hholds := Disk.forall_holds_iff.mpr hboth site (Provider.mem_of_sites_eq hsites)
    rw [hmissing] at hholds
    cases hholds
  -- Only a lacking template says how far the run got: the directories are the sites before the
  -- first file.
  cases hrefusal with
  | directory | file | unreadable =>
    exact .refused rfl nofun hall (not_endForLackOf hlast (by simp))
  | unavailable =>
    obtain ⟨rfl, rfl⟩ := Provider.before_eq_of_sites_eq hsites
    obtain ⟨hdirectories, htargets⟩ := Disk.forall_holds_iff.mp hbefore
    exact .lacking hlast hmissing hdirectories htargets

/-- A run that makes a provider ends in one of these ways. -/
theorem Invokes.ends (hinvokes : Invokes words environment disk loaded invocation)
    (hrequest : invocation.request = .ok request) (hdry : invocation.dryRun = false)
    (console : Console) :
    let acts := (request.script.exec (Disk.surroundings request.templates) disk).acts
    let outcome := run words environment console disk
    Ends console request.provider Request.outputRoot acts outcome.2 outcome.1.ending := by
  intro acts outcome
  obtain ⟨hstate, hending⟩ := hinvokes.ending_of_request hrequest console
  have hscript := script_of_not_dryRun ((dryRun_of_request hrequest).trans hdry)
  have hstate : outcome.2 = _ := hstate
  have hacts : acts = _ := congrArg
    (fun script => (Script.exec (Disk.surroundings request.templates) script disk).acts) hscript
  rw [hscript] at hstate hending
  rw [hstate, hacts]
  rcases Script.scaffold_cases request.templates request.provider Request.outputRoot disk with
    ⟨entries, event, hanswer, -, hlast, hholds⟩ |
      ⟨before, site, after, act, failure, hsites, hanswer, hlast, hrefusal, hmissing, hbefore⟩
  · obtain ⟨hdirectories, htargets⟩ := Disk.forall_holds_iff.mp hholds
    rcases hending with ⟨_, -, hshown | ⟨message, fault, hfault, hunshown⟩⟩ | ⟨_, hfailed, -⟩
    · rw [hshown]
      exact .complete hdirectories htargets (not_endForLackOf hlast (by simp))
    · rw [hunshown]
      exact .unshown hfault
    · rw [hanswer] at hfailed
      cases hfailed
  · rcases hending with ⟨_, hreport, -⟩ | ⟨failure', hfailed, hfailure⟩
    · rw [hanswer] at hreport
      cases hreport
    · rw [hanswer] at hfailed
      cases hfailed
      rw [hfailure]
      exact ends_of_refusal console hsites hlast hrefusal hmissing hbefore

/-! ## What the code tells -/

theorem exitCode_unmade_of_internal {failure : Failure} (hcategory : failure.category = .internal) :
    (Ending.failed (.unmade failure)).exitCode = 1 := by
  unfold Ending.exitCode Problem.exitCode Problem.category
  simp only [hcategory]
  rfl

section Ends

variable {provider : Provider} {root : Path} {acts : List Act} {ending : Ending}

theorem Ends.exitCode_cases (hends : Ends console provider root acts disk ending) :
    ending.exitCode = 0 ∨ ending.exitCode = 3 ∨ ending.exitCode = 1 := by
  cases hends with
  | complete => exact .inl rfl
  | unshown => exact .inr (.inr rfl)
  | lacking => exact .inr (.inl rfl)
  | refused hcategory => exact .inr (.inr (exitCode_unmade_of_internal hcategory))

theorem Ends.not_isEarly (hends : Ends console provider root acts disk ending) :
    ¬ ending.IsEarly := by
  have hcode := hends.exitCode_cases
  rintro (rfl | rfl | htwo | hfour | ⟨crash, rfl⟩)
  · cases hends
  · cases hends
  · omega
  · omega
  · cases hends

theorem Ends.ne_failed (hends : Ends console provider root acts disk ending) :
    ending ≠ .failed .unencodableReport ∧ ending ≠ .failed (.unmade .lockPoisoned) := by
  cases hends with
  | complete | unshown | lacking => exact ⟨nofun, nofun⟩
  | refused _ hlock =>
    refine ⟨nofun, fun hsame => hlock ?_⟩
    injection hsame with hsame
    injection hsame

theorem Ends.exitCode_eq_zero_iff (hends : Ends console provider root acts disk ending)
    (hconsole : console.fault = none) :
    ending.exitCode = 0 ↔
      disk.HasDirectories provider root ∧ disk.HasTargets provider root Template.all := by
  cases hends with
  | complete hdirectories htargets => exact iff_of_true rfl ⟨hdirectories, htargets⟩
  | unshown hfault =>
    rw [hconsole] at hfault
    cases hfault
  | @lacking template _ _ _ _ hmissing =>
    refine iff_of_false nofun fun hboth => ?_
    rw [hboth.2 template template.mem_all] at hmissing
    cases hmissing
  | refused hcategory _ hmissing =>
    rw [exitCode_unmade_of_internal hcategory]
    exact iff_of_false nofun hmissing

theorem Ends.exitCode_eq_three_iff (hends : Ends console provider root acts disk ending)
    (hconsole : console.fault = none) :
    ending.exitCode = 3 ↔ ∃ template, Act.EndForLackOf acts template ∧
      disk.isPresent (provider.file root template) = false := by
  cases hends with
  | complete _ _ hacts => exact iff_of_false nofun fun ⟨template, hlack, _⟩ => hacts template hlack
  | unshown hfault =>
    rw [hconsole] at hfault
    cases hfault
  | @lacking template file source reason hacts hmissing =>
    exact iff_of_true rfl ⟨template, ⟨file, source, reason, hacts⟩, hmissing⟩
  | refused hcategory _ _ hacts =>
    rw [exitCode_unmade_of_internal hcategory]
    exact iff_of_false nofun fun ⟨template, hlack, _⟩ => hacts template hlack

/-- All that comes before the target of a template that was lacking is there. -/
theorem Ends.of_endForLackOf (hends : Ends console provider root acts disk ending)
    (hconsole : console.fault = none) {template : Template}
    (hlack : Act.EndForLackOf acts template) :
    disk.HasDirectories provider root ∧
      disk.HasTargets provider root (Template.all.takeWhile (· ≠ template)) := by
  cases hends with
  | complete _ _ hacts => exact absurd hlack (hacts template)
  | unshown hfault =>
    rw [hconsole] at hfault
    cases hfault
  | lacking hacts _ hdirectories htargets =>
    obtain ⟨_, _, _, hload⟩ := hlack
    rw [hacts] at hload
    cases hload
    exact ⟨hdirectories, htargets⟩
  | refused _ _ _ hacts => exact absurd hlack (hacts template)

end Ends

theorem Invokes.exitCode_of_request (hinvokes : Invokes words environment disk loaded invocation)
    (hrequest : invocation.request = .ok request) (console : Console) :
    let ending := (run words environment console disk).1.ending
    ending.exitCode = 0 ∨ ending.exitCode = 3 ∨ ending.exitCode = 1 := by
  cases hdry : invocation.dryRun with
  | true =>
    rcases (hinvokes.run_of_dryRun hrequest hdry console).2.exitCode_cases with hzero | hone
    · exact .inl hzero
    · exact .inr (.inr hone)
  | false => exact (hinvokes.ends hrequest hdry console).exitCode_cases

/-- The exit code of a run tells what is on the disk.  Runs that blame the arguments or the
configuration, dry runs, and runs for help or the version change nothing.  A run that makes a
provider succeeds exactly if all its sites are there at the end.  It blames a missing template
exactly if it stopped at a target for lack of the template, and then all that comes before that
target is there.  Else its code is 1.  Two problems never come up. -/
theorem exitCode_run (words : List Bytes) (environment : Environment) (console : Console)
    (disk : Disk) :
    let outcome := run words environment console disk
    let ending := outcome.1.ending
    (ending = .help ∨ ending = .version ∨ ending.exitCode = 2 ∨ ending.exitCode = 4 →
      outcome.2 = disk) ∧
    (∀ loaded invocation, Parses words environment disk loaded invocation →
      invocation.dryRun = true → outcome.2 = disk ∧ ending.exitCode ≠ 3) ∧
    (∀ loaded invocation request, Invokes words environment disk loaded invocation →
      invocation.request = .ok request → invocation.dryRun = false → console.fault = none →
      let acts := (request.script.exec (Disk.surroundings request.templates) disk).acts
      let provider := request.provider
      let root := Request.outputRoot
      (ending.exitCode = 0 ↔ outcome.2.HasDirectories provider root ∧
        outcome.2.HasTargets provider root Template.all) ∧
      (ending.exitCode = 3 ↔ ∃ template, Act.EndForLackOf acts template ∧
        outcome.2.isPresent (provider.file root template) = false) ∧
      (∀ template, Act.EndForLackOf acts template → outcome.2.HasDirectories provider root ∧
        outcome.2.HasTargets provider root (Template.all.takeWhile (· ≠ template))) ∧
      (ending.exitCode = 0 ∨ ending.exitCode = 3 ∨ ending.exitCode = 1)) ∧
    ending ≠ .failed .unencodableReport ∧ ending ≠ .failed (.unmade .lockPoisoned) := by
  intro outcome ending
  refine ⟨?_, ?_, ?_, ?_⟩
  · intro hearly
    rcases run_cases_of_request words environment console disk with
      ⟨loaded, invocation, request, hinvokes, hrequest⟩ | ⟨hsame, -⟩
    · cases hdry : invocation.dryRun with
      | true => exact (hinvokes.run_of_dryRun hrequest hdry console).1
      | false =>
        refine absurd ?_ (hinvokes.ends hrequest hdry console).not_isEarly
        exact hearly.imp_right (.imp_right (.imp_right .inl))
    · exact hsame
  · intro loaded invocation hparses hdry
    rcases hparses.run_cases_of_request console with
      ⟨request, hinvokes, hrequest⟩ | ⟨hsame, hearly⟩
    · obtain ⟨hsame, hreport⟩ := hinvokes.run_of_dryRun hrequest hdry console
      have hcode : ending.exitCode = 0 ∨ ending.exitCode = 1 := hreport.exitCode_cases
      exact ⟨hsame, by omega⟩
    · exact ⟨hsame, hearly.exitCode_ne.2⟩
  · intro loaded invocation request hinvokes hrequest hdry hconsole acts provider root
    have hends := hinvokes.ends hrequest hdry console
    exact ⟨hends.exitCode_eq_zero_iff hconsole, hends.exitCode_eq_three_iff hconsole,
      fun _ => hends.of_endForLackOf hconsole, hends.exitCode_cases⟩
  · rcases run_cases_of_request words environment console disk with
      ⟨loaded, invocation, request, hinvokes, hrequest⟩ | ⟨-, hearly⟩
    · cases hdry : invocation.dryRun with
      | true => exact (hinvokes.run_of_dryRun hrequest hdry console).2.ne_failed
      | false => exact (hinvokes.ends hrequest hdry console).ne_failed
    · have hcode := hearly.exitCode_ne.1
      exact ⟨fun hsame => hcode (congrArg Ending.exitCode hsame),
        fun hsame => hcode (congrArg Ending.exitCode hsame)⟩

/-- On a disk with nothing but a working directory the first template is lacking, and the
directories are made before that is found out. -/
theorem exitCode_run_without_templates :
    let words := [Text.encode "--biqt-home=/biqt", Text.encode "X"]
    let outcome := run words .empty ⟨none⟩ (.fresh [])
    outcome.1.ending.exitCode = 3 ∧ outcome.2.HasDirectories Script.shortNamed .empty := by
  intro words outcome
  let invocation : Invocation := ⟨some "X", some "/biqt", false, false, false, 0, .auto⟩
  let request : Request := ⟨.ofText "/biqt", Script.shortNamed, false⟩
  have hinvokes : Invokes words .empty (.fresh []) .empty invocation :=
    ⟨⟨by decide +kernel, by decide +kernel⟩, _, rfl⟩
  have hrequest : invocation.request = .ok request := by decide +kernel
  obtain ⟨-, -, hmade, -⟩ := exitCode_run words .empty ⟨none⟩ (.fresh [])
  obtain ⟨-, hcode, hbefore, -⟩ := hmade _ _ request hinvokes hrequest rfl rfl
  have hlack : Act.EndForLackOf
      (request.script.exec (Disk.surroundings request.templates) (.fresh [])).acts .header := by
    dsimp only [request]
    exact ⟨_, _, _, rfl⟩
  exact ⟨hcode.mpr ⟨.header, hlack, by decide +kernel⟩, (hbefore .header hlack).1⟩

end Command

end Scaffolding
