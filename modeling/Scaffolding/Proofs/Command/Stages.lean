import Scaffolding.Command.Run
import Scaffolding.Proofs.Disk.Stop
import Scaffolding.Proofs.Environment.Crash
import Scaffolding.Proofs.Environment.Faults
import Scaffolding.Proofs.Log.Rules
import Scaffolding.Proofs.Report.Encoding

/-!
# The stages of a run

A run of the command loads its file of assignments, reads its arguments
and what it is to log, makes a request of them, and runs the script of the
request.  It can end at each stage, and only the last one can change the
disk.

* `Parses` says that a run gets as far as an invocation, and `Invokes` that
  it has a filter for its log too.  `run_cases` and `Parses.run_of_crash`
  are the ways not to, and `Invokes.run_of_refused` and
  `Invokes.run_of_request` what comes after.
* `text?_of_loadEnvironment` says which texts the variables have then.
* `BreaksOff` says that the file of assignments has a value that no variable
  can have, or that no filter can be read.  No run breaks off otherwise, as
  `exists_crashed_iff` says.
* `ending_of_request` is how the last stage ends.  A report always has a
  JSON value there, so it fails only with the script or with the console.
-/

namespace Scaffolding.Command

open Environment (IsName)
open Report (Entry)

variable {words : List Bytes} {environment loaded : Environment} {console : Console}
  {disk : Disk} {invocation : Invocation} {request : Request} {problem : Problem}

/-! ## As far as an invocation -/

/-- That a run gets as far as an invocation, in the environment that it has loaded. -/
structure Parses (words : List Bytes) (environment : Environment) (disk : Disk)
    (loaded : Environment) (invocation : Invocation) : Prop where
  load_eq : loadEnvironment environment (disk.read environmentFile) = .ok loaded
  parse_eq : Arguments.parse words loaded = .ok invocation

/-- That a run gets on with its invocation, as it has a filter for what it logs. -/
structure Invokes (words : List Bytes) (environment : Environment) (disk : Disk)
    (loaded : Environment) (invocation : Invocation) : Prop where
  parses : Parses words environment disk loaded invocation
  exists_filter : ∃ filter, chooseFilter invocation loaded = .ok filter

/-! ## The file of assignments -/

/-- The value that the file of assignments gives to a variable, if it is there. -/
def assignedInFile? (environment : Environment) (disk : Disk) (name : String) : Option String :=
  match disk.read environmentFile with
  | .ok content => environment.valueInFile? content name
  | .error _ => none

/-- The environment decides about a variable, and then the file of assignments. -/
theorem text?_of_loadEnvironment {name : String} (hname : IsName name)
    (hload : loadEnvironment environment (disk.read environmentFile) = .ok loaded) :
    loaded.text? name = (environment.text? name).or (assignedInFile? environment disk name) := by
  unfold assignedInFile?
  cases hread : disk.read environmentFile with
  | ok content =>
    rw [hread] at hload
    exact Environment.text?_of_load hload hname
  | error fault =>
    rw [hread] at hload
    unfold loadEnvironment at hload
    simp only at hload
    split at hload
    · cases hload
      rw [Option.or_none]
    · cases hload

/-- That the file of assignments gives a variable without a text a value that no variable can
have. -/
def HasUnfitValue (environment : Environment) (disk : Disk) : Prop :=
  ∃ name value, environment.text? name = none ∧
    assignedInFile? environment disk name = some value ∧ '\x00' ∈ value.toList

theorem exists_crash_loadEnvironment_iff :
    (∃ crash,
        loadEnvironment environment (disk.read environmentFile) = .error (.crash crash)) ↔
      HasUnfitValue environment disk := by
  unfold HasUnfitValue assignedInFile?
  cases disk.read environmentFile with
  | ok content => exact Environment.exists_crash_load_iff
  | error fault =>
    refine iff_of_false ?_ nofun
    rintro ⟨crash, hload⟩
    unfold loadEnvironment at hload
    simp only at hload
    split at hload
    · cases hload
    · cases hload

theorem run_of_halt {halt : Environment.Halt}
    (hload : loadEnvironment environment (disk.read environmentFile) = .error halt)
    (words : List Bytes) (console : Console) :
    run words environment console disk = (.ofHalt halt, disk) := by
  unfold run
  rw [hload]

/-! ## The filter -/

theorem isName_filterVariable : IsName filterVariable := ⟨by decide, by decide⟩

theorem chooseFilter_of_unset (hunset : environment.text? filterVariable = none) :
    chooseFilter invocation environment = .ok invocation.filter := by
  unfold chooseFilter
  rw [hunset]
  rfl

/-- Where nothing asks for a filter, a run has the one that fits its invocation. -/
theorem Parses.invokes_of_unset (hparses : Parses words environment disk loaded invocation)
    (hunset : loaded.text? filterVariable = none) :
    Invokes words environment disk loaded invocation :=
  ⟨hparses, _, chooseFilter_of_unset hunset⟩

/-- That the filter which is asked for cannot be read to its end. -/
def HasUnfitFilter (environment : Environment) (disk : Disk) : Prop :=
  ∃ text crash,
    (environment.text? filterVariable).or (assignedInFile? environment disk filterVariable) =
        some text ∧
      Log.Filter.parse text = .error (.crash crash)

theorem Parses.exists_crash_chooseFilter_iff
    (hparses : Parses words environment disk loaded invocation) :
    (∃ crash, chooseFilter invocation loaded = .error crash) ↔
      HasUnfitFilter environment disk := by
  unfold chooseFilter HasUnfitFilter
  rw [text?_of_loadEnvironment isName_filterVariable hparses.load_eq]
  cases (environment.text? filterVariable).or
      (assignedInFile? environment disk filterVariable) with
  | none => exact iff_of_false nofun nofun
  | some text =>
    simp only [Option.map_some, Option.some.injEq, exists_and_left, exists_eq_left']
    cases Log.Filter.parse text with
    | ok filter => exact iff_of_false nofun nofun
    | error obstacle =>
      cases obstacle with
      | senseless => exact iff_of_false nofun nofun
      | crash crash => exact iff_of_true ⟨crash, rfl⟩ ⟨crash, rfl⟩

theorem Parses.run_of_crash (hparses : Parses words environment disk loaded invocation)
    {crash : Crash} (hcrash : chooseFilter invocation loaded = .error crash) (console : Console) :
    run words environment console disk = (.ofCrash crash, disk) := by
  unfold run
  rw [hparses.load_eq]
  simp only [hparses.parse_eq, hcrash]

/-- A run ends with its file of assignments or with its arguments, or it gets to an invocation. -/
theorem run_cases (words : List Bytes) (environment : Environment) (console : Console)
    (disk : Disk) :
    (∃ halt, loadEnvironment environment (disk.read environmentFile) = .error halt ∧
        run words environment console disk = (.ofHalt halt, disk)) ∨
      (∃ stop, run words environment console disk = (.ofStop stop console, disk)) ∨
      ∃ loaded invocation, Parses words environment disk loaded invocation := by
  cases hload : loadEnvironment environment (disk.read environmentFile) with
  | error halt => exact .inl ⟨halt, rfl, run_of_halt hload words console⟩
  | ok loaded =>
    cases hparse : Arguments.parse words loaded with
    | error stop =>
      refine .inr (.inl ⟨stop, ?_⟩)
      unfold run
      rw [hload]
      simp only [hparse]
    | ok invocation => exact .inr (.inr ⟨loaded, invocation, hload, hparse⟩)

/-! ## After an invocation -/

theorem Invokes.run_of_refused (hinvokes : Invokes words environment disk loaded invocation)
    (hrequest : invocation.request = .error problem) :
    ∃ filter, chooseFilter invocation loaded = .ok filter ∧ ∀ console,
      run words environment console disk = (.ofRefusal invocation filter problem, disk) := by
  obtain ⟨filter, hfilter⟩ := hinvokes.exists_filter
  refine ⟨filter, hfilter, fun console => ?_⟩
  unfold run
  rw [hinvokes.parses.load_eq]
  simp only [hinvokes.parses.parse_eq, hfilter, hrequest]

theorem Invokes.run_of_request (hinvokes : Invokes words environment disk loaded invocation)
    (hrequest : invocation.request = .ok request) :
    ∃ filter, chooseFilter invocation loaded = .ok filter ∧ ∀ console,
      run words environment console disk =
        let run := request.script.exec (Disk.surroundings request.templates) disk
        (.ofAnswer invocation filter console request (Act.events run.acts) run.answer,
          run.state) := by
  obtain ⟨filter, hfilter⟩ := hinvokes.exists_filter
  refine ⟨filter, hfilter, fun console => ?_⟩
  unfold Command.run
  rw [hinvokes.parses.load_eq]
  simp only [hinvokes.parses.parse_eq, hfilter, hrequest]

/-! ## As far as a request -/

theorem installationHome_cases (setting : Option String) :
    (setting.getD "" = "" ∧
        installationHome setting = .error (.missingHome Arguments.homeVariable)) ∨
      ∃ home, setting = some home ∧ home ≠ "" ∧ installationHome setting = .ok (.ofText home) := by
  unfold installationHome
  cases setting with
  | none => exact .inl ⟨rfl, rfl⟩
  | some home =>
    by_cases hempty : home = ""
    · refine .inl ⟨hempty, ?_⟩
      rw [hempty]
      rfl
    · refine .inr ⟨home, rfl, hempty, ?_⟩
      rw [Option.filter_some, if_pos (by simpa using hempty)]

theorem problem_of_providerNamed {setting : Option String}
    (hnamed : providerNamed setting = .error problem) :
    problem = .missingName ∨ ∃ name reason, problem = .unmade (.invalidName name reason) := by
  unfold providerNamed at hnamed
  split at hnamed
  · cases hnamed
    exact .inl rfl
  · rename_i name
    cases hparse : Provider.parse name with
    | ok provider =>
      rw [hparse] at hnamed
      cases hnamed
    | error fault =>
      rw [hparse] at hnamed
      cases hnamed
      exact .inr ⟨name, fault.reason, rfl⟩

/-- An installation is looked for first. -/
theorem request_of_missing (hmissing : installationHome invocation.home = .error problem) :
    invocation.request = .error problem := by
  unfold Invocation.request
  rw [hmissing]

theorem request_of_found {home : Path} (hfound : installationHome invocation.home = .ok home) :
    invocation.request =
      (providerNamed invocation.name).map fun provider => ⟨home, provider, invocation.dryRun⟩ := by
  unfold Invocation.request
  rw [hfound]

theorem problem_of_found {home : Path} (hfound : installationHome invocation.home = .ok home)
    (hrequest : invocation.request = .error problem) :
    problem = .missingName ∨ ∃ name reason, problem = .unmade (.invalidName name reason) := by
  rw [request_of_found hfound] at hrequest
  cases hnamed : providerNamed invocation.name with
  | ok provider =>
    rw [hnamed] at hrequest
    cases hrequest
  | error problem' =>
    rw [hnamed] at hrequest
    cases hrequest
    exact problem_of_providerNamed hnamed

/-- An invocation that comes to no request names no installation or no provider. -/
theorem problem_of_request (hrequest : invocation.request = .error problem) :
    problem = .missingHome Arguments.homeVariable ∨ problem = .missingName ∨
      ∃ name reason, problem = .unmade (.invalidName name reason) := by
  rcases installationHome_cases invocation.home with ⟨-, hmissing⟩ | ⟨home, -, -, hfound⟩
  · rw [request_of_missing hmissing] at hrequest
    cases hrequest
    exact .inl rfl
  · exact .inr (problem_of_found hfound hrequest)

theorem dryRun_of_request (hrequest : invocation.request = .ok request) :
    request.dryRun = invocation.dryRun := by
  unfold Invocation.request at hrequest
  split at hrequest
  · cases hrequest
  · obtain ⟨provider, -, rfl⟩ := Script.exists_of_map_eq_ok hrequest
    rfl

/-! ## The last stage -/

theorem script_of_dryRun (hdry : request.dryRun = true) :
    request.script = Script.plan request.provider Request.outputRoot := by
  unfold Request.script
  rw [if_pos hdry]

theorem script_of_not_dryRun (hdry : request.dryRun = false) :
    request.script = Script.scaffold request.provider Request.outputRoot := by
  unfold Request.script
  rw [hdry, if_neg Bool.false_ne_true]

/-- A report of a request has the paths of its provider. -/
theorem map_path_of_report {templates : Path} {report : Report}
    (hreport : (request.script.exec (Disk.surroundings templates) disk).answer = .ok report) :
    report.home = request.provider.home Request.outputRoot ∧
      report.entries.map Entry.path =
        (request.provider.sites Request.outputRoot).map Site.path := by
  cases hdry : request.dryRun with
  | true =>
    rw [script_of_dryRun hdry, (Script.exec_plan request.provider Request.outputRoot
      (fun _ => rfl) (fun _ => rfl)).1] at hreport
    cases hreport
    refine ⟨rfl, ?_⟩
    rw [List.map_map]
    rfl
  | false =>
    rw [script_of_not_dryRun hdry] at hreport
    rcases Script.scaffold_cases templates request.provider Request.outputRoot disk with
      ⟨entries, _, hanswer, hpaths, -⟩ | ⟨_, _, _, _, _, -, hanswer, -⟩
    · rw [hanswer] at hreport
      cases hreport
      exact ⟨rfl, hpaths⟩
    · rw [hanswer] at hreport
      cases hreport

theorem isSome_json?_of_report {templates : Path} {report : Report}
    (hreport : (request.script.exec (Disk.surroundings templates) disk).answer = .ok report) :
    report.json?.isSome = true := by
  have hroot : Request.outputRoot.IsText := ⟨"", rfl⟩
  obtain ⟨hhome, hpaths⟩ := map_path_of_report hreport
  refine Report.isSome_json?_iff.mpr ⟨?_, ?_⟩
  · rw [hhome]
    exact hroot.child _
  · intro entry hentry
    have hpath := List.mem_map_of_mem (f := Entry.path) hentry
    rw [hpaths] at hpath
    obtain ⟨site, hsite, hsame⟩ := List.mem_map.mp hpath
    rw [← hsame]
    exact Provider.isText_of_mem_sites hroot hsite

theorem write_cases (console : Console) (lines : List String) :
    (console.write lines).2 = none ∨
      ∃ fault, console.fault = some fault ∧ (console.write lines).2 = some fault := by
  unfold Console.write
  split
  · rename_i fault _ _ hfault
    exact .inr ⟨fault, hfault, rfl⟩
  · exact .inl rfl

/-- A report that has a JSON value is shown unless the console refuses to. -/
theorem show_cases (console : Console) (invocation : Invocation) {report : Report}
    (hjson : report.json?.isSome = true) :
    (console.show invocation report).2 = none ∨
      ∃ message fault, console.fault = some fault ∧
        (console.show invocation report).2 = some (.output message fault) := by
  obtain ⟨value, hvalue⟩ := Option.isSome_iff_exists.mp hjson
  unfold Console.show
  rw [hvalue]
  split
  · rcases write_cases console [value.write .pretty] with htaken | ⟨fault, hfault, hrefused⟩
    · simp only [htaken]
      exact .inl rfl
    · simp only [hrefused]
      exact .inr ⟨_, fault, hfault, rfl⟩
  · rcases write_cases console (linesFor invocation report) with htaken | ⟨fault, hfault, hrefused⟩
    · simp only [htaken]
      exact .inl rfl
    · simp only [hrefused]
      exact .inr ⟨_, fault, hfault, rfl⟩

theorem ending_ofAnswer (invocation : Invocation) (filter : Log.Filter) (console : Console)
    (request : Request) (events : List Event) (answer : Except Failure Report) :
    (Conclusion.ofAnswer invocation filter console request events answer).ending =
      match answer with
      | .error failure => .failed (.unmade failure)
      | .ok report =>
        match (console.show invocation report).2 with
        | none => .success
        | some problem => .failed problem := by
  unfold Conclusion.ofAnswer Conclusion.ofInvocation
  cases answer with
  | error failure => rfl
  | ok report => cases hshown : (console.show invocation report).2 <;> simp only [hshown]

/-- A run that gets to a request succeeds or fails as the script does, or its report is refused. -/
theorem Invokes.ending_of_request (hinvokes : Invokes words environment disk loaded invocation)
    (hrequest : invocation.request = .ok request) (console : Console) :
    let run := request.script.exec (Disk.surroundings request.templates) disk
    let outcome := Command.run words environment console disk
    outcome.2 = run.state ∧
      ((∃ report, run.answer = .ok report ∧ (outcome.1.ending = .success ∨
          ∃ message fault, console.fault = some fault ∧
            outcome.1.ending = .failed (.output message fault))) ∨
        ∃ failure, run.answer = .error failure ∧
          outcome.1.ending = .failed (.unmade failure)) := by
  intro run outcome
  obtain ⟨filter, -, hrun⟩ := hinvokes.run_of_request hrequest
  have houtcome : outcome = _ := hrun console
  have hending : outcome.1.ending = _ :=
    (congrArg (·.1.ending) houtcome).trans (ending_ofAnswer ..)
  refine ⟨congrArg Prod.snd houtcome, ?_⟩
  rw [hending]
  cases hanswer : run.answer with
  | error failure => exact .inr ⟨failure, rfl, rfl⟩
  | ok report =>
    refine .inl ⟨report, rfl, ?_⟩
    rcases show_cases console invocation (isSome_json?_of_report hanswer) with
      hshown | ⟨message, fault, hfault, hrefused⟩
    · left
      simp only [hshown]
    · refine .inr ⟨message, fault, hfault, ?_⟩
      simp only [hrefused]

/-! ## Runs that break off -/

/-- That a run breaks off: at its file of assignments, or at what it is to log once it has read its
arguments. -/
def BreaksOff (words : List Bytes) (environment : Environment) (disk : Disk) : Prop :=
  HasUnfitValue environment disk ∨
    (∃ loaded invocation, Parses words environment disk loaded invocation) ∧
      HasUnfitFilter environment disk

/-- A run that does not break off gets on with its invocation. -/
theorem Parses.invokes (hparses : Parses words environment disk loaded invocation)
    (hgoes : ¬ BreaksOff words environment disk) :
    Invokes words environment disk loaded invocation := by
  refine ⟨hparses, ?_⟩
  cases hfilter : chooseFilter invocation loaded with
  | ok filter => exact ⟨filter, rfl⟩
  | error crash =>
    exact absurd (.inr ⟨⟨loaded, invocation, hparses⟩,
      hparses.exists_crash_chooseFilter_iff.mp ⟨crash, hfilter⟩⟩) hgoes

theorem run_of_breaksOff (hbreaks : BreaksOff words environment disk) (console : Console) :
    ∃ crash, run words environment console disk = (.ofCrash crash, disk) := by
  rcases hbreaks with hvalue | ⟨⟨loaded, invocation, hparses⟩, hfilter⟩
  · obtain ⟨crash, hload⟩ := exists_crash_loadEnvironment_iff.mpr hvalue
    exact ⟨crash, run_of_halt hload words console⟩
  · obtain ⟨crash, hcrash⟩ := hparses.exists_crash_chooseFilter_iff.mpr hfilter
    exact ⟨crash, hparses.run_of_crash hcrash console⟩

/-- A disk whose working directory has nothing but a file of assignments. -/
def assigning (text : String) : Disk where
  nodes := [([Text.encode ".env"], .file (Text.encode text))]
  here := []

end Scaffolding.Command
