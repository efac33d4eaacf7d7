import Scaffolding.Proofs.Command.ExitCode
import Scaffolding.Proofs.Environment.Blank

/-!
# Which installation a run uses

The home of the installation can be given by an argument, by the
environment and by the file of assignments.  The first that gives one
decides, also if what it gives is empty; then the run is told so.

* `givenHome` is what is given, and `Invokes.home_eq` says that an
  invocation has it.
* `run_of_blankedIn`: an empty variable is as good as none, unless the file
  of assignments would have given it a value.
* `home_run` is the result, and `missing_home_despite_file` shows that a
  value in the file does not help where the variable is empty.
-/

namespace Scaffolding

open Environment (IsName BlankedIn)

namespace Command

variable {words : List Bytes} {environment environment' loaded loaded' : Environment}
  {console : Console} {disk : Disk} {invocation : Invocation} {request : Request}

/-! ## What is given -/

/-- The home that words name, if they make sense by themselves. -/
def Arguments.home? (words : List Bytes) : Option String :=
  match words.foldlM Reading.word Reading.start >>= Reading.settle with
  | .ok reading => reading.home
  | .error _ => none

/-- The home that the file of assignments names. -/
def homeInFile? (environment : Environment) (disk : Disk) : Option String :=
  match disk.read environmentFile with
  | .ok content => environment.valueInFile? content Arguments.homeVariable
  | .error _ => none

/-- The home that a run is given: by its arguments, or else by its environment, or else by the file
of assignments. -/
def givenHome (words : List Bytes) (environment : Environment) (disk : Disk) : Option String :=
  (Arguments.home? words).or <|
    (environment.text? Arguments.homeVariable).or (homeInFile? environment disk)

theorem isName_homeVariable : IsName Arguments.homeVariable := ⟨by decide, by decide⟩

theorem Arguments.eq_of_consult {read home : Option String} {name : String}
    (hconsult : consult environment name read id = .ok home) :
    home = read.or (environment.text? name) := by
  unfold consult at hconsult
  unfold Environment.text?
  split at hconsult
  · cases hconsult
    rfl
  · rename_i hget
    cases hconsult
    rw [hget]
    rfl
  · rename_i value hget
    unfold Reading.asText at hconsult
    rw [hget]
    cases hdecode : Text.decode? value with
    | none =>
      rw [hdecode] at hconsult
      cases hconsult
    | some text =>
      rw [hdecode] at hconsult
      cases hconsult
      rw [Option.none_or, Option.bind_some, hdecode]
      rfl

/-- The words decide, and then the environment. -/
theorem Arguments.home_of_parse (hparse : parse words environment = .ok invocation) :
    invocation.home = (home? words).or (environment.text? homeVariable) := by
  obtain ⟨read, hread, hparse⟩ := exists_of_bind_eq_ok hparse
  obtain ⟨reading, hsettle, hparse⟩ := exists_of_bind_eq_ok hparse
  obtain ⟨_, -, hparse⟩ := exists_of_bind_eq_ok hparse
  obtain ⟨home, hhome, hparse⟩ := exists_of_bind_eq_ok hparse
  have hwords : home? words = reading.home := by
    unfold home?
    rw [hread]
    simp only [bind, Except.bind, hsettle]
  split at hparse
  · cases hparse
  · cases hparse
    rw [hwords]
    exact eq_of_consult hhome

theorem Invokes.home_eq (hinvokes : Invokes words environment disk loaded invocation) :
    invocation.home = givenHome words environment disk := by
  rw [Arguments.home_of_parse hinvokes.parses.parse_eq,
    text?_of_loadEnvironment isName_homeVariable hinvokes.parses.load_eq]
  rfl

/-! ## What is used -/

/-- A run that gets to an invocation misses the home exactly if it is given none or an empty one,
and then its exit code says so. -/
theorem Invokes.missingHome_iff (hinvokes : Invokes words environment disk loaded invocation)
    (console : Console) :
    let ending := (run words environment console disk).1.ending
    (ending = .failed (.missingHome Arguments.homeVariable) ↔
        (givenHome words environment disk).getD "" = "") ∧
      (ending.exitCode = 4 ↔ (givenHome words environment disk).getD "" = "") := by
  intro ending
  rw [← hinvokes.home_eq]
  rcases installationHome_cases invocation.home with
    ⟨hempty, hmissing⟩ | ⟨home, hgiven, hne, hfound⟩
  · obtain ⟨_, -, hrun⟩ := hinvokes.run_of_refused (request_of_missing hmissing)
    have hending : ending = _ := congrArg (·.1.ending) (hrun console)
    rw [hending]
    exact ⟨iff_of_true rfl hempty, iff_of_true rfl hempty⟩
  · have hnonempty : ¬ invocation.home.getD "" = "" := by
      rw [hgiven]
      exact hne
    -- With a home that is not empty, no later stage blames the configuration.
    have hother : ending.exitCode ≠ 4 := by
      cases hrequest : invocation.request with
      | ok request =>
        have hcode : ending.exitCode = 0 ∨ ending.exitCode = 3 ∨ ending.exitCode = 1 :=
          hinvokes.exitCode_of_request hrequest console
        omega
      | error problem =>
        obtain ⟨_, -, hrun⟩ := hinvokes.run_of_refused hrequest
        have hending : ending = .failed problem := congrArg (·.1.ending) (hrun console)
        rw [hending]
        rcases problem_of_found hfound hrequest with rfl | ⟨name, reason, rfl⟩
        · exact nofun
        · exact nofun
    exact ⟨iff_of_false (fun hmissing => hother (congrArg Ending.exitCode hmissing)) hnonempty,
      iff_of_false hother hnonempty⟩

/-- A request uses the home that its run is given. -/
theorem Invokes.home_of_request (hinvokes : Invokes words environment disk loaded invocation)
    (hrequest : invocation.request = .ok request) :
    ∃ home, givenHome words environment disk = some home ∧ home ≠ "" ∧
      request.home = .ofText home := by
  rw [← hinvokes.home_eq]
  rcases installationHome_cases invocation.home with ⟨-, hmissing⟩ | ⟨home, hgiven, hne, hfound⟩
  · rw [request_of_missing hmissing] at hrequest
    cases hrequest
  · rw [request_of_found hfound] at hrequest
    obtain ⟨provider, -, rfl⟩ := Script.exists_of_map_eq_ok hrequest
    exact ⟨home, hgiven, hne, rfl⟩

/-! ## An empty variable -/

theorem BlankedIn.loadEnvironment_cases {name : String}
    (hblanked : BlankedIn name environment environment') {answer : Except SystemFault Bytes}
    (hfile : ∀ content, answer = .ok content →
      (environment.valueInFile? content name).getD "" = "") :
    (∃ halt, loadEnvironment environment answer = .error halt ∧
        loadEnvironment environment' answer = .error halt) ∨
      ∃ loaded loaded', loadEnvironment environment answer = .ok loaded ∧
        loadEnvironment environment' answer = .ok loaded' ∧ BlankedIn name loaded loaded' := by
  unfold loadEnvironment
  cases answer with
  | error fault =>
    simp only
    split
    · exact .inr ⟨environment, environment', rfl, rfl, hblanked⟩
    · exact .inl ⟨_, rfl, rfl⟩
  | ok content =>
    have hfirst : ∀ assignment,
        (environment.assignments [] (Environment.logicalLines content)).find? (·.name = name) =
          some assignment → assignment.value = "" := by
      intro assignment hfind
      have hempty := hfile content rfl
      unfold Environment.valueInFile? at hempty
      rw [hfind] at hempty
      exact hempty
    simp only [Environment.load]
    have hearlier : environment.text? name = none →
        ∀ line ∈ ([] : List Environment.Assignment), line.name ≠ name :=
      fun _ _ hmem => absurd hmem List.not_mem_nil
    exact hblanked.loadLines hearlier fun _ => hfirst

/-- The invocation with an empty home for none. -/
def Invocation.withBlankHome (invocation : Invocation) : Invocation :=
  { invocation with home := some (invocation.home.getD "") }

theorem request_withBlankHome (invocation : Invocation) :
    invocation.withBlankHome.request = invocation.request := by
  -- No home and an empty one are refused alike, so the settings need not be the same.
  have hhome : installationHome invocation.withBlankHome.home =
      installationHome invocation.home := by
    unfold Invocation.withBlankHome
    cases invocation.home with
    | none => rfl
    | some home => rfl
  unfold Invocation.request
  rw [hhome]
  rfl

/-- The home does not matter any more once there is an answer. -/
theorem ofAnswer_withBlankHome (invocation : Invocation) (filter : Log.Filter) (console : Console)
    (request : Request) (events : List Event) (answer : Except Failure Report) :
    Conclusion.ofAnswer invocation.withBlankHome filter console request events answer =
      Conclusion.ofAnswer invocation filter console request events answer := by
  cases answer with
  | error failure => rfl
  | ok report => rfl

section Blanked

variable (hblanked : BlankedIn Arguments.homeVariable loaded loaded')

include hblanked

theorem consult_of_blankedIn (home : Option String) :
    Arguments.consult loaded' Arguments.homeVariable home id =
      (Arguments.consult loaded Arguments.homeVariable home id).map fun home =>
        some (home.getD "") := by
  have hempty : loaded'.get? Arguments.homeVariable = some [] := by
    rcases hblanked.isBlank'.get?_cases with hunset | hempty
    · have htext := hblanked.text?_eq
      unfold Environment.text? at htext
      rw [hunset] at htext
      cases htext
    · exact hempty
  unfold Arguments.consult
  rw [hempty]
  cases home with
  | some home => rfl
  | none =>
    rcases hblanked.isBlank.get?_cases with hunset | hblank
    · rw [hunset]
      rfl
    · rw [hblank]
      rfl

theorem parse_of_blankedIn (words : List Bytes) :
    Arguments.parse words loaded' =
      (Arguments.parse words loaded).map Invocation.withBlankHome := by
  have hcolour : ∀ given, Arguments.consult loaded' Arguments.noColourVariable given
      Arguments.isAffirmative =
        Arguments.consult loaded Arguments.noColourVariable given Arguments.isAffirmative := by
    intro given
    unfold Arguments.consult
    rw [hblanked.get?_eq (by decide)]
  unfold Arguments.parse
  cases words.foldlM Arguments.Reading.word Arguments.Reading.start with
  | error stop => rfl
  | ok read =>
    simp only [bind, Except.bind]
    cases read.settle with
    | error stop => rfl
    | ok reading =>
      simp only [hcolour, consult_of_blankedIn hblanked]
      cases Arguments.consult loaded Arguments.noColourVariable _ Arguments.isAffirmative with
      | error stop => rfl
      | ok noColour =>
        cases Arguments.consult loaded Arguments.homeVariable reading.home id with
        | error stop => rfl
        | ok home =>
          simp only [Except.map]
          split
          · rfl
          · rfl

theorem chooseFilter_of_blankedIn (invocation : Invocation) :
    chooseFilter invocation.withBlankHome loaded' = chooseFilter invocation loaded := by
  unfold chooseFilter
  rw [hblanked.text?_eq_of_ne (by decide)]
  rfl

end Blanked

/-- An empty variable is as good as none, unless the file of assignments gives it a value. -/
theorem run_of_blankedIn (hblanked : BlankedIn Arguments.homeVariable environment environment')
    (hfile : (homeInFile? environment disk).getD "" = "") (words : List Bytes)
    (console : Console) :
    run words environment' console disk = run words environment console disk := by
  have hcontent : ∀ content, disk.read environmentFile = .ok content →
      (environment.valueInFile? content Arguments.homeVariable).getD "" = "" := by
    intro content hread
    unfold homeInFile? at hfile
    rw [hread] at hfile
    exact hfile
  unfold run
  rcases BlankedIn.loadEnvironment_cases hblanked hcontent with
    ⟨halt, hload, hload'⟩ | ⟨loaded, loaded', hload, hload', hafter⟩
  · rw [hload, hload']
  · rw [hload, hload']
    simp only [parse_of_blankedIn hafter]
    cases Arguments.parse words loaded with
    | error stop => rfl
    | ok invocation =>
      simp only [Except.map, request_withBlankHome, chooseFilter_of_blankedIn hafter]
      cases chooseFilter invocation loaded with
      | error crash => rfl
      | ok filter =>
        cases invocation.request with
        | error problem => rfl
        | ok request => simp only [ofAnswer_withBlankHome]

/-! ## Which home counts -/

/-- The first home that a run is given counts, whether it is empty or not: by the arguments, by the
environment, by the file of assignments.  Without one, or with an empty one, the run ends with the
blame on the configuration; else a request finds its templates below that home.  An empty variable
is as good as none, unless the file of assignments has a home that is not empty. -/
theorem home_run (words : List Bytes) (environment : Environment) (console : Console)
    (disk : Disk) :
    let outcome := run words environment console disk
    let given := givenHome words environment disk
    (∀ loaded invocation, Invokes words environment disk loaded invocation →
      (outcome.1.ending = .failed (.missingHome Arguments.homeVariable) ↔ given.getD "" = "") ∧
      (outcome.1.ending.exitCode = 4 ↔ given.getD "" = "") ∧
      ∀ request, invocation.request = .ok request →
        ∃ home, given = some home ∧ home ≠ "" ∧ request.home = .ofText home ∧
          let run := request.script.exec
            (Disk.surroundings (Installation.templates (.ofText home))) disk
          ∃ filter, chooseFilter invocation loaded = .ok filter ∧
            outcome = (.ofAnswer invocation filter console request (Act.events run.acts) run.answer,
              run.state)) ∧
    (environment.get? Arguments.homeVariable = none →
      (homeInFile? environment disk).getD "" = "" →
        run words (environment.set Arguments.homeVariable []) console disk = outcome) := by
  intro outcome given
  refine ⟨?_, ?_⟩
  · intro loaded invocation hinvokes
    obtain ⟨hmissing, hcode⟩ := hinvokes.missingHome_iff console
    refine ⟨hmissing, hcode, ?_⟩
    intro request hrequest
    obtain ⟨home, hgiven, hne, hhome⟩ := hinvokes.home_of_request hrequest
    refine ⟨home, hgiven, hne, hhome, ?_⟩
    obtain ⟨filter, hfilter, hrun⟩ := hinvokes.run_of_request hrequest
    rw [← hhome]
    exact ⟨filter, hfilter, hrun console⟩
  · intro hunset hfile
    have hblanked := Environment.blankedIn_set isName_homeVariable hunset
    exact run_of_blankedIn hblanked hfile words console

/-- A run whose file gives a home does not miss one, and an empty variable makes no difference to a
run whose file gives none. -/
theorem home_run_from_file :
    let words := [Text.encode "--dry-run", Text.encode "X"]
    (run words .empty ⟨none⟩ (assigning "BIQT_HOME=home")).1.ending.exitCode ≠ 4 ∧
      run words (Environment.empty.set Arguments.homeVariable []) ⟨none⟩ (assigning "NO_COLOR=1") =
        run words .empty ⟨none⟩ (assigning "NO_COLOR=1") := by
  intro words
  let loaded := Environment.ofVariables [(Arguments.homeVariable, Text.encode "home")]
  let invocation : Invocation := ⟨some "X", some "home", true, false, false, 0, .auto⟩
  have hinvokes : Invokes words .empty (assigning "BIQT_HOME=home") loaded invocation :=
    ⟨⟨by decide +kernel, by decide +kernel⟩, _, rfl⟩
  obtain ⟨hmissing, -⟩ := home_run words .empty ⟨none⟩ (assigning "BIQT_HOME=home")
  obtain ⟨-, hcode, -⟩ := hmissing _ _ hinvokes
  obtain ⟨-, hsame⟩ := home_run words .empty ⟨none⟩ (assigning "NO_COLOR=1")
  refine ⟨?_, hsame rfl (by decide +kernel)⟩
  rw [Ne, hcode]
  decide +kernel

/-- The file gives a home, and a dry run without the variable uses it.  With an empty variable the
same run misses a home. -/
theorem missing_home_despite_file :
    let words := [Text.encode "--dry-run", Text.encode "X"]
    let disk := assigning "BIQT_HOME=home"
    let empty := Environment.ofVariables [(Arguments.homeVariable, [])]
    Arguments.home? words = none ∧ empty.text? Arguments.homeVariable = some "" ∧
      homeInFile? empty disk = some "home" ∧
      (run words empty ⟨none⟩ disk).1.ending = .failed (.missingHome Arguments.homeVariable) ∧
      (run words .empty ⟨none⟩ disk).1.ending = .success := by
  decide +kernel

end Command

end Scaffolding
