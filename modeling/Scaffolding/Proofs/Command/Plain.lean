import Scaffolding.Proofs.Command.Showing
import Scaffolding.Proofs.Provider.Separation
import Scaffolding.Proofs.Report.Plain
import Scaffolding.Proofs.Report.RoundTrip

/-!
# What a run prints in plain text

The paths of a run go from the working directory to the name of a provider
and on, so no line of its report is broken, and no file looks like a
directory.  What the run prints tells its whole report, the same that it
would print as JSON.

* `isLegible_of_report` is about the paths.
* `Parses.stdout_of_success` is about what is printed.
* `plain_run` is the result.
-/

namespace Scaffolding

/-! ## The paths of a provider in the working directory -/

namespace Provider

variable {provider : Provider} {text : String} {site : Site}

/-- The names in a home have the characters of a provider's name, and dots. -/
theorem character_of_mem_entryNames (hmem : text ∈ provider.entryNames) :
    ∀ c ∈ text.toList, isNameCharacter c = true ∨ c = '.' := by
  have hwords : ∀ word ∈ [".h", ".cpp", "descriptor.json", "CMakeLists.txt", "src", "config"],
      ∀ c ∈ word.toList, isNameCharacter c = true ∨ c = '.' := by
    simp [isNameCharacter]
  have hnamed : ∀ word ∈ [".h", ".cpp"], ∀ c ∈ (provider.name ++ word).toList,
      isNameCharacter c = true ∨ c = '.' := by
    intro word hword c hc
    rw [String.toList_append] at hc
    rcases List.mem_append.mp hc with hc | hc
    · exact .inl (provider.isNameCharacter_of_mem c hc)
    · exact hwords word (List.mem_append_left _ hword) c hc
  rcases List.mem_append.mp hmem with hsub | htarget
  · exact hwords text (List.mem_append_right [_, _, _, _] hsub)
  · obtain ⟨template, -, rfl⟩ := List.mem_map.mp htarget
    cases template with
    | header => exact hnamed ".h" (by simp)
    | source => exact hnamed ".cpp" (by simp)
    | descriptor => exact hwords "descriptor.json" (by simp)
    | build => exact hwords "CMakeLists.txt" (by simp)

/-- In the working directory the home of a provider is spelled by its name. -/
theorem home_empty (provider : Provider) : provider.home .empty = .ofText provider.name := by
  have habsolute : (Path.ofText provider.name).isAbsolute = false :=
    provider.isName_name.isAbsolute_eq_false
  unfold home Path.child Path.join
  rw [habsolute, if_neg Bool.false_ne_true, if_pos (.inl rfl)]
  rfl

/-- An entry of that home is spelled by its name behind a slash. -/
theorem child_home_empty (provider : Provider) (hmem : text ∈ provider.entryNames) :
    (provider.home .empty).child text = .ofText (provider.name ++ "/" ++ text) := by
  have habsolute : (Path.ofText text).isAbsolute = false :=
    (isName_of_mem_entryNames hmem).isAbsolute_eq_false
  have hname := provider.isName_name
  have hend : ¬ ((Path.ofText provider.name).bytes = [] ∨
      (Path.ofText provider.name).bytes.getLast? = some Path.slash) := by
    rintro (hnil | hlast)
    · exact hname.ne_nil hnil
    · exact hname.slash_not_mem (List.mem_of_getLast? hlast)
  have hslash : Text.encode "/" = [Path.slash] := by decide
  rw [home_empty]
  unfold Path.child Path.join
  rw [habsolute, if_neg Bool.false_ne_true, if_neg hend]
  apply congrArg Path.mk
  rw [Text.encode_append, Text.encode_append, hslash, List.append_assoc]
  rfl

/-- The paths in the working directory are text without control characters, and end with no
slash. -/
theorem exists_text_of_mem_sites (hsite : site ∈ provider.sites .empty) :
    ∃ text, site.path = .ofText text ∧ Text.IsPrinted text ∧ ∀ front, text ≠ front ++ "/" := by
  have hname := provider.isNameCharacter_of_mem
  rcases path_of_mem_sites hsite with rfl | ⟨text, htext, hpath⟩
  · refine ⟨provider.name, provider.home_empty, provider.isPrinted_name, ?_⟩
    intro front hslash
    have hmem : '/' ∈ provider.name.toList := by
      rw [hslash, String.toList_append]
      exact List.mem_append_right _ (by simp)
    exact absurd (hname '/' hmem) (by decide)
  · have hcharacters := character_of_mem_entryNames htext
    refine ⟨_, hpath.trans (provider.child_home_empty htext), ?_, ?_⟩
    · have hprinted : Text.IsPrinted text := by
        intro c hc
        rcases hcharacters c hc with hnamed | rfl
        · exact blank_le_of_isNameCharacter hnamed
        · decide
      exact Text.isPrinted_append_iff.mpr
        ⟨Text.isPrinted_append_iff.mpr ⟨provider.isPrinted_name, by decide⟩, hprinted⟩
    · intro front hslash
      rcases Text.eq_empty_or_append_singleton text with rfl | ⟨rest, c, rfl⟩
      · exact (isName_of_mem_entryNames htext).ne_nil rfl
      · rw [← String.append_assoc] at hslash
        have hlast := congrArg (·.toList.getLast?) hslash
        obtain rfl : c = '/' := by simpa [-List.append_assoc] using hlast
        exact absurd (hcharacters '/' (by simp)) (by decide)

end Provider

namespace Command

open Report (Entry)

variable {words words' : List Bytes} {environment environment' loaded loaded' : Environment}
  {console console' : Console} {disk disk' : Disk} {invocation invocation' : Invocation}
  {request : Request} {report : Report}

/-! ## Reports of runs -/

/-- The paths of a report of a run are text without control characters, and end with no slash. -/
theorem exists_text_of_report {templates : Path}
    (hreport : (request.script.exec (Disk.surroundings templates) disk).answer = .ok report) :
    Text.IsPrinted report.home.display ∧ ∀ entry ∈ report.entries, ∃ text,
      entry.path = .ofText text ∧ Text.IsPrinted text ∧ ∀ front, text ≠ front ++ "/" := by
  obtain ⟨hhome, hpaths⟩ := map_path_of_report hreport
  constructor
  · rw [hhome, Request.outputRoot, Provider.home_empty, Path.display_ofText]
    exact request.provider.isPrinted_name
  · intro entry hentry
    have hpath := List.mem_map_of_mem (f := Entry.path) hentry
    rw [hpaths] at hpath
    obtain ⟨site, hsite, hsame⟩ := List.mem_map.mp hpath
    rw [← hsame]
    exact Provider.exists_text_of_mem_sites hsite

/-- A report of a run is legible in plain text. -/
theorem isLegible_of_report {templates : Path}
    (hreport : (request.script.exec (Disk.surroundings templates) disk).answer = .ok report) :
    report.IsLegible := by
  obtain ⟨hhome, hentries⟩ := exists_text_of_report hreport
  refine ⟨fun hmem => absurd (hhome '\n' hmem) (by decide), ?_⟩
  intro entry hentry
  obtain ⟨text, hpath, hprinted, hslash⟩ := hentries entry hentry
  have hdisplay : entry.path.display = text := by rw [hpath, Path.display_ofText]
  refine ⟨⟨text, hpath⟩, ?_, ?_⟩
  · rw [hdisplay]
    exact fun hmem => absurd (hprinted '\n' hmem) (by decide)
  · rw [hdisplay]
    exact fun _ => hslash

/-- That the script of an invocation comes to a report. -/
def Invocation.Reports (invocation : Invocation) (disk : Disk) (report : Report) : Prop :=
  ∃ request, invocation.request = .ok request ∧
    (request.script.exec (Disk.surroundings request.templates) disk).answer = .ok report

theorem Invocation.Reports.unique {other : Report} (hreports : invocation.Reports disk report)
    (hother : invocation.Reports disk other) : other = report := by
  obtain ⟨request, hrequest, hanswer⟩ := hreports
  obtain ⟨_, hsame, hanswer'⟩ := hother
  cases hrequest.symm.trans hsame
  cases hanswer.symm.trans hanswer'
  rfl

theorem provider_of_report {templates : Path}
    (hreport : (request.script.exec (Disk.surroundings templates) disk).answer = .ok report) :
    report.provider = request.provider := by
  cases hdry : request.dryRun with
  | true =>
    rw [script_of_dryRun hdry, (Script.exec_plan request.provider Request.outputRoot
      (fun _ => rfl) (fun _ => rfl)).1] at hreport
    cases hreport
    rfl
  | false =>
    rw [script_of_not_dryRun hdry] at hreport
    obtain ⟨_, _, _, hanswer, -⟩ := Script.exists_tour (Disk.surroundings templates)
      request.provider Request.outputRoot disk
    obtain ⟨_, -, rfl⟩ := Script.exists_of_map_eq_ok (hanswer.symm.trans hreport)
    rfl

theorem Invocation.Reports.home_eq (hreports : invocation.Reports disk report) :
    report.home = report.provider.home Request.outputRoot := by
  obtain ⟨request, -, hanswer⟩ := hreports
  rw [provider_of_report hanswer]
  exact (map_path_of_report hanswer).1

/-! ## What is printed -/

/-- That an invocation prints its report in plain text. -/
structure Invocation.IsPlain (invocation : Invocation) : Prop where
  loud : invocation.quiet = false
  format_ne : invocation.format ≠ .json
  uncoloured : invocation.inColour = false

theorem show_plain (hplain : invocation.IsPlain) (hfault : console.fault = none)
    (report : Report) :
    console.show invocation report = (report.plain invocation.dryRun, none) := by
  have hlines : linesFor invocation report =
      (report.lines invocation.dryRun).map Line.plain := by
    unfold linesFor
    simp only [hplain.loud, hplain.uncoloured, Bool.false_eq_true, if_false]
  unfold Console.show Console.write
  rw [if_neg hplain.format_ne, hlines, hfault]
  simp only [List.map_map, Option.map_none]
  rfl

theorem show_json (hformat : invocation.format = .json) (hfault : console.fault = none)
    {value : Json} (hvalue : report.json? = some value) :
    console.show invocation report = (value.write .pretty ++ "\n", none) := by
  unfold Console.show Console.write
  rw [if_pos hformat, hvalue, hfault]
  simp only [List.map_cons, List.map_nil, String.join_cons, String.join_nil, String.append_empty,
    Option.map_none]

/-- A report is read back from its JSON value with a line end behind it. -/
theorem read?_write_line {value : Json} (hvalue : report.json? = some value) :
    Report.read? (value.write .pretty ++ "\n") = some report := by
  have hline : Json.SpellTokens [] "\n".toList := .gap rfl .nil
  have hspells : value.Spells (value.write .pretty ++ "\n") := by
    have hboth := (Json.spells_write .pretty value).append hline
    rw [List.append_nil, ← String.toList_append] at hboth
    exact hboth
  exact Report.read?_of_spells hvalue hspells

theorem stdout_ofAnswer (invocation : Invocation) (filter : Log.Filter) (console : Console)
    (request : Request) (events : List Event) (report : Report) :
    (Conclusion.ofAnswer invocation filter console request events (.ok report)).stdout =
      (console.show invocation report).1 := by
  unfold Conclusion.ofAnswer Conclusion.ofInvocation
  cases hshown : (console.show invocation report).2 <;> simp only [hshown]

/-- A run that succeeds has made a report, which the console took. -/
theorem Parses.stdout_of_success (hparses : Parses words environment disk loaded invocation)
    (hsuccess : (run words environment console disk).1.ending = .success) :
    ∃ request report, invocation.request = .ok request ∧
      (request.script.exec (Disk.surroundings request.templates) disk).answer = .ok report ∧
      (console.show invocation report).2 = none ∧
      (run words environment console disk).1.stdout = (console.show invocation report).1 := by
  have hgoes : ¬ BreaksOff words environment disk := by
    intro hbreaks
    obtain ⟨crash, hrun⟩ := run_of_breaksOff hbreaks console
    rw [hrun] at hsuccess
    cases hsuccess
  have hinvokes := hparses.invokes hgoes
  cases hrequest : invocation.request with
  | error problem =>
    obtain ⟨_, -, hrun⟩ := hinvokes.run_of_refused hrequest
    rw [hrun] at hsuccess
    cases hsuccess
  | ok request =>
    obtain ⟨_, -, hrun⟩ := hinvokes.run_of_request hrequest
    rw [hrun] at hsuccess ⊢
    simp only at hsuccess ⊢
    cases hanswer : (request.script.exec (Disk.surroundings request.templates) disk).answer with
    | error failure =>
      rw [hanswer] at hsuccess
      cases hsuccess
    | ok report =>
      rw [hanswer] at hsuccess
      refine ⟨request, report, rfl, hanswer, ?_, stdout_ofAnswer ..⟩
      rw [ending_ofAnswer] at hsuccess
      cases hshown : (console.show invocation report).2 with
      | none => rfl
      | some problem =>
        simp only [hshown] at hsuccess
        cases hsuccess

/-- A run that succeeds in plain text prints its report, and nothing else. -/
theorem Parses.stdout_of_plain (hparses : Parses words environment disk loaded invocation)
    (hplain : invocation.IsPlain)
    (hsuccess : (run words environment console disk).1.ending = .success) :
    ∃ report, invocation.Reports disk report ∧ report.IsLegible ∧
      (run words environment console disk).1.stdout = report.plain invocation.dryRun := by
  obtain ⟨request, report, hrequest, hanswer, hshown, hstdout⟩ :=
    hparses.stdout_of_success hsuccess
  refine ⟨report, ⟨request, hrequest, hanswer⟩, isLegible_of_report hanswer, ?_⟩
  rcases (show_eq_none_iff (isSome_json?_of_report hanswer)).mp hshown with hfault | ⟨hquiet, -⟩
  · rw [hstdout, show_plain hplain hfault]
  · rw [hplain.loud] at hquiet
    cases hquiet

/-- A run that prints JSON succeeds with the report that its script comes to, if the console takes
it. -/
theorem Invokes.stdout_of_json (hinvokes : Invokes words environment disk loaded invocation)
    (hformat : invocation.format = .json) (hfault : console.fault = none)
    (hreports : invocation.Reports disk report) :
    (run words environment console disk).1.ending = .success ∧
      Report.read? (run words environment console disk).1.stdout = some report := by
  obtain ⟨request, hrequest, hanswer⟩ := hreports
  obtain ⟨value, hvalue⟩ := Option.isSome_iff_exists.mp (isSome_json?_of_report hanswer)
  have hshown := show_json hformat hfault hvalue
  obtain ⟨_, -, hrun⟩ := hinvokes.run_of_request hrequest
  rw [hrun]
  simp only [hanswer, ending_ofAnswer, stdout_ofAnswer, hshown, true_and]
  exact read?_write_line hvalue

/-- What a run prints in plain text tells its provider, whether it was dry, and the entries of its
report.  They are those of the report that a run prints as JSON which asks for the same.  What it
says in the end depends on whether it was dry and made anything.  Two runs that print the same plain
text have one report, and both were dry or neither. -/
theorem plain_run :
    (∀ words environment loaded console disk invocation,
      Parses words environment disk loaded invocation → invocation.IsPlain →
      let outcome := (run words environment console disk).1
      outcome.ending = .success → ∃ report, invocation.Reports disk report ∧
        Report.readPlain? outcome.stdout =
          some ⟨invocation.dryRun, report.provider, report.entries⟩ ∧
        (∀ words' environment' loaded' console' invocation',
          Invokes words' environment' disk loaded' invocation' → invocation.AsksLike invocation' →
          invocation'.format = .json → console'.fault = none →
          let outcome' := (run words' environment' console' disk).1
          outcome'.ending = .success ∧ Report.read? outcome'.stdout = some report) ∧
        let name := report.provider.name
        let told := Report.closingLines outcome.stdout
        ("ℹ Dry run: nothing was written." ∈ told ↔ invocation.dryRun = true) ∧
          ("ℹ Provider '" ++ name ++ "' is already in place; nothing to do." ∈ told ↔
            invocation.dryRun = false ∧ report.isNoop = true) ∧
          ("✓ Provider '" ++ name ++ "' created at " ++ report.home.display ∈ told ↔
            invocation.dryRun = false ∧ report.isNoop = false)) ∧
    ∀ words words' environment environment' loaded loaded' console console' disk disk'
      invocation invocation', Parses words environment disk loaded invocation →
      Parses words' environment' disk' loaded' invocation' → invocation.IsPlain →
      invocation'.IsPlain →
      let outcome := (run words environment console disk).1
      let outcome' := (run words' environment' console' disk').1
      outcome.ending = .success → outcome'.ending = .success → outcome.stdout = outcome'.stdout →
      invocation.dryRun = invocation'.dryRun ∧
        ∀ report report', invocation.Reports disk report → invocation'.Reports disk' report' →
          report = report' := by
  constructor
  · intro words environment loaded console disk invocation hparses hplain outcome hsuccess
    obtain ⟨report, hreports, hlegible, hstdout⟩ := hparses.stdout_of_plain hplain hsuccess
    have hstdout : outcome.stdout = report.plain invocation.dryRun := hstdout
    rw [hstdout]
    refine ⟨report, hreports, Report.readPlain?_plain hlegible _, ?_,
      Report.mem_closingLines_iff hlegible _⟩
    intro words' environment' loaded' console' invocation' hinvokes' hlike hformat hfault
    obtain ⟨request, hrequest, hanswer⟩ := hreports
    exact hinvokes'.stdout_of_json hformat hfault
      ⟨request, hlike.request_eq.symm.trans hrequest, hanswer⟩
  · intro words words' environment environment' loaded loaded' console console' disk disk'
      invocation invocation' hparses hparses' hplain hplain' outcome outcome' hsuccess hsuccess'
      hsame
    obtain ⟨report, hreports, hlegible, hstdout⟩ := hparses.stdout_of_plain hplain hsuccess
    obtain ⟨report', hreports', hlegible', hstdout'⟩ := hparses'.stdout_of_plain hplain' hsuccess'
    have hread := Report.readPlain?_plain hlegible invocation.dryRun
    have hread' := Report.readPlain?_plain hlegible' invocation'.dryRun
    rw [← hstdout, show _ = _ from hsame, hstdout', hread', Option.some.injEq,
      Report.outline, Report.outline, Report.Outline.mk.injEq] at hread
    obtain ⟨hdry, hprovider, hentries⟩ := hread
    have hreport : report = report' := by
      have hhome := hreports.home_eq
      have hhome' := hreports'.home_eq
      rw [hprovider, ← hhome] at hhome'
      obtain ⟨provider, home, entries⟩ := report
      obtain ⟨provider', home', entries'⟩ := report'
      simp only at hprovider hhome' hentries
      rw [hprovider, hhome', hentries]
    refine ⟨hdry.symm, ?_⟩
    intro other other' hother hother'
    rw [hreports.unique hother, hreports'.unique hother', hreport]

/-- A dry run tells that it was one, and its report is the one that is printed as JSON. -/
theorem plain_run_dry :
    let words := [Text.encode "--dry-run", Text.encode "--biqt-home=/biqt", Text.encode "X"]
    let words' := Text.encode "--output-format=json" :: words
    let outcome := (run words .empty ⟨none⟩ (.fresh [])).1
    let outcome' := (run words' .empty ⟨none⟩ (.fresh [])).1
    ∃ report, Report.readPlain? outcome.stdout = some ⟨true, report.provider, report.entries⟩ ∧
      Report.read? outcome'.stdout = some report := by
  intro words words' outcome outcome'
  let invocation : Invocation := ⟨some "X", some "/biqt", true, false, false, 0, .auto⟩
  let invocation' : Invocation := { invocation with format := .json }
  have hparses : Parses words .empty (.fresh []) .empty invocation :=
    ⟨by decide +kernel, by decide +kernel⟩
  have hinvokes' : Invokes words' .empty (.fresh []) .empty invocation' :=
    ⟨⟨by decide +kernel, by decide +kernel⟩, _, rfl⟩
  obtain ⟨hplain, -⟩ := plain_run
  obtain ⟨report, -, hread, hjson, -⟩ := hplain words .empty .empty ⟨none⟩ (.fresh []) invocation
    hparses ⟨rfl, nofun, rfl⟩ (by decide +kernel)
  obtain ⟨-, hread'⟩ := hjson words' .empty .empty ⟨none⟩ invocation' hinvokes' ⟨rfl, rfl, rfl⟩
    rfl rfl
  exact ⟨report, hread, hread'⟩

end Command

end Scaffolding
