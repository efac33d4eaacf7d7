import Scaffolding.Proofs.Command.Plain
import Scaffolding.Proofs.Text.Colour

/-!
# Colour is all that colour adds

A run in colour prints what the same run prints in plain text, with control
sequences in it.  They can be taken out again, since the paths and the name
in a report have no escape characters.

* `Line.stripsTo_coloured` is about the lines of a report.
* `Invokes.stdout_eq` says what a run prints, and
  `Invokes.escape_mem_stdout_iff` when there are escape characters in it.
* `coloured_run` is the result.
-/

namespace Scaffolding

open Text (StripsTo IsPrinted escape)

/-! ## Lines -/

theorem stripsTo_marked (colour : Text.Colour) {mark words : String} (hmark : IsPrinted mark)
    (hwords : IsPrinted words) :
    StripsTo (Line.marked colour mark words) (mark ++ " " ++ words) := by
  have hblank : IsPrinted " " := by decide
  exact (((StripsTo.of_isPrinted hmark).paint colour).bold.append (.of_isPrinted hblank)).append
    ((StripsTo.of_isPrinted hwords).paint colour)

theorem Line.stripsTo_coloured {line : Line} (hprinted : IsPrinted line.plain) :
    StripsTo line.coloured line.plain := by
  cases line with
  | heading words => exact ((StripsTo.of_isPrinted hprinted).paint .cyan).bold
  | text words => exact .of_isPrinted hprinted
  | success words =>
    exact stripsTo_marked .green (by decide) (Text.isPrinted_append_iff.mp hprinted).2
  | warning words =>
    exact stripsTo_marked .yellow (by decide) (Text.isPrinted_append_iff.mp hprinted).2
  | info words =>
    exact stripsTo_marked .blue (by decide) (Text.isPrinted_append_iff.mp hprinted).2

namespace Command

variable {words words' : List Bytes} {environment environment' loaded loaded' : Environment}
  {console : Console} {disk : Disk} {invocation invocation' : Invocation} {request : Request}
  {report : Report}

/-- The lines of a report of a run have no control characters. -/
theorem isPrinted_of_report (hreports : invocation.Reports disk report) (dryRun : Bool) :
    ∀ line ∈ report.lines dryRun, IsPrinted line.plain := by
  obtain ⟨request, -, hanswer⟩ := hreports
  obtain ⟨hhome, hentries⟩ := exists_text_of_report hanswer
  have hpaths : ∀ entry ∈ report.entries, ∀ c ∈ entry.path.display.toList, ' ' ≤ c := by
    intro entry hentry
    obtain ⟨text, hpath, hprinted, -⟩ := hentries entry hentry
    rw [hpath, Path.display_ofText]
    exact hprinted
  exact List.forall_mem_map.mp
    (Report.forall_mem_lines (fun _ hprinted => hprinted) hhome hpaths dryRun)

/-! ## What is printed -/

theorem write_eq (console : Console) (lines : List String) :
    (console.write lines).1 =
      if console.fault = none then String.join (lines.map (· ++ "\n")) else "" := by
  unfold Console.write
  cases console.fault with
  | none => rfl
  | some fault => cases lines <;> rfl

theorem escape_not_mem_join {lines : List String} (hlines : ∀ line ∈ lines, escape ∉ line.toList) :
    escape ∉ (String.join (lines.map (· ++ "\n"))).toList := by
  have hbreak : escape ≠ '\n' := by decide
  simpa [hbreak] using hlines

theorem escape_not_mem_write {lines : List String} (hlines : ∀ line ∈ lines, escape ∉ line.toList)
    (console : Console) : escape ∉ (console.write lines).1.toList := by
  rw [write_eq]
  split
  · exact escape_not_mem_join hlines
  · exact List.not_mem_nil

theorem show_eq_write (hformat : invocation.format ≠ .json) (console : Console)
    (report : Report) :
    (console.show invocation report).1 = (console.write (linesFor invocation report)).1 := by
  unfold Console.show
  rw [if_neg hformat]

/-- A run prints the report that its script comes to, and nothing without one. -/
theorem Invokes.stdout_eq (hinvokes : Invokes words environment disk loaded invocation)
    (console : Console) :
    (∀ report, invocation.Reports disk report →
      (run words environment console disk).1.stdout = (console.show invocation report).1) ∧
    ((¬ ∃ report, invocation.Reports disk report) →
      (run words environment console disk).1.stdout = "") := by
  constructor
  · rintro report ⟨request, hrequest, hanswer⟩
    obtain ⟨_, -, hrun⟩ := hinvokes.run_of_request hrequest
    rw [hrun]
    simp only [hanswer]
    exact stdout_ofAnswer ..
  · intro hnone
    cases hrequest : invocation.request with
    | error problem =>
      obtain ⟨_, -, hrun⟩ := hinvokes.run_of_refused hrequest
      rw [hrun]
      rfl
    | ok request =>
      obtain ⟨_, -, hrun⟩ := hinvokes.run_of_request hrequest
      rw [hrun]
      cases hanswer : (request.script.exec (Disk.surroundings request.templates) disk).answer with
      | error failure =>
        simp only [hanswer]
        rfl
      | ok report => exact absurd ⟨report, request, hrequest, hanswer⟩ hnone

/-! ## Escape characters -/

theorem escape_not_mem_json (hformat : invocation.format = .json) (console : Console)
    (report : Report) : escape ∉ (console.show invocation report).1.toList := by
  unfold Console.show
  rw [if_pos hformat]
  cases report.json? with
  | none => exact List.not_mem_nil
  | some value =>
    refine escape_not_mem_write (List.forall_mem_singleton.mpr fun hmem => ?_) console
    rcases (Json.spells_write .pretty value).blank_le_or_isGap _ hmem with hprinted | hgap
    · exact absurd hprinted (by decide)
    · exact absurd hgap (by decide)

/-- A report that is printed has no escape character in it unless it is printed in colour. -/
theorem of_escape_mem_show (hreports : invocation.Reports disk report)
    (hmem : escape ∈ (console.show invocation report).1.toList) :
    invocation.inColour = true ∧ invocation.quiet = false ∧ console.fault = none := by
  have hformat : invocation.format ≠ .json := fun hformat =>
    escape_not_mem_json hformat console report hmem
  rw [show_eq_write hformat, write_eq] at hmem
  split at hmem
  case isFalse => exact absurd hmem List.not_mem_nil
  rename_i hfault
  refine ⟨?_, ?_, hfault⟩
  · by_contra hplain
    refine escape_not_mem_join (fun line hline => ?_) hmem
    unfold linesFor at hline
    split at hline
    · exact absurd hline List.not_mem_nil
    · obtain ⟨line, hshown, rfl⟩ := List.mem_map.mp hline
      exact (isPrinted_of_report hreports _ line hshown).escape_not_mem
  · by_contra hquiet
    rw [Bool.not_eq_false] at hquiet
    rw [linesFor_eq_nil_iff.mpr hquiet] at hmem
    exact absurd hmem List.not_mem_nil

/-- A report that is printed in colour begins with an escape character. -/
theorem escape_mem_show (hcolour : invocation.inColour = true) (hloud : invocation.quiet = false)
    (hfault : console.fault = none) (report : Report) :
    escape ∈ (console.show invocation report).1.toList := by
  have hformat : invocation.format ≠ .json := by
    intro hformat
    unfold Invocation.inColour at hcolour
    rw [hformat] at hcolour
    cases hcolour
  have hlines : linesFor invocation report =
      (report.heading invocation.dryRun).coloured ::
        (linesFor invocation report).tail := by
    unfold linesFor
    simp only [hloud, hcolour, Bool.false_eq_true, if_false, if_true, Report.lines]
    rfl
  have hheading : escape ∈ (report.heading invocation.dryRun).coloured.toList := by
    simp [Report.heading, Line.coloured, Text.bold, Text.control, escape]
  rw [show_eq_write hformat, write_eq, if_pos hfault, hlines, List.map_cons, String.join_cons]
  simp [hheading]

/-- A run prints an escape character exactly if it prints a report in colour. -/
theorem Invokes.escape_mem_stdout_iff
    (hinvokes : Invokes words environment disk loaded invocation) (console : Console) :
    escape ∈ (run words environment console disk).1.stdout.toList ↔
      ∃ report, invocation.Reports disk report ∧ invocation.inColour = true ∧
        invocation.quiet = false ∧ console.fault = none := by
  obtain ⟨hreport, hnone⟩ := hinvokes.stdout_eq console
  constructor
  · intro hmem
    by_cases hreports : ∃ report, invocation.Reports disk report
    · obtain ⟨report, hreports⟩ := hreports
      rw [hreport report hreports] at hmem
      exact ⟨report, hreports, of_escape_mem_show hreports hmem⟩
    · rw [hnone hreports] at hmem
      exact absurd hmem List.not_mem_nil
  · rintro ⟨report, hreports, hcolour, hloud, hfault⟩
    rw [hreport report hreports]
    exact escape_mem_show hcolour hloud hfault report

/-! ## Two runs -/

theorem stripsTo_write {shown : Line → String} {lines : List Line}
    (hlines : ∀ line ∈ lines, StripsTo (shown line) line.plain) (console : Console) :
    StripsTo (console.write (lines.map shown)).1 (console.write (lines.map Line.plain)).1 := by
  rw [write_eq, write_eq]
  split
  · rw [List.map_map, List.map_map]
    exact StripsTo.join hlines
  · exact fun _ => rfl

theorem linesFor_eq (invocation : Invocation) (report : Report) :
    linesFor invocation report =
      (if invocation.quiet then [] else report.lines invocation.dryRun).map
        (if invocation.inColour then Line.coloured else Line.plain) := by
  unfold linesFor
  cases invocation.quiet <;> cases invocation.inColour <;> rfl

section Alike

variable (hlike : invocation.AsksLike invocation') (hquiet : invocation.quiet = invocation'.quiet)
  (hformat : invocation.format = .human) (hformat' : invocation'.format = .plain)

include hlike hquiet hformat hformat'

/-- A report in colour is the plain one with control sequences in it, and just that where no colour
is used. -/
theorem show_human (hreports : invocation.Reports disk report) (console : Console) :
    StripsTo (console.show invocation report).1 (console.show invocation' report).1 ∧
    (invocation.noColour = true →
      (console.show invocation report).1 = (console.show invocation' report).1) := by
  have hcolour : invocation.inColour = !invocation.noColour := by
    unfold Invocation.inColour
    rw [hformat]
    rfl
  have hplain : invocation'.inColour = false := by
    unfold Invocation.inColour
    rw [hformat']
    rfl
  have hprinted := isPrinted_of_report hreports invocation.dryRun
  rw [show_eq_write (by rw [hformat]; exact nofun), show_eq_write (by rw [hformat']; exact nofun),
    linesFor_eq, linesFor_eq, hcolour, hplain, ← hquiet, ← hlike.dryRun_eq]
  constructor
  · refine stripsTo_write (fun line hline => ?_) console
    have hline : IsPrinted line.plain := by
      split at hline
      · exact absurd hline List.not_mem_nil
      · exact hprinted line hline
    split
    · exact Line.stripsTo_coloured hline
    · exact .of_isPrinted hline
  · intro hforbidden
    rw [hforbidden]
    rfl

/-- Runs that ask for the same, the one in colour and the other in plain text. -/
theorem Invokes.stdout_human (hinvokes : Invokes words environment disk loaded invocation)
    (hinvokes' : Invokes words' environment' disk loaded' invocation') (console : Console) :
    StripsTo (run words environment console disk).1.stdout
      (run words' environment' console disk).1.stdout ∧
    (invocation.noColour = true →
      (run words environment console disk).1.stdout =
        (run words' environment' console disk).1.stdout) := by
  obtain ⟨hreport, hnone⟩ := hinvokes.stdout_eq console
  obtain ⟨hreport', hnone'⟩ := hinvokes'.stdout_eq console
  have hsame : ∀ report, invocation.Reports disk report ↔ invocation'.Reports disk report := by
    intro report
    unfold Invocation.Reports
    rw [hlike.request_eq]
  by_cases hreports : ∃ report, invocation.Reports disk report
  · obtain ⟨report, hreports⟩ := hreports
    rw [hreport report hreports, hreport' report ((hsame report).mp hreports)]
    exact show_human hlike hquiet hformat hformat' hreports console
  · have hreports' : ¬ ∃ report, invocation'.Reports disk report := by
      simpa only [hsame] using hreports
    rw [hnone hreports, hnone' hreports']
    exact ⟨fun _ => rfl, fun _ => rfl⟩

end Alike

/-- A run in colour prints what a run in plain text prints that asks for the same on the same disk,
with control sequences in it.  If it is not to use colour, it prints just that.  A run prints no
escape character unless it is to use colour, and then it does if it is not quiet and has a report
that the console takes. -/
theorem coloured_run (words words' : List Bytes) (environment environment' : Environment)
    (console : Console) (disk : Disk) :
    let stdout := (run words environment console disk).1.stdout
    let stdout' := (run words' environment' console disk).1.stdout
    (∀ loaded loaded' invocation invocation', Invokes words environment disk loaded invocation →
      Invokes words' environment' disk loaded' invocation' → invocation.AsksLike invocation' →
      invocation.quiet = invocation'.quiet → invocation.format = .human →
      invocation'.format = .plain →
        Text.strip stdout = stdout' ∧ (invocation.noColour = true → stdout = stdout')) ∧
    (∀ loaded invocation, Invokes words environment disk loaded invocation →
      ('\x1b' ∈ stdout.toList ↔
        ∃ report, invocation.Reports disk report ∧ invocation.format = .human ∧
          invocation.noColour = false ∧ invocation.quiet = false ∧ console.fault = none)) := by
  intro stdout stdout'
  constructor
  · intro loaded loaded' invocation invocation' hinvokes hinvokes' hlike hquiet hformat hformat'
    obtain ⟨hstrips, hplain⟩ :=
      hinvokes.stdout_human hlike hquiet hformat hformat' hinvokes' console
    exact ⟨Text.strip_eq_of_stripsTo hstrips, hplain⟩
  · intro loaded invocation hinvokes
    have hcolour : invocation.inColour = true ↔
        invocation.format = .human ∧ invocation.noColour = false := by
      simp [Invocation.inColour]
    have hmem := hinvokes.escape_mem_stdout_iff console
    simp only [hcolour, and_assoc] at hmem
    exact hmem

/-- A run in colour, and the same in plain text, which needs no control sequences. -/
theorem coloured_run_dry :
    let words := [Text.encode "--dry-run", Text.encode "--biqt-home=/biqt", Text.encode "X"]
    let human := Text.encode "--output-format=human" :: words
    let plain := Text.encode "--output-format=plain" :: words
    let stdout := fun words => (run words .empty ⟨none⟩ (.fresh [])).1.stdout
    Text.strip (stdout human) = stdout plain ∧ '\x1b' ∈ (stdout human).toList ∧
      '\x1b' ∉ (stdout plain).toList := by
  intro words human plain stdout
  let invocation : Invocation := ⟨some "X", some "/biqt", true, false, false, 0, .human⟩
  let invocation' : Invocation := { invocation with format := .plain }
  have hinvokes : Invokes human .empty (.fresh []) .empty invocation :=
    ⟨⟨by decide +kernel, by decide +kernel⟩, _, rfl⟩
  have hinvokes' : Invokes plain .empty (.fresh []) .empty invocation' :=
    ⟨⟨by decide +kernel, by decide +kernel⟩, _, rfl⟩
  obtain ⟨hsame, hescape⟩ := coloured_run human plain .empty .empty ⟨none⟩ (.fresh [])
  obtain ⟨-, hescape'⟩ := coloured_run plain human .empty .empty ⟨none⟩ (.fresh [])
  refine ⟨(hsame _ _ _ _ hinvokes hinvokes' ⟨rfl, rfl, rfl⟩ rfl rfl rfl).1, ?_, ?_⟩
  · exact (hescape _ _ hinvokes).mpr ⟨_, ⟨_, rfl, rfl⟩, rfl, rfl, rfl, rfl⟩
  · intro hmem
    obtain ⟨_, -, hformat, -⟩ := (hescape' _ _ hinvokes').mp hmem
    cases hformat

end Command

end Scaffolding
