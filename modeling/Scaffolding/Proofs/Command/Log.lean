import Scaffolding.Proofs.Command.Diagnostic
import Scaffolding.Proofs.Command.Settling
import Scaffolding.Proofs.Disk.Written

/-!
# What a run logs of its files

A run that is asked to tell one degree more logs what became of each file,
in the order of the layout, and nothing of the directories and templates
that it meets on its way.

* `infoLine` is how a line of the log looks, and `eventLine` the line of an
  event.
* `render_records` goes through the records of a request.
* `stderr_ofAnswer` is all of standard error, and `logged_run` the result,
  where a chronicle ties the lines to the report.
-/

namespace Scaffolding

open Log (Field Filter Level Record Span)
open Report (Entry)
open Script (Chronicle)

/-! ## Lines -/

namespace Log

/-- A line of the log: where in the program it comes from, what is told, and with which values. -/
def infoLine (origin message : String) (values : List Field) : String :=
  " INFO " ++ origin ++ message ++
    String.join (values.map fun value => " " ++ value.1 ++ "=" ++ value.2) ++ "\n"

/-- That every character of a message is shown as it is. -/
def IsShownAsIs (message : String) : Prop :=
  String.join (message.toList.map showCharacter) = message

instance (message : String) : Decidable (IsShownAsIs message) :=
  inferInstanceAs (Decidable (_ = _))

theorem line_of_info {target message : String} {spans : List Span} {values : List Field}
    (hmessage : IsShownAsIs message) :
    (Record.mk target .info spans message values).line =
      infoLine (if spans = [] then "" else String.intercalate ":" (spans.map Span.show) ++ ": ")
        message values := by
  have hlevel : String.ofList (List.replicate (5 - Level.info.name.length) ' ') ++
      Level.info.name ++ " " = " INFO " := by decide
  have hvalues : (values.map fun value => " " ++ showField value) =
      values.map fun value => " " ++ value.1 ++ "=" ++ value.2 := by
    simp only [showField, String.append_assoc]
  unfold IsShownAsIs at hmessage
  unfold Record.line infoLine
  simp only [hlevel, hmessage, hvalues, List.map_eq_nil_iff]

/-- What is rendered of one record after another. -/
theorem render_append (filter : Filter) (records records' : List Record) :
    render filter (records ++ records') = render filter records ++ render filter records' := by
  unfold render
  rw [List.filterMap_append, List.map_append, String.join_append]

theorem render_cons (filter : Filter) (record : Record) (records : List Record) :
    render filter (record :: records) = render filter [record] ++ render filter records :=
  render_append filter [record] records

end Log

namespace Command

variable {words : List Bytes} {environment loaded : Environment} {console : Console}
  {disk : Disk} {invocation : Invocation} {request : Request}

/-- Where a line comes from that is logged while a request is carried out for a provider of some
name. -/
def insideRequest (name : String) : String :=
  "execute\x7bprovider=" ++ name ++ "\x7d: "

/-- Where a line comes from that is logged while a provider of some name is made. -/
def insideScaffold (name : String) : String :=
  "execute\x7bprovider=" ++ name ++ "\x7d:scaffold\x7bprovider=" ++ name ++ " output_root=\x7d: "

/-- The line that announces a provider of some name. -/
def startLine (name : String) : String :=
  Log.infoLine (insideRequest name) "Scaffold started" [("provider", name)]

/-- The line of an event while a provider of some name is made, if the event is told. -/
def eventLine (name : String) : Event → String
  | .fileSkipped path =>
    Log.infoLine (insideScaffold name) "Skipping existing file" [("path", path.display)]
  | .fileMade template path bytes =>
    Log.infoLine (insideScaffold name) "File instantiated"
      [("template", template.fileName), ("path", path.display), ("bytes", toString bytes)]
  | .completed created skipped =>
    Log.infoLine (insideScaffold name) "Scaffold completed"
      [("created", toString created), ("skipped", toString skipped)]
  | .directoryFound _ | .directoryMade _ | .templateRead _ => ""

/-- The last line of a run that succeeds. -/
def successLine : String :=
  Log.infoLine "" "provkit completed successfully" []

theorem show_span (request : Request) :
    String.intercalate ":" ([request.span].map Span.show) ++ ": " =
      insideRequest request.provider.name := by
  have hopen : "execute\x7bprovider=" = "execute" ++ "\x7b" ++ "provider" ++ "=" := by decide
  have hclose : "\x7d: " = "\x7d" ++ ": " := by decide
  unfold insideRequest Request.span
  rw [hopen, hclose]
  simp only [List.map_cons, List.map_nil, Span.show, Log.showField, String.intercalate_singleton,
    String.append_assoc]

theorem show_spans (request : Request) :
    String.intercalate ":" ([request.span, request.scaffoldSpan].map Span.show) ++ ": " =
      insideScaffold request.provider.name := by
  have hroot : Request.outputRoot.display = "" := by decide
  have hopen : "execute\x7bprovider=" = "execute" ++ "\x7b" ++ "provider" ++ "=" := by decide
  have hinner : "\x7d:scaffold\x7bprovider=" =
      "\x7d" ++ ":" ++ "scaffold" ++ "\x7b" ++ "provider" ++ "=" := by decide
  have hclose : " output_root=\x7d: " = " " ++ "output_root" ++ "=" ++ "" ++ "\x7d" ++ ": " := by
    decide
  unfold insideScaffold Request.span Request.scaffoldSpan
  rw [hopen, hinner, hclose]
  simp only [List.map_cons, List.map_nil, Span.show, Log.showField,
    String.intercalate_cons_cons, String.intercalate_singleton, hroot, String.append_assoc]

/-! ## What passes -/

/-- The filter of a run that is asked to tell one degree more. -/
def infoFilter : Filter :=
  ⟨["provkit", "provkit_core", "provkit_adapters"].map fun target =>
    .forTarget target.toList .info⟩

theorem filter_eq_infoFilter (hquiet : invocation.quiet = false)
    (hverbosity : invocation.verbosity = 1) : invocation.filter = infoFilter := by
  have hlevel : invocation.level = .info := by
    unfold Invocation.level
    rw [hquiet, hverbosity]
    rfl
  unfold Invocation.filter
  rw [hlevel]
  rfl

theorem isPlain_of_mem_infoFilter : ∀ rule ∈ infoFilter.rules, rule.isPlain := by decide

theorem render_of_debug {records : List Record}
    (hdebug : ∀ record ∈ records, record.level = .debug) : Log.render infoFilter records = "" := by
  refine Log.render_eq_empty fun record hrecord => ?_
  refine Filter.through_eq_none isPlain_of_mem_infoFilter ?_
  rw [hdebug record hrecord]
  decide

theorem lets_span (request : Request) :
    infoFilter.lets request.span.target none Span.level = true := by
  show infoFilter.lets requestTarget none Span.level = true
  decide

theorem lets_scaffoldSpan (request : Request) :
    infoFilter.lets request.scaffoldSpan.target none Span.level = true := by
  show infoFilter.lets scaffoldTarget none Span.level = true
  decide

/-- A record that is told passes with all its spans. -/
theorem render_of_info {target message : String} {spans : List Span} {values : List Field}
    (htarget : infoFilter.lets target (some ("message" :: values.map (·.1))) .info = true)
    (hspans : ∀ span ∈ spans, infoFilter.lets span.target none Span.level = true)
    (hmessage : Log.IsShownAsIs message) :
    Log.render infoFilter [Record.mk target .info spans message values] =
      Log.infoLine
        (if spans = [] then "" else String.intercalate ":" (spans.map Span.show) ++ ": ")
        message values := by
  have hthrough : infoFilter.through (Record.mk target .info spans message values) =
      some (Record.mk target .info spans message values) := by
    rw [Filter.through_of_isPlain isPlain_of_mem_infoFilter]
    refine (if_pos htarget).trans ?_
    simp only
    rw [List.filter_eq_self.mpr hspans]
  unfold Log.render
  rw [List.filterMap_cons_some hthrough, List.filterMap_nil, List.map_singleton,
    Log.line_of_info hmessage, String.join_cons, String.join_nil, String.append_empty]

theorem render_successRecord : Log.render infoFilter [successRecord] = successLine :=
  render_of_info (by decide) nofun (by decide)

theorem render_scaffoldRecord (request : Request) :
    Log.render infoFilter [request.scaffoldRecord] = startLine request.provider.name := by
  refine (render_of_info rfl ?_ (by decide)).trans ?_
  · exact List.forall_mem_singleton.mpr (lets_span request)
  · rw [if_neg (List.cons_ne_nil _ _), show_span]
    rfl

theorem render_eventRecord (request : Request) (event : Event) :
    Log.render infoFilter [request.eventRecord event] = eventLine request.provider.name event := by
  have hspans : ∀ span ∈ [request.span, request.scaffoldSpan],
      infoFilter.lets span.target none Span.level = true :=
    List.forall_mem_cons.mpr
      ⟨lets_span request, List.forall_mem_singleton.mpr (lets_scaffoldSpan request)⟩
  cases event with
  | directoryFound | directoryMade | templateRead =>
    exact render_of_debug (List.forall_mem_singleton.mpr rfl)
  | fileSkipped | fileMade | completed =>
    refine (render_of_info rfl hspans (by decide)).trans ?_
    rw [if_neg (List.cons_ne_nil _ _), show_spans]
    rfl

theorem render_eventRecords (request : Request) (events : List Event) :
    Log.render infoFilter (events.map request.eventRecord) =
      String.join ((events.filter Event.isTold).map (eventLine request.provider.name)) := by
  induction events with
  | nil => rfl
  | cons event events ih =>
    rw [List.map_cons, Log.render_cons, render_eventRecord, ih, List.filter_cons]
    cases event with
    | directoryFound | directoryMade | templateRead => exact String.empty_append
    | fileSkipped | fileMade | completed => exact String.join_cons.symm

theorem render_records (hreal : request.dryRun = false) (events : List Event) :
    Log.render infoFilter (request.records events) = startLine request.provider.name ++
      String.join ((events.filter Event.isTold).map (eventLine request.provider.name)) := by
  unfold Request.records
  rw [hreal, if_neg Bool.false_ne_true, Log.render_append, Log.render_cons,
    render_of_debug (List.forall_mem_singleton.mpr rfl), String.empty_append,
    render_scaffoldRecord, render_eventRecords]

/-! ## All of standard error -/

/-- No run is both quiet and asked to tell more. -/
theorem Arguments.quiet_of_parse (hparse : parse words environment = .ok invocation)
    (hverbosity : 0 < invocation.verbosity) : invocation.quiet = false := by
  obtain ⟨final, -, hconclude⟩ := parse_eq_ok_iff.mp hparse
  exact (conclude_eq_ok hconclude).2.2 hverbosity

section Told

variable (hquiet : invocation.quiet = false) (hverbosity : invocation.verbosity = 1)
  (hreal : request.dryRun = false)

include hquiet hverbosity hreal

theorem stderr_ofInvocation (stdout : String) (events : List Event) (problem : Option Problem) :
    (Conclusion.ofInvocation invocation invocation.filter stdout (request.records events)
        problem).stderr =
      startLine request.provider.name ++
        String.join ((events.filter Event.isTold).map (eventLine request.provider.name)) ++
          match problem with
          | none => successLine
          | some problem => problem.plain true := by
  have hstart : Log.render infoFilter [startRecord invocation] = "" :=
    render_of_debug (List.forall_mem_singleton.mpr rfl)
  unfold Conclusion.ofInvocation
  rw [filter_eq_infoFilter hquiet hverbosity]
  cases problem with
  | none =>
    simp only
    rw [Log.render_append, Log.render_cons, hstart, String.empty_append, render_records hreal,
      render_successRecord]
  | some problem =>
    have hproblem : Log.render infoFilter (problemRecords problem) = "" := by
      refine render_of_debug fun record hrecord => ?_
      rcases List.mem_cons.mp hrecord with rfl | hcause
      · rfl
      · obtain ⟨cause, -, rfl⟩ := List.mem_map.mp hcause
        rfl
    simp only
    rw [Log.render_append, Log.render_cons, hstart, String.empty_append, render_records hreal,
      hproblem, String.append_empty, hverbosity]
    rfl

theorem stderr_ofAnswer (console : Console) (events : List Event)
    (answer : Except Failure Report) :
    let conclusion :=
      Conclusion.ofAnswer invocation invocation.filter console request events answer
    conclusion.stderr = startLine request.provider.name ++
      String.join ((events.filter Event.isTold).map (eventLine request.provider.name)) ++
        match conclusion.ending with
        | .failed problem => problem.plain true
        | _ => successLine := by
  intro conclusion
  have hstderr := stderr_ofInvocation hquiet hverbosity hreal
  unfold conclusion Conclusion.ofAnswer
  cases answer with
  | error failure => exact hstderr "" events (some (.unmade failure))
  | ok report =>
    simp only [hstderr]
    cases (console.show invocation report).2 <;> rfl

end Told

/-- A real run that is asked to tell one degree more, and by no filter anything else, announces the
provider, has a line for each event that is told, and ends with its success or its problem.  The
events tell of the files what the report does, in the order of the layout, and then count its
entries.  If the script stops at a site, they tell of the files before it only.  A file has the
text that was written, so it has as many bytes as its event says. -/
theorem logged_run (hparses : Parses words environment disk loaded invocation)
    (hrequest : invocation.request = .ok request) (hreal : invocation.dryRun = false)
    (hverbosity : invocation.verbosity = 1) (hunset : environment.text? filterVariable = none)
    (hunassigned : assignedInFile? environment disk filterVariable = none) (console : Console) :
    let provider := request.provider
    let sites := provider.sites Request.outputRoot
    let around := Disk.surroundings request.templates
    let run := request.script.exec around disk
    let outcome := Command.run words environment console disk
    outcome.1.stderr =
        startLine provider.name ++
          String.join ((Act.told run.acts).map (eventLine provider.name)) ++
          (match outcome.1.ending with
          | .failed problem => problem.plain true
          | _ => successLine) ∧
      (∀ report, run.answer = .ok report → ∃ events,
        Act.told run.acts =
            events ++ [.completed (report.count .created) (report.count .alreadyExists)] ∧
          Chronicle provider sites run.acts report.entries events ∧
          report.count .created + report.count .alreadyExists = 7) ∧
      (∀ failure, run.answer = .error failure →
        outcome.1.ending = .failed (.unmade failure) ∧
        ∃ before site after first last entries reached,
          sites = before ++ site :: after ∧ run.acts = first ++ last ∧
            Script.Visit around provider site reached last (.error failure) outcome.2 ∧
            Chronicle provider before first entries (Act.told run.acts) ∧
            ∀ created skipped, .completed created skipped ∉ Act.told run.acts) ∧
      ∀ path text, .write path text (.ok ()) ∈ run.acts →
        outcome.2.read path = .ok (Text.encode text) ∧
          text.utf8ByteSize = (Text.encode text).length := by
  intro provider sites around run outcome
  have hdry : request.dryRun = false := (dryRun_of_request hrequest).trans hreal
  have hquiet := Arguments.quiet_of_parse hparses.parse_eq (hverbosity ▸ Nat.one_pos)
  have hunset : loaded.text? filterVariable = none := by
    rw [text?_of_loadEnvironment isName_filterVariable hparses.load_eq, hunset, hunassigned,
      Option.none_or]
  have hinvokes := hparses.invokes_of_unset hunset
  have hscript : run = (Script.scaffold provider Request.outputRoot).exec around disk := by
    unfold run
    rw [script_of_not_dryRun hdry]
  obtain ⟨filter, hfilter, hrun⟩ := hinvokes.run_of_request hrequest
  cases hfilter.symm.trans (chooseFilter_of_unset hunset)
  have houtcome : outcome = _ := hrun console
  obtain ⟨hreport, hstop⟩ :=
    Script.chronicle_scaffold around provider Request.outputRoot disk
  have hread := Script.read_scaffold request.templates provider Request.outputRoot disk
  rw [← hscript] at hreport hstop hread
  refine ⟨?_, hreport, ?_, ?_⟩
  · rw [houtcome]
    exact stderr_ofAnswer hquiet hverbosity hdry console _ _
  · intro failure hanswer
    obtain ⟨hstate, ⟨report, hother, -⟩ | ⟨other, hother, hending⟩⟩ :=
      hinvokes.ending_of_request hrequest console
    · cases hanswer.symm.trans hother
    · cases hanswer.symm.trans hother
      refine ⟨hending, ?_⟩
      rw [show outcome.2 = run.state from hstate]
      exact hstop failure hanswer
  · intro path text hwrite
    rw [houtcome]
    exact ⟨hread path text hwrite, Text.utf8ByteSize_eq text⟩

/-- A run that finds its header in place tells that it does, and stops at the template of the
source, which is not there. -/
theorem logged_run_without_source :
    let words := [Text.encode "-v", Text.encode "--biqt-home=/biqt", Text.encode "X"]
    let home := [Text.encode "X"]
    let disk : Disk := ⟨[(home, .directory), (home ++ [Text.encode "X.h"], .file [])], []⟩
    let conclusion := (run words .empty ⟨none⟩ disk).1
    conclusion.ending.exitCode = 3 ∧ ∃ problem, conclusion.ending = .failed problem ∧
      conclusion.stderr =
        startLine "X" ++ eventLine "X" (.fileSkipped (.ofText "X/X.h")) ++ problem.plain true := by
  intro words home disk conclusion
  let invocation : Invocation := ⟨some "X", some "/biqt", false, false, false, 1, .auto⟩
  let request : Request := ⟨.ofText "/biqt", ⟨"X", by decide, by simp [isNameCharacter]⟩, false⟩
  let acts := (request.script.exec (Disk.surroundings request.templates) disk).acts
  have hparses : Parses words .empty disk .empty invocation :=
    ⟨by decide +kernel, by decide +kernel⟩
  have hrequest : invocation.request = .ok request := rfl
  have htold : Act.told acts = [.fileSkipped (.ofText "X/X.h")] := by decide +kernel
  have hcode : conclusion.ending.exitCode = 3 := by decide +kernel
  obtain ⟨hstderr, -⟩ := logged_run hparses hrequest rfl rfl rfl rfl ⟨none⟩
  refine ⟨hcode, ?_⟩
  cases hending : conclusion.ending with
  | failed problem =>
    refine ⟨problem, rfl, hstderr.trans ?_⟩
    rw [show Act.told _ = _ from htold,
      show (run words .empty ⟨none⟩ disk).1.ending = _ from hending]
    rfl
  | help | version | success | misuse | crashed =>
    rw [hending] at hcode
    cases hcode

end Command

end Scaffolding
