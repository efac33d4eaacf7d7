import Scaffolding.Proofs.Command.ExitCode
import Scaffolding.Proofs.Disk.Breaking

/-!
# Templates that are not there

A template is unavailable if nothing is at its path and nothing is in the
way.  If something is in the way, there is no template either, but it is
called unreadable, as if it were there.

* `loadTemplate_eq_ok_iff`, `unavailable_iff` and `unreadable_iff` are the
  three answers of a disk that is asked for a template.
* `loadTemplate_of_getLast?` says of which disk a scaffold asked last.
* `classified_template` is the result, and `unreadable_on_blocked` is a
  template that is neither there nor called unavailable.
-/

namespace Scaffolding

namespace Disk

variable {disk : Disk} {templates : Path} {template : Template}

/-! ## Three answers -/

/-- A template is there, or is no text, or is not read because of a fault. -/
theorem loadTemplate_cases (disk : Disk) (templates : Path) (template : Template) :
    let path := Installation.templateFile templates template
    (∃ text, disk.read path = .ok (Text.encode text) ∧
        disk.loadTemplate templates template = .ok text) ∨
      (∃ content reason, disk.read path = .ok content ∧ (∀ text, content ≠ Text.encode text) ∧
        disk.loadTemplate templates template =
          .error (.templateUnreadable template.fileName path reason)) ∨
      (∃ reason, disk.read path = .error .noEntry ∧ disk.loadTemplate templates template =
        .error (.templateUnavailable template.fileName path reason)) ∨
      ∃ fault reason, disk.read path = .error fault ∧ fault ≠ .noEntry ∧
        disk.loadTemplate templates template =
          .error (.templateUnreadable template.fileName path reason) := by
  intro path
  unfold loadTemplate templateAnswer textAnswer
  cases hread : disk.read path with
  | error fault =>
    simp only
    by_cases hfault : fault = .noEntry
    · subst hfault
      exact .inr (.inr (.inl ⟨_, rfl, if_pos rfl⟩))
    · exact .inr (.inr (.inr ⟨fault, _, rfl, hfault, if_neg hfault⟩))
  | ok content =>
    simp only
    cases htext : Text.decode? content with
    | some text =>
      obtain rfl := Text.decode?_eq_some_iff.mp htext
      exact .inl ⟨text, rfl, rfl⟩
    | none =>
      refine .inr (.inl ⟨content, _, rfl, ?_, if_neg (by decide)⟩)
      rintro text rfl
      rw [Text.decode?_encode] at htext
      cases htext

theorem loadTemplate_eq_ok_iff {text : String} :
    disk.loadTemplate templates template = .ok text ↔
      disk.HasFile (Installation.templateFile templates template) (Text.encode text) := by
  obtain ⟨hread, -⟩ := @read_eq_iff disk (Installation.templateFile templates template)
  rw [← hread]
  rcases disk.loadTemplate_cases templates template with
    ⟨other, hread, hload⟩ | ⟨content, _, hread, hother, hload⟩ | ⟨_, hread, hload⟩ |
      ⟨_, _, hread, -, hload⟩
  · rw [hread, hload]
    constructor
    · rintro ⟨⟩
      rfl
    · intro hsame
      rw [Text.encode_injective (Except.ok.inj hsame)]
  · rw [hread, hload]
    exact iff_of_false nofun fun hsame => hother text (Except.ok.inj hsame)
  · rw [hread, hload]
    exact iff_of_false nofun nofun
  · rw [hread, hload]
    exact iff_of_false nofun nofun

/-- A template is unavailable exactly if nothing is found at its path and nothing is in the way. -/
theorem unavailable_iff :
    let path := Installation.templateFile templates template
    (∃ reason, disk.loadTemplate templates template =
        .error (.templateUnavailable template.fileName path reason)) ↔
      disk.isPresent path = false ∧ ¬ disk.IsBarred path := by
  intro path
  obtain ⟨-, hread⟩ := @read_eq_iff disk path
  rw [← hread]
  rcases disk.loadTemplate_cases templates template with
    ⟨other, hread, hload⟩ | ⟨content, _, hread, hother, hload⟩ | ⟨reason, hread, hload⟩ |
      ⟨fault, _, hread, hfault, hload⟩
  · rw [hload, hread]
    exact iff_of_false nofun nofun
  · rw [hload, hread]
    exact iff_of_false nofun nofun
  · exact iff_of_true ⟨reason, hload⟩ hread
  · rw [hload, hread]
    exact iff_of_false nofun fun hsame => hfault (Except.error.inj hsame)

theorem isPresent_of_hasFile {path : Path} {content : Bytes} (hfile : disk.HasFile path content) :
    disk.isPresent path = true := by
  obtain ⟨location, hlocate⟩ := hfile
  exact isPresent_eq_true_iff.mpr ⟨location, _, hlocate⟩

theorem isPresent_eq_false_of_isBarred {path : Path} (hbarred : disk.IsBarred path) :
    disk.isPresent path = false := by
  obtain ⟨fault, -, hlocate⟩ := isBarred_iff.mp hbarred
  unfold isPresent
  rw [hlocate]

/-- A template is unreadable exactly if there is something at its path that is no text file, or
something in the way. -/
theorem unreadable_iff :
    let path := Installation.templateFile templates template
    (∃ reason, disk.loadTemplate templates template =
        .error (.templateUnreadable template.fileName path reason)) ↔
      (disk.isPresent path = true ∧ ∀ text, ¬ disk.HasFile path (Text.encode text)) ∨
        disk.IsBarred path := by
  intro path
  obtain ⟨hfile, hlacking⟩ := @read_eq_iff disk path
  rcases disk.loadTemplate_cases templates template with
    ⟨text, hread, hload⟩ | ⟨content, reason, hread, hother, hload⟩ | ⟨_, hread, hload⟩ |
      ⟨fault, reason, hread, hfault, hload⟩
  · have hthere := (hfile _).mp hread
    rw [hload]
    refine iff_of_false nofun ?_
    rintro (⟨-, hnone⟩ | hbarred)
    · exact hnone text hthere
    · have hmissing := isPresent_eq_false_of_isBarred hbarred
      rw [isPresent_of_hasFile hthere] at hmissing
      cases hmissing
  · refine iff_of_true ⟨reason, hload⟩ (.inl ⟨isPresent_of_hasFile ((hfile _).mp hread), ?_⟩)
    intro text hsame
    exact hother text (Except.ok.inj (hread.symm.trans ((hfile _).mpr hsame)))
  · obtain ⟨hmissing, hfree⟩ := hlacking.mp hread
    rw [hload]
    refine iff_of_false nofun ?_
    rintro (⟨hpresent, -⟩ | hbarred)
    · rw [hmissing] at hpresent
      cases hpresent
    · exact hfree hbarred
  · refine iff_of_true ⟨reason, hload⟩ ?_
    cases hpresent : disk.isPresent path with
    | true =>
      refine .inl ⟨rfl, fun text hsame => ?_⟩
      cases hread.symm.trans ((hfile _).mpr hsame)
    | false =>
      right
      by_contra hfree
      exact hfault (Except.error.inj (hread.symm.trans (hlacking.mpr ⟨hpresent, hfree⟩)))

end Disk

/-! ## Scaffolds that stop at a template -/

namespace Script

/-- A scaffold that asked for a template last got the answer that the disk gives which it leaves. -/
theorem loadTemplate_of_getLast? {templates root : Path} {provider : Provider} {disk : Disk}
    {template : Template} {failure : Failure} :
    let run := (scaffold provider root).exec (Disk.surroundings templates) disk
    run.acts.getLast? = some (.load template (.error failure)) →
      run.answer = .error failure ∧ run.state.loadTemplate templates template = .error failure := by
  intro run hlast
  obtain ⟨acts, result, disk', htour, hexec⟩ :=
    @exec_scaffold _ (Disk.surroundings templates) provider root disk
  have hrun : run = _ := hexec
  rw [hrun] at hlast ⊢
  cases result with
  | ok entries =>
    rw [List.getLast?_concat] at hlast
    cases hlast
  | error other =>
    obtain ⟨before, site, after, first, last, entries, middle, -, rfl, -, hstop⟩ :=
      htour.exists_stop
    simp only [List.getLast?_append] at hlast
    cases hstop with
    | directoryRefused | fileRefused => cases hlast
    | templateRefused hlook hload =>
      cases hlast
      obtain ⟨-, rfl⟩ := Prod.mk.inj hlook
      obtain ⟨hanswer, rfl⟩ := Prod.mk.inj hload
      exact ⟨rfl, hanswer⟩

end Script

namespace Disk

variable {disk : Disk} {templates : Path} {template : Template} {failure : Failure}

/-- A template that fails is blamed on the user's installation exactly if it is unavailable. -/
theorem category_of_loadTemplate (hload : disk.loadTemplate templates template = .error failure) :
    let path := Installation.templateFile templates template
    failure.category = .notFound ↔ disk.isPresent path = false ∧ ¬ disk.IsBarred path := by
  refine Iff.trans ?_ unavailable_iff
  constructor
  · intro hcategory
    rcases disk.loadTemplate_cases templates template with
      ⟨_, -, hother⟩ | ⟨_, _, -, -, hother⟩ | ⟨reason, -, hother⟩ | ⟨_, _, -, -, hother⟩
    · cases hload.symm.trans hother
    · cases hload.symm.trans hother
      cases hcategory
    · cases hload.symm.trans hother
      exact ⟨reason, hother⟩
    · cases hload.symm.trans hother
      cases hcategory
  · intro hunavailable
    obtain ⟨reason, hsame⟩ := hunavailable
    cases hload.symm.trans hsame
    rfl

end Disk

namespace Command

variable {words : List Bytes} {environment loaded : Environment} {console : Console}
  {disk : Disk} {invocation : Invocation} {request : Request}

/-- The exit code is 3 exactly if the run stopped at a template, and nothing is at its path and
nothing is in the way. -/
theorem Invokes.exitCode_eq_three_iff
    (hinvokes : Invokes words environment disk loaded invocation)
    (hrequest : invocation.request = .ok request) (hdry : invocation.dryRun = false)
    (hconsole : console.fault = none) :
    let acts := (request.script.exec (Disk.surroundings request.templates) disk).acts
    let outcome := run words environment console disk
    outcome.1.ending.exitCode = 3 ↔
      ∃ template failure, acts.getLast? = some (.load template (.error failure)) ∧
        let path := Installation.templateFile request.templates template
        outcome.2.isPresent path = false ∧ ¬ outcome.2.IsBarred path := by
  intro acts outcome
  have hends := hinvokes.ends hrequest hdry console
  have hscript := script_of_not_dryRun ((dryRun_of_request hrequest).trans hdry)
  obtain ⟨hstate, hending⟩ := hinvokes.ending_of_request hrequest console
  have hlast : ∀ template failure, acts.getLast? = some (.load template (.error failure)) →
      outcome.1.ending = .failed (.unmade failure) ∧
        outcome.2.loadTemplate request.templates template = .error failure := by
    intro template failure hload
    have hload : (request.script.exec (Disk.surroundings request.templates) disk).acts.getLast? =
      some (.load template (.error failure)) := hload
    rw [hscript] at hload
    obtain ⟨hanswer, htemplate⟩ := Script.loadTemplate_of_getLast? hload
    rw [← hscript] at hanswer htemplate
    rcases hending with ⟨_, hreport, -⟩ | ⟨failure', hfailed, hfailure⟩
    · cases hanswer.symm.trans hreport
    · cases hanswer.symm.trans hfailed
      exact ⟨hfailure, by rw [← htemplate, ← hstate]⟩
  constructor
  · intro hcode
    obtain ⟨template, ⟨file, source, reason, hload⟩, -⟩ :=
      (hends.exitCode_eq_three_iff hconsole).mp hcode
    obtain ⟨-, htemplate⟩ := hlast _ _ hload
    exact ⟨template, _, hload, (Disk.category_of_loadTemplate htemplate).mp rfl⟩
  · rintro ⟨template, failure, hload, hmissing⟩
    obtain ⟨hfailed, htemplate⟩ := hlast _ _ hload
    have hcategory := (Disk.category_of_loadTemplate htemplate).mpr hmissing
    rw [hfailed]
    unfold Ending.exitCode Problem.exitCode Problem.category
    simp only [hcategory]
    rfl

/-- A template is answered with its text if it is there, and else it is called unavailable exactly
if nothing is found at its path and nothing is in the way, and unreadable in all other cases.  So
the answer tells whether anything is there exactly if nothing is in the way.  A scaffold that stops
at a template blames what is missing, and a run ends with the code for that, exactly if nothing is
found at its path and nothing is in the way. -/
theorem classified_template (disk : Disk) (templates : Path) (template : Template) :
    let path := Installation.templateFile templates template
    let answer := disk.loadTemplate templates template
    let isUnavailable :=
      ∃ reason, answer = .error (.templateUnavailable template.fileName path reason)
    let isUnreadable :=
      ∃ reason, answer = .error (.templateUnreadable template.fileName path reason)
    let isNoText := disk.isPresent path = true ∧ ∀ text, ¬ disk.HasFile path (Text.encode text)
    ((∀ text, answer = .ok text ↔ disk.HasFile path (Text.encode text)) ∧
      (isUnavailable ↔ disk.isPresent path = false ∧ ¬ disk.IsBarred path) ∧
      (isUnreadable ↔ isNoText ∨ disk.IsBarred path) ∧
      ((isUnavailable ↔ disk.isPresent path = false) ∧ (isUnreadable ↔ isNoText) ↔
        ¬ disk.IsBarred path)) ∧
    (∀ provider root failure,
      let run := (Script.scaffold provider root).exec (Disk.surroundings templates) disk
      run.acts.getLast? = some (.load template (.error failure)) →
      run.answer = .error failure ∧
        (failure.category = .notFound ↔
          run.state.isPresent path = false ∧ ¬ run.state.IsBarred path)) ∧
    ∀ words environment loaded invocation request console,
      Invokes words environment disk loaded invocation → invocation.request = .ok request →
      invocation.dryRun = false → console.fault = none →
      let acts := (request.script.exec (Disk.surroundings request.templates) disk).acts
      let outcome := run words environment console disk
      outcome.1.ending.exitCode = 3 ↔
        ∃ template failure, acts.getLast? = some (.load template (.error failure)) ∧
          let path := Installation.templateFile request.templates template
          outcome.2.isPresent path = false ∧ ¬ outcome.2.IsBarred path := by
  intro path answer isUnavailable isUnreadable isNoText
  have hunavailable : isUnavailable ↔ disk.isPresent path = false ∧ ¬ disk.IsBarred path :=
    Disk.unavailable_iff
  have hunreadable : isUnreadable ↔ isNoText ∨ disk.IsBarred path := Disk.unreadable_iff
  refine ⟨⟨fun text => Disk.loadTemplate_eq_ok_iff, hunavailable, hunreadable, ?_⟩, ?_, ?_⟩
  · rw [hunavailable, hunreadable]
    constructor
    · rintro ⟨hmissing, -⟩ hbarred
      exact (hmissing.mpr (Disk.isPresent_eq_false_of_isBarred hbarred)).2 hbarred
    · intro hfree
      exact ⟨and_iff_left hfree, or_iff_left hfree⟩
  · intro provider root failure run hlast
    obtain ⟨hanswer, hload⟩ := Script.loadTemplate_of_getLast? hlast
    exact ⟨hanswer, Disk.category_of_loadTemplate hload⟩
  · intro words environment loaded invocation request console hinvokes hrequest hdry hconsole
    exact hinvokes.exitCode_eq_three_iff hrequest hdry hconsole

/-- On a disk with nothing but a working directory a run stops at a template that is not there, and
nothing is in the way. -/
theorem classified_template_missing :
    let words := [Text.encode "--biqt-home=/biqt", Text.encode "X"]
    let outcome := run words .empty ⟨none⟩ (.fresh [])
    outcome.1.ending.exitCode = 3 ∧ ∃ template,
      let path := Installation.templateFile (Installation.templates (.ofText "/biqt")) template
      outcome.2.isPresent path = false ∧ ¬ outcome.2.IsBarred path := by
  intro words outcome
  let invocation : Invocation := ⟨some "X", some "/biqt", false, false, false, 0, .auto⟩
  let request : Request := ⟨.ofText "/biqt", Script.shortNamed, false⟩
  have hinvokes : Invokes words .empty (.fresh []) .empty invocation :=
    ⟨⟨by decide +kernel, by decide +kernel⟩, _, rfl⟩
  have hrequest : invocation.request = .ok request := by decide +kernel
  have hcode : outcome.1.ending.exitCode = 3 := by decide +kernel
  obtain ⟨-, -, hruns⟩ := classified_template (.fresh []) request.templates .header
  obtain ⟨template, _, -, hmissing⟩ :=
    (hruns words .empty .empty invocation request ⟨none⟩ hinvokes hrequest rfl rfl).mp hcode
  exact ⟨hcode, template, hmissing⟩

/-- A working directory, and beside it an installation in which a file is in the way to the
templates. -/
def blocked : Disk where
  nodes :=
    [ ([Text.encode "work"], .directory),
      ([Text.encode "home"], .directory),
      ([Text.encode "home", Text.encode "scripts"], .file (Text.encode "file")) ]
  here := [Text.encode "work"]

/-- Nothing is found at the path of a template, and still it is called unreadable, and a run that
stops there ends with the code for internal failures. -/
theorem unreadable_on_blocked :
    let templates := Installation.templates (.ofText "../home")
    let words := [Text.encode "--biqt-home=../home", Text.encode "X"]
    blocked.isPresent (Installation.templateFile templates .header) = false ∧
      blocked.loadTemplate templates .header = .error (.templateUnreadable "Provider.h"
        (Installation.templateFile templates .header) "Not a directory (os error 20)") ∧
      (run words .empty ⟨none⟩ blocked).1.ending.exitCode = 1 := by
  decide +kernel

end Command

end Scaffolding
