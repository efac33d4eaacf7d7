import Scaffolding.Proofs.Report.Encoding
import Scaffolding.Report.Reader

/-!
# Reports keep everything in their texts

A report whose paths are text has a text in every style.  All its texts
spell one JSON value, which is spelled by no text of another report, and
from each of them the report can be read back.

* `Report.encode?` is the text of a report in a style.
* `isSome_encode?_iff` says which reports have one, and `read?_of_encode?`
  that they are read back.
* `encode_report` is the result.
-/

namespace Scaffolding

namespace Report

variable {report other : Report} {value : Json} {style style' : Json.Style} {text : String}

/-- The text of a report in a style, if the report has a JSON value. -/
def encode? (style : Json.Style) (report : Report) : Option String :=
  report.json?.map (Json.write style)

/-- That all paths of a report are text. -/
def IsText (report : Report) : Prop :=
  report.home.IsText ∧ ∀ entry ∈ report.entries, entry.path.IsText

theorem isSome_encode?_iff : (report.encode? style).isSome = true ↔ report.IsText := by
  unfold encode?
  rw [Option.isSome_map, isSome_json?_iff]
  rfl

theorem spells_of_encode? (hvalue : report.json? = some value)
    (htext : report.encode? style = some text) : value.Spells text := by
  unfold encode? at htext
  rw [hvalue] at htext
  cases htext
  exact Json.spells_write style value

theorem read?_of_encode? (htext : report.encode? style = some text) :
    read? text = some report := by
  obtain ⟨value, hvalue, -⟩ := Option.map_eq_some_iff.mp htext
  exact read?_of_spells hvalue (spells_of_encode? hvalue htext)

/-- Reports with one text, whatever its style for each of them, are one report. -/
theorem eq_of_encode? (htext : report.encode? style = some text)
    (hother : other.encode? style' = some text) : report = other :=
  Option.some.inj ((read?_of_encode? htext).symm.trans (read?_of_encode? hother))

/-- A report whose paths are text has a text in each style.  They all spell one value and no other,
are read as that value, and give the report back.  A report with a path that is no text has a text
in no style.  No two reports have a text in common. -/
theorem encode_report (report : Report) :
    (report.IsText → ∃ value, ∀ style, ∃ text, report.encode? style = some text ∧
      value.Spells text ∧ (∀ another : Json, another.Spells text → another = value) ∧
      Json.read? text = some value ∧ read? text = some report) ∧
    (¬ report.IsText → ∀ style, report.encode? style = none) ∧
    (∀ other style style' text, report.encode? style = some text →
      other.encode? style' = some text → report = other) := by
  refine ⟨?_, ?_, fun _ _ _ _ => eq_of_encode?⟩
  · intro hpaths
    obtain ⟨value, hvalue⟩ := Option.isSome_iff_exists.mp (isSome_json?_iff.mpr hpaths)
    refine ⟨value, fun style => ?_⟩
    have htext : report.encode? style = some (value.write style) := by
      unfold encode?
      rw [hvalue, Option.map_some]
    have hspells := spells_of_encode? hvalue htext
    exact ⟨_, htext, hspells, fun _ hother => hother.unique hspells, Json.read?_of_spells hspells,
      read?_of_encode? htext⟩
  · intro hpaths style
    rw [← Option.not_isSome_iff_eq_none, isSome_encode?_iff]
    exact hpaths

/-- A report with a quote, a backslash, control characters and letters beyond ASCII in its paths is
read back from its text, and one with a byte that is no text has none. -/
theorem encode_report_with_escapes :
    let report : Report := ⟨Script.shortNamed, .ofText "a\"b\\c\n\x01",
      [⟨.ofText "é\t☃", .directory, .created⟩, ⟨.ofText "\x7f😀", .file, .alreadyExists⟩]⟩
    let other : Report := ⟨Script.shortNamed, ⟨[0xFF]⟩, []⟩
    (∃ text, report.encode? .compact = some text ∧ read? text = some report) ∧
      other.encode? .pretty = none := by
  intro report other
  have hpaths : report.IsText :=
    ⟨⟨_, rfl⟩, List.forall_mem_cons.mpr ⟨⟨_, rfl⟩, List.forall_mem_cons.mpr
      ⟨⟨_, rfl⟩, List.forall_mem_nil _⟩⟩⟩
  have hother : ¬ other.IsText := by
    rintro ⟨hhome, -⟩
    exact absurd (Path.isText_iff.mp hhome) (by decide +kernel)
  obtain ⟨htexts, -, -⟩ := encode_report report
  obtain ⟨value, hvalue⟩ := htexts hpaths
  obtain ⟨text, htext, -, -, -, hread⟩ := hvalue .compact
  obtain ⟨-, hnone, -⟩ := encode_report other
  exact ⟨⟨text, htext, hread⟩, hnone hother .pretty⟩

end Report

end Scaffolding
