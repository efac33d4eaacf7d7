import Scaffolding.Json.Reader
import Scaffolding.Report.Json
import Scaffolding.Text.Utf8.RoundTrip

/-!
# Reading reports

A report is read back from its JSON value: the fields stand in the order in which they are written,
and each word stands for one kind or one outcome.

- `Report.read?` reads a report from a text;
- `ofJson?_of_json?` and `read?_of_spells` say that a report is read back as it was, from its value
  and from any text that spells that value.
-/

namespace Scaffolding

namespace Report

/-- The kind that a word stands for. -/
def Kind.ofWord? (word : String) : Option Kind :=
  [Kind.directory, .file].find? fun kind => kind.word = word

/-- The outcome that a word stands for. -/
def Outcome.ofWord? (word : String) : Option Outcome :=
  [Outcome.created, .alreadyExists, .wouldCreate].find? fun outcome => outcome.word = word

/-- The entry that a JSON value tells of. -/
def Entry.ofJson? : Json → Option Entry
  | .object [("path", .string path), ("kind", .string kind), ("outcome", .string outcome)] => do
    return ⟨.ofText path, ← Kind.ofWord? kind, ← Outcome.ofWord? outcome⟩
  | _ => none

/-- The report that a JSON value tells of. -/
def ofJson? : Json → Option Report
  | .object [("provider", .string name), ("root", .string home), ("entries", .array entries)] => do
    let provider ← (Provider.parse name).toOption
    return ⟨provider, .ofText home, ← entries.mapM Entry.ofJson?⟩
  | _ => none

/-- The report that a text tells of. -/
def read? (text : String) : Option Report :=
  (Json.read? text).bind ofJson?

/-- The word for a kind stands for that kind. -/
theorem Kind.ofWord?_word (kind : Kind) : Kind.ofWord? kind.word = some kind := by
  cases kind <;> decide

/-- The word for an outcome stands for that outcome. -/
theorem Outcome.ofWord?_word (outcome : Outcome) :
    Outcome.ofWord? outcome.word = some outcome := by
  cases outcome <;> decide

/-- The path that a text spells is the path whose text it is. -/
theorem ofText_of_decode? {path : Path} {text : String}
    (htext : Text.decode? path.bytes = some text) : Path.ofText text = path := by
  rw [Path.ofText, ← Text.decode?_eq_some_iff.mp htext]

/-- An entry is read back from its value. -/
theorem Entry.ofJson?_of_json? {entry : Entry} {value : Json}
    (hvalue : entry.json? = some value) : Entry.ofJson? value = some entry := by
  obtain ⟨path, hpath, rfl⟩ := Option.map_eq_some_iff.mp hvalue
  simp [Entry.ofJson?, Kind.ofWord?_word, Outcome.ofWord?_word, ofText_of_decode? hpath]

/-- A list of entries is read back from its values. -/
theorem mapM_ofJson?_of_json? {entries : List Entry} {values : List Json}
    (hvalues : entries.mapM Entry.json? = some values) :
    values.mapM Entry.ofJson? = some entries := by
  induction entries generalizing values with
  | nil => simp_all
  | cons entry entries ih =>
    simp only [List.mapM_cons, Option.bind_eq_bind, Option.bind_eq_some_iff,
      Option.pure_def, Option.some.injEq] at hvalues
    obtain ⟨value, hvalue, values, hvalues, rfl⟩ := hvalues
    simp [Entry.ofJson?_of_json? hvalue, ih hvalues]

/-- A report is read back from its value. -/
theorem ofJson?_of_json? {report : Report} {value : Json} (hvalue : report.json? = some value) :
    ofJson? value = some report := by
  simp only [json?, Option.bind_eq_bind, Option.bind_eq_some_iff, Option.pure_def,
    Option.some.injEq] at hvalue
  obtain ⟨home, hhome, entries, hentries, rfl⟩ := hvalue
  simp [ofJson?, Provider.parse_name, Except.toOption, ofText_of_decode? hhome,
    mapM_ofJson?_of_json? hentries]

/-- A report is read back from any text that spells its value. -/
theorem read?_of_spells {report : Report} {value : Json} {text : String}
    (hvalue : report.json? = some value) (hspells : value.Spells text) :
    read? text = some report := by
  rw [read?, Json.read?_of_spells hspells]
  exact ofJson?_of_json? hvalue

end Report

end Scaffolding
