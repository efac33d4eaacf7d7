import Scaffolding.Proofs.Provider.Layout
import Scaffolding.Report.Json

/-!
# Reports that have a JSON value

A JSON string is text, so a report has a JSON value if its paths are text.
The paths of a provider are, whatever its name, as long as the output root
is text.

* `IsText.child` goes on from one path to another, and
  `isText_of_mem_sites` takes it to the paths of a provider.
* `isSome_json?_iff` says which reports have a JSON value.
-/

namespace Scaffolding

namespace Path

/-- That a path is spelled by a text. -/
def IsText (path : Path) : Prop := ∃ text, path = .ofText text

theorem isText_iff {path : Path} : path.IsText ↔ (Text.decode? path.bytes).isSome = true := by
  rw [Option.isSome_iff_exists]
  constructor
  · rintro ⟨text, rfl⟩
    exact ⟨text, Text.decode?_encode text⟩
  · rintro ⟨text, hdecode⟩
    exact ⟨text, congrArg Path.mk (Text.decode?_eq_some_iff.mp hdecode)⟩

theorem IsText.child {left : Path} (hleft : left.IsText) (text : String) :
    (left.child text).IsText := by
  obtain ⟨spelling, rfl⟩ := hleft
  unfold Path.child join
  split
  · exact ⟨text, rfl⟩
  · split
    · exact ⟨spelling ++ text, congrArg Path.mk (Text.encode_append spelling text).symm⟩
    · have hslash : Text.encode "/" = [slash] := by decide
      refine ⟨spelling ++ ("/" ++ text), congrArg Path.mk ?_⟩
      rw [Text.encode_append, Text.encode_append, hslash]
      rfl

end Path

theorem Provider.isText_of_mem_sites {provider : Provider} {root : Path} {site : Site}
    (hroot : root.IsText) (hsite : site ∈ provider.sites root) : site.path.IsText := by
  have hpath := List.mem_map_of_mem (f := Site.path) hsite
  rw [map_path_sites] at hpath
  rcases List.mem_cons.mp hpath with hhome | hchild
  · rw [hhome]
    exact hroot.child provider.name
  · obtain ⟨text, -, hchild⟩ := List.mem_map.mp hchild
    rw [← hchild]
    exact (hroot.child provider.name).child text

namespace Report

theorem isSome_mapM_iff {α β : Type} {change : α → Option β} {values : List α} :
    (values.mapM change).isSome = true ↔ ∀ value ∈ values, (change value).isSome = true := by
  induction values with
  | nil => simp
  | cons value rest ih =>
    rw [List.mapM_cons, List.forall_mem_cons, ← ih]
    cases change value with
    | none => simp
    | some changed => cases rest.mapM change <;> simp

/-- A report has a JSON value exactly if all its paths are text. -/
theorem isSome_json?_iff {report : Report} :
    report.json?.isSome = true ↔
      report.home.IsText ∧ ∀ entry ∈ report.entries, entry.path.IsText := by
  have hentry : ∀ entry : Entry, entry.json?.isSome = true ↔ entry.path.IsText := by
    intro entry
    rw [Path.isText_iff, Entry.json?, Option.isSome_map]
  simp only [← hentry, ← isSome_mapM_iff, Path.isText_iff]
  unfold json?
  cases Text.decode? report.home.bytes with
  | none => simp
  | some home => cases report.entries.mapM Entry.json? <;> simp

end Report

end Scaffolding
