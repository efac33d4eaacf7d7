import Scaffolding.Proofs.Report.Encoding
import Scaffolding.Proofs.Text.Colour
import Scaffolding.Report.Plain

/-!
# Plain texts keep what they tell

The lines of a report begin in ways that cannot be confused, and the words
in them hold no line end.  So the plain text gives back whose report it is,
whether the run was dry, and all entries in their order.

* `Text.between?_eq_some_iff` says what stands between two words.
* `Entry.IsLegible` says when the line of an entry shows all of it, and
  `Entry.ofLine?_line` that it is read back then.
* `readPlain?_plain` and `closingLines_plain` are about whole reports.
-/

namespace Scaffolding

namespace Text

variable {lead tail text middle other : String}

/-! ## Words and lines -/

theorem between?_eq_some_iff :
    between? lead tail text = some middle ↔ text = lead ++ middle ++ tail := by
  unfold between?
  rw [Option.map_eq_some_iff]
  constructor
  · rintro ⟨chars, hchars, rfl⟩
    obtain ⟨behind, hbehind, hchars⟩ := Option.bind_eq_some_iff.mp hchars
    obtain ⟨_, htext, hlead⟩ := List.dropPrefix?_eq_some_iff.mp hbehind
    obtain ⟨_, rfl, htail⟩ := List.dropSuffix?_eq_some_iff.mp hchars
    rw [beq_iff_eq] at hlead htail
    apply String.toList_inj.mp
    rw [htext, hlead, htail, String.toList_append, String.toList_append, String.toList_ofList,
      List.append_assoc]
  · rintro rfl
    refine ⟨middle.toList, Option.bind_eq_some_iff.mpr ⟨(middle ++ tail).toList, ?_, ?_⟩,
      String.ofList_toList⟩
    · apply List.dropPrefix?_eq_some_iff.mpr
      refine ⟨lead.toList, ?_, beq_self_eq_true _⟩
      rw [String.append_assoc, String.toList_append]
    · apply List.dropSuffix?_eq_some_iff.mpr
      exact ⟨tail.toList, String.toList_append, beq_self_eq_true _⟩

theorem between?_append (lead middle tail : String) :
    between? lead tail (lead ++ middle ++ tail) = some middle :=
  between?_eq_some_iff.mpr rfl

/-- A text does not begin with another word that is as long as the one it begins with. -/
theorem between?_eq_none (hlength : lead.length = other.length) (hne : lead ≠ other)
    (tail text : String) : between? lead tail (other ++ text) = none := by
  rw [Option.eq_none_iff_forall_ne_some]
  intro middle hmiddle
  have htext := congrArg String.toList (between?_eq_some_iff.mp hmiddle)
  rw [String.append_assoc, String.toList_append, String.toList_append] at htext
  have hlengths : other.toList.length = lead.toList.length := by
    rw [String.length_toList, String.length_toList, hlength]
  exact hne (String.toList_inj.mp (List.append_inj htext hlengths).1.symm)

/-- A text that is written line by line has these lines, and an empty one at its end. -/
theorem lines_join {texts : List String} (htexts : ∀ text ∈ texts, '\n' ∉ text.toList) :
    lines (String.join (texts.map (· ++ "\n"))) = texts ++ [""] := by
  induction texts with
  | nil => rfl
  | cons text rest ih =>
    obtain ⟨htext, hrest⟩ := List.forall_mem_cons.mp htexts
    have hline : lines text = [text] := by
      apply runs_of_forall
      intro c hmem
      exact beq_eq_false_iff_ne.mpr fun hbreak => htext (hbreak ▸ hmem)
    have hbreak : lines (text ++ String.singleton '\n' ++ String.join (rest.map (· ++ "\n"))) =
        lines text ++ lines (String.join (rest.map (· ++ "\n"))) :=
      runs_append_singleton_append rfl _ _
    rw [List.map_cons, String.join_cons]
    exact hbreak.trans (by rw [hline, ih hrest, List.singleton_append, List.cons_append])

theorem decodeLossy_encode (text : String) : decodeLossy (encode text) = text := by
  unfold decodeLossy encode
  rw [pieces_flatMap, List.map_map]
  exact (congrArg String.ofList (List.map_id text.toList)).trans String.ofList_toList

end Text

theorem Path.display_ofText (text : String) : (Path.ofText text).display = text :=
  Text.decodeLossy_encode text

theorem Path.IsText.ofText_display {path : Path} (htext : path.IsText) :
    Path.ofText path.display = path := by
  obtain ⟨text, rfl⟩ := htext
  rw [Path.display_ofText]

theorem blank_le_of_isNameCharacter {c : Char} (hname : isNameCharacter c = true) : ' ' ≤ c := by
  rcases isNameCharacter_iff.mp hname with ⟨hle, -⟩ | ⟨hle, -⟩ | ⟨hle, -⟩ | rfl | rfl
  · exact Char.le_trans (by decide) hle
  · exact Char.le_trans (by decide) hle
  · exact Char.le_trans (by decide) hle
  · decide
  · decide

theorem Provider.isPrinted_name (provider : Provider) : Text.IsPrinted provider.name :=
  fun c hc => blank_le_of_isNameCharacter (provider.isNameCharacter_of_mem c hc)

namespace Report

variable {entry : Entry} {report : Report} {dryRun : Bool}

/-! ## Lines of entries -/

/-- That the line of an entry shows all of it: its path is text, with no line end, and with no slash
at its end if that would make it look like a directory. -/
structure Entry.IsLegible (entry : Entry) : Prop where
  isText : entry.path.IsText
  no_break : '\n' ∉ entry.path.display.toList
  no_slash : entry.kind = .file → ∀ text, entry.path.display ≠ text ++ "/"

theorem Entry.ofLabel_label (hlegible : entry.IsLegible) :
    Entry.ofLabel entry.outcome entry.label = entry := by
  have hpath := hlegible.isText.ofText_display
  obtain ⟨path, kind, outcome⟩ := entry
  unfold Entry.ofLabel Entry.label
  cases kind with
  | directory =>
    have hslash : Text.between? "" "/" (path.display ++ "/") = some path.display :=
      Text.between?_eq_some_iff.mpr (by rw [String.empty_append])
    simp only [hslash, hpath]
  | file =>
    have hslash : Text.between? "" "/" path.display = none := by
      rw [Option.eq_none_iff_forall_ne_some]
      intro text htext
      apply hlegible.no_slash rfl text
      rw [Text.between?_eq_some_iff.mp htext, String.empty_append]
    simp only [hslash, hpath]

/-- The line of an entry is its label between a beginning and an end for its outcome. -/
theorem Entry.exists_frame (entry : Entry) :
    ∃ lead tail, (lead, tail, entry.outcome) ∈ frames ∧
      entry.line.plain = lead ++ entry.label ++ tail := by
  have hmade : "✓ " ++ "created       " = "✓ created       " := by decide
  have hforeseen : "ℹ " ++ "would create  " = "ℹ would create  " := by decide
  have hfound : "ℹ " ++ "exists        " = "ℹ exists        " := by decide
  have hskipped : "⚠ " ++ "skipped       " = "⚠ skipped       " := by decide
  obtain ⟨path, kind, outcome⟩ := entry
  cases outcome with
  | created =>
    refine ⟨"✓ created       ", "", by simp [frames], ?_⟩
    rw [String.append_empty, ← hmade, String.append_assoc]
    rfl
  | wouldCreate =>
    refine ⟨"ℹ would create  ", "", by simp [frames], ?_⟩
    rw [String.append_empty, ← hforeseen, String.append_assoc]
    rfl
  | alreadyExists =>
    cases kind with
    | directory =>
      refine ⟨"ℹ exists        ", "", by simp [frames], ?_⟩
      rw [String.append_empty, ← hfound, String.append_assoc]
      rfl
    | file =>
      refine ⟨"⚠ skipped       ", " (already exists)", by simp [frames], ?_⟩
      rw [← hskipped]
      simp only [Entry.line, Entry.label, Line.plain, String.append_assoc]

/-- A line with a known beginning and end is read as they say. -/
theorem findSome?_of_mem {known : List (String × String × Outcome)}
    (hapart : known.Pairwise fun frame other =>
      frame.1.length = other.1.length ∧ frame.1 ≠ other.1)
    {lead tail : String} {outcome : Outcome} (hmem : (lead, tail, outcome) ∈ known)
    (label : String) :
    (known.findSome? fun (lead', tail', outcome') =>
      (Text.between? lead' tail' (lead ++ label ++ tail)).map (Entry.ofLabel outcome')) =
        some (Entry.ofLabel outcome label) := by
  induction known with
  | nil => cases hmem
  | cons frame rest ih =>
    obtain ⟨hhere, hrest⟩ := List.pairwise_cons.mp hapart
    rw [List.findSome?_cons]
    rcases List.mem_cons.mp hmem with rfl | hmem
    · simp only [Text.between?_append, Option.map_some]
    · obtain ⟨hlength, hne⟩ := hhere _ hmem
      simp only [String.append_assoc, Text.between?_eq_none hlength hne, Option.map_none]
      rw [← String.append_assoc]
      exact ih hrest hmem

theorem pairwise_frames : frames.Pairwise fun frame other =>
    frame.1.length = other.1.length ∧ frame.1 ≠ other.1 := by
  decide

/-- A legible entry is read back from its line. -/
theorem Entry.ofLine?_line (hlegible : entry.IsLegible) :
    Entry.ofLine? entry.line.plain = some entry := by
  obtain ⟨lead, tail, hmem, hline⟩ := entry.exists_frame
  calc Entry.ofLine? entry.line.plain
      = Entry.ofLine? (lead ++ entry.label ++ tail) := by rw [hline]
    _ = some (Entry.ofLabel entry.outcome entry.label) :=
        findSome?_of_mem pairwise_frames hmem entry.label
    _ = some entry := by rw [Entry.ofLabel_label hlegible]

theorem Entry.line_ne_empty (entry : Entry) : entry.line.plain ≠ "" := by
  obtain ⟨lead, tail, hmem, hline⟩ := entry.exists_frame
  rw [hline]
  intro hempty
  obtain ⟨hfront, -⟩ := String.append_eq_empty_iff.mp hempty
  obtain ⟨rfl, -⟩ := String.append_eq_empty_iff.mp hfront
  simp [frames] at hmem

section Characters

variable {P : Char → Prop} (hprinted : ∀ c, ' ' ≤ c → P c)

include hprinted

/-- Apart from its path the line of an entry has no control characters. -/
theorem Entry.forall_mem_line (hpath : ∀ c ∈ entry.path.display.toList, P c) :
    ∀ c ∈ entry.line.plain.toList, P c := by
  obtain ⟨lead, tail, hmem, hline⟩ := entry.exists_frame
  have hframes : ∀ frame ∈ frames, Text.IsPrinted frame.1 ∧ Text.IsPrinted frame.2.1 := by
    decide
  have hlabel : ∀ c ∈ entry.label.toList, P c := by
    unfold Entry.label
    cases entry.kind with
    | directory =>
      rw [String.toList_append, List.forall_mem_append]
      exact ⟨hpath, by simpa using hprinted '/' (by decide)⟩
    | file => exact hpath
  obtain ⟨hlead, htail⟩ := hframes _ hmem
  rw [hline, String.toList_append, String.toList_append, List.forall_mem_append,
    List.forall_mem_append]
  exact ⟨⟨fun c hc => hprinted c (hlead c hc), hlabel⟩, fun c hc => hprinted c (htail c hc)⟩

/-- Apart from its paths a report has no control characters in its lines. -/
theorem forall_mem_lines (hhome : ∀ c ∈ report.home.display.toList, P c)
    (hentries : ∀ entry ∈ report.entries, ∀ c ∈ entry.path.display.toList, P c) (dryRun : Bool) :
    ∀ text ∈ (report.lines dryRun).map Line.plain, ∀ c ∈ text.toList, P c := by
  have hwords : ∀ {words : String}, Text.IsPrinted words → ∀ c ∈ words.toList, P c :=
    fun hword c hc => hprinted c (hword c hc)
  have hname := hwords report.provider.isPrinted_name
  have happend : ∀ {words others : String}, (∀ c ∈ words.toList, P c) →
      (∀ c ∈ others.toList, P c) → ∀ c ∈ (words ++ others).toList, P c := by
    intro words others hfirst hsecond
    rw [String.toList_append, List.forall_mem_append]
    exact ⟨hfirst, hsecond⟩
  have hheading : ∀ c ∈ (report.heading dryRun).plain.toList, P c := by
    refine happend (happend ?_ hname) (hwords (by decide))
    cases dryRun <;> exact hwords (by decide)
  have hclosings : ∀ line ∈ report.closing dryRun, ∀ c ∈ line.plain.toList, P c := by
    unfold closing
    split_ifs
    · exact List.forall_mem_singleton.mpr (hwords (by decide))
    · refine List.forall_mem_singleton.mpr (happend (hwords (by decide)) ?_)
      exact happend (happend (hwords (by decide)) hname) (hwords (by decide))
    · simp only [List.forall_mem_cons, Line.plain]
      refine ⟨?_, hwords (by decide), hwords (by decide), ?_, ?_, List.forall_mem_nil _⟩
      · refine happend (hwords (by decide)) (happend ?_ hhome)
        exact happend (happend (hwords (by decide)) hname) (hwords (by decide))
      · refine happend (happend (happend ?_ (hwords (by decide))) hname) (hwords (by decide))
        exact happend (hwords (by decide)) hname
      · exact happend (happend (hwords (by decide)) hname) (hwords (by decide))
  rw [List.forall_mem_map]
  intro line hline
  rcases List.mem_append.mp hline with hfirst | hlast
  · rcases List.mem_cons.mp hfirst with rfl | hentry
    · exact hheading
    · obtain ⟨entry, hmem, rfl⟩ := List.mem_map.mp hentry
      exact Entry.forall_mem_line hprinted (hentries entry hmem)
  · rcases List.mem_cons.mp hlast with rfl | hclosing
    · exact hwords (by decide)
    · exact hclosings line hclosing

end Characters

/-! ## Whole reports -/

/-- That the plain text of a report can be read. -/
structure IsLegible (report : Report) : Prop where
  home : '\n' ∉ report.home.display.toList
  entries : ∀ entry ∈ report.entries, entry.IsLegible

theorem no_break_lines (hlegible : report.IsLegible) (dryRun : Bool) :
    ∀ text ∈ (report.lines dryRun).map Line.plain, '\n' ∉ text.toList := by
  have hbreak : ∀ c, ' ' ≤ c → c ≠ '\n' := by
    rintro c hprinted rfl
    exact absurd hprinted (by decide)
  have hpath : ∀ {words : String}, '\n' ∉ words.toList → ∀ c ∈ words.toList, c ≠ '\n' :=
    fun hwords c hc hequal => hwords (hequal ▸ hc)
  intro text htext hmem
  exact forall_mem_lines hbreak (hpath hlegible.home)
    (fun entry hentry => hpath (hlegible.entries entry hentry).no_break) dryRun text htext _ hmem rfl

/-- The lines of a plain text are those that the report was written in. -/
theorem lines_plain (hlegible : report.IsLegible) (dryRun : Bool) :
    Text.lines (report.plain dryRun) = (report.lines dryRun).map Line.plain ++ [""] := by
  have hplain : report.plain dryRun =
      String.join (((report.lines dryRun).map Line.plain).map (· ++ "\n")) := by
    rw [List.map_map]
    rfl
  rw [hplain, Text.lines_join (no_break_lines hlegible dryRun)]

theorem ofHeading?_heading (report : Report) (dryRun : Bool) :
    ofHeading? (report.heading dryRun).plain = some (dryRun, report.provider.name) := by
  have hapart : "Dry run for provider '".length = "Scaffolding provider '".length ∧
      "Dry run for provider '" ≠ "Scaffolding provider '" := by decide
  unfold ofHeading?
  cases dryRun with
  | true =>
    have hread : Text.between? "Dry run for provider '" "'" (report.heading true).plain =
        some report.provider.name := Text.between?_append _ _ _
    rw [hread]
    rfl
  | false =>
    have hread : Text.between? "Scaffolding provider '" "'" (report.heading false).plain =
        some report.provider.name := Text.between?_append _ _ _
    have hother : Text.between? "Dry run for provider '" "'" (report.heading false).plain =
        none := by
      have hplain : (report.heading false).plain =
          "Scaffolding provider '" ++ (report.provider.name ++ "'") := String.append_assoc
      rw [hplain, Text.between?_eq_none hapart.1 hapart.2]
    rw [hread, hother]
    rfl

theorem mapM_ofLine?_line {entries : List Entry} (hlegible : ∀ entry ∈ entries, entry.IsLegible) :
    (entries.map (·.line.plain)).mapM Entry.ofLine? = some entries := by
  induction entries with
  | nil => rfl
  | cons entry rest ih =>
    obtain ⟨hentry, hrest⟩ := List.forall_mem_cons.mp hlegible
    rw [List.map_cons, List.mapM_cons, Entry.ofLine?_line hentry, ih hrest]
    rfl

theorem heading_ne_empty (report : Report) (dryRun : Bool) :
    (report.heading dryRun).plain ≠ "" := by
  intro hempty
  have hread := report.ofHeading?_heading dryRun
  rw [hempty] at hread
  cases hread

/-- Behind the heading come the lines of the entries, up to the first empty line. -/
theorem lines_plain_eq (hlegible : report.IsLegible) (dryRun : Bool) :
    Text.lines (report.plain dryRun) =
      (report.heading dryRun).plain :: (report.entries.map (·.line.plain) ++
        "" :: ((report.closing dryRun).map Line.plain ++ [""])) := by
  rw [lines_plain hlegible, lines, List.map_append, List.map_cons, List.map_cons, List.map_map]
  simp only [List.cons_append, List.append_assoc]
  rfl

theorem forall_line_ne_empty (entries : List Entry) :
    ∀ text ∈ entries.map (·.line.plain), decide (text ≠ "") = true := by
  rw [List.forall_mem_map]
  exact fun entry _ => decide_eq_true entry.line_ne_empty

/-- A legible report is read back from its plain text, as far as the text tells it. -/
theorem readPlain?_plain (hlegible : report.IsLegible) (dryRun : Bool) :
    readPlain? (report.plain dryRun) = some (report.outline dryRun) := by
  have htold := forall_line_ne_empty report.entries
  unfold readPlain?
  rw [lines_plain_eq hlegible]
  simp only [ofLines?, ofHeading?_heading, Option.bind_eq_bind, Option.bind_some,
    Provider.parse_name, Except.toOption, List.takeWhile_append_of_pos htold]
  rw [List.takeWhile_cons_of_neg (by simp), List.append_nil,
    mapM_ofLine?_line hlegible.entries]
  rfl

/-- Behind the entries and an empty line comes what the report says in the end. -/
theorem closingLines_plain (hlegible : report.IsLegible) (dryRun : Bool) :
    closingLines (report.plain dryRun) = (report.closing dryRun).map Line.plain ++ [""] := by
  have htold : ∀ text ∈ (report.heading dryRun).plain :: report.entries.map (·.line.plain),
      decide (text ≠ "") = true := by
    rw [List.forall_mem_cons]
    exact ⟨decide_eq_true (report.heading_ne_empty dryRun), forall_line_ne_empty report.entries⟩
  unfold closingLines
  rw [lines_plain_eq hlegible, ← List.cons_append, List.dropWhile_append_of_pos htold,
    List.dropWhile_cons_of_neg (by simp), List.tail_cons]

/-- What a report says in the end tells dry runs, runs that made nothing and all others apart. -/
theorem mem_closingLines_iff (hlegible : report.IsLegible) (dryRun : Bool) :
    let name := report.provider.name
    let told := closingLines (report.plain dryRun)
    ("ℹ Dry run: nothing was written." ∈ told ↔ dryRun = true) ∧
      ("ℹ Provider '" ++ name ++ "' is already in place; nothing to do." ∈ told ↔
        dryRun = false ∧ report.isNoop = true) ∧
      ("✓ Provider '" ++ name ++ "' created at " ++ report.home.display ∈ told ↔
        dryRun = false ∧ report.isNoop = false) := by
  intro name told
  have htold : told = (report.closing dryRun).map Line.plain ++ [""] :=
    closingLines_plain hlegible dryRun
  rw [htold]
  unfold closing
  cases dryRun with
  | true => simp [Line.plain, ← String.toList_inj]
  | false =>
    cases hnoop : report.isNoop with
    | true => simp [Line.plain, ← String.toList_inj, name]
    | false => simp [Line.plain, ← String.toList_inj, name]

end Report

end Scaffolding
