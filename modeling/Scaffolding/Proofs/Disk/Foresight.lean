import Mathlib.Data.List.Pairwise
import Scaffolding.Proofs.Disk.Home

/-!
# Whether a plan comes true on a disk

A plan looks at all seven paths before anything is made.  A scaffold looks
at each when its turn has come, and may find what it made itself a moment
ago: a link among the seven can lead to another of them, or to where a
write through another link went.

* `Foreseeable` says, of the disk at the start, that this cannot happen.
* `Built.foretold_files_iff` follows the files from one write to the next.
* `plan_comes_true_iff` is the result: when a scaffold succeeds, the plan
  made before it is its report exactly on the disks that are `Foreseeable`.
-/

namespace Scaffolding

open Report (Entry)

namespace Disk

variable {start disk disk' : Disk} {purpose : Purpose} {path other : Path} {above : Location}
  {name content : Bytes}

/-! ## Paths on a disk that grows -/

theorem Extends.locate_free (hextends : disk.Extends disk')
    (hfree : disk.locate purpose path = .ok (.free above name))
    (hvacant : disk'.node? (above ++ [name]) = none) :
    disk'.locate purpose path = .ok (.free above name) := by
  obtain ⟨hpath, used, hused, hleads⟩ := locate_eq_ok_iff.mp hfree
  rw [← hextends.here_eq] at hleads
  exact locate_eq_ok_iff.mpr ⟨hpath, used, hused, hleads.extend_free hextends hvacant⟩

/-- That writing to either of two paths would make the same file. -/
def Clash (disk : Disk) (path other : Path) : Prop :=
  ∃ above name, disk.locate .write path = .ok (.free above name) ∧
    disk.locate .write other = .ok (.free above name)

section Insert

variable (hvacant : disk.node? (above ++ [name]) = none)

include hvacant

/-- A new file is found at the paths that lead to it, and no other path is found because of it. -/
theorem isPresent_insert_iff :
    (disk.insert (above ++ [name]) (.file content)).isPresent path = true ↔
      disk.isPresent path = true ∨ disk.locate .write path = .ok (.free above name) := by
  have hextends : disk.Extends (disk.insert (above ++ [name]) (.file content)) :=
    .insert _ hvacant
  rw [isPresent_eq_true_iff, isPresent_eq_true_iff]
  constructor
  · intro hfound
    obtain ⟨reached, node, hlocate⟩ := hfound
    obtain ⟨hpath, used, hused, hleads⟩ := locate_eq_ok_iff.mp hlocate
    rcases hleads.look_of_insert_file hvacant with hold | ⟨_, _, hnew, hwrite⟩
    · exact .inl ⟨reached, node, locate_eq_ok_iff.mpr ⟨hpath, used, hused, hold⟩⟩
    · obtain ⟨rfl, hname⟩ := List.append_inj' hnew rfl
      injection hname with hname
      subst hname
      exact .inr (locate_eq_ok_iff.mpr ⟨hpath, used, hused, hwrite⟩)
  · intro hfound
    rcases hfound with ⟨reached, node, hlocate⟩ | hfree
    · exact ⟨reached, node, hextends.locate hlocate⟩
    · obtain ⟨hpath, used, hused, hleads⟩ := locate_eq_ok_iff.mp hfree
      have hfilled : (disk.insert (above ++ [name]) (.file content)).node? (above ++ [name]) =
          some (.file content) := by
        rw [node?_insert disk (ne_nil_of_vacant hvacant), if_pos rfl]
      exact ⟨_, _, locate_eq_ok_iff.mpr
        ⟨hpath, used, hused, hleads.look_of_filled hextends hfilled⟩⟩

theorem isPresent_insert_eq_false_iff :
    (disk.insert (above ++ [name]) (.file content)).isPresent path = false ↔
      disk.isPresent path = false ∧ disk.locate .write path ≠ .ok (.free above name) := by
  rw [← Bool.not_eq_true, isPresent_insert_iff hvacant, not_or, Bool.not_eq_true]

theorem locate_write_of_insert {above' : Location} {name' : Bytes}
    (hfree : (disk.insert (above ++ [name]) (.file content)).locate .write path =
      .ok (.free above' name')) : disk.locate .write path = .ok (.free above' name') := by
  obtain ⟨hpath, used, hused, hleads⟩ := locate_eq_ok_iff.mp hfree
  exact locate_eq_ok_iff.mpr ⟨hpath, used, hused, hleads.write_of_insert_file hvacant⟩

theorem Clash.of_insert
    (hclash : (disk.insert (above ++ [name]) (.file content)).Clash path other) :
    disk.Clash path other := by
  obtain ⟨above', name', hpath, hother⟩ := hclash
  exact ⟨above', name', locate_write_of_insert hvacant hpath,
    locate_write_of_insert hvacant hother⟩

theorem Clash.insert (hclash : disk.Clash path other)
    (hmissing : (disk.insert (above ++ [name]) (.file content)).isPresent path = false) :
    (disk.insert (above ++ [name]) (.file content)).Clash path other := by
  obtain ⟨above', name', hpath, hother⟩ := hclash
  have hextends : disk.Extends (disk.insert (above ++ [name]) (.file content)) :=
    .insert _ hvacant
  have helsewhere : above' ++ [name'] ≠ above ++ [name] := by
    intro heq
    obtain ⟨rfl, hname⟩ := List.append_inj' heq rfl
    injection hname with hname
    subst hname
    rw [(isPresent_insert_iff hvacant).mpr (.inr hpath)] at hmissing
    cases hmissing
  have hfree :
      (disk.insert (above ++ [name]) (.file content)).node? (above' ++ [name']) = none := by
    rw [node?_insert disk (ne_nil_of_vacant hvacant), if_neg helsewhere]
    exact vacant_of_locate hpath
  exact ⟨above', name', hextends.locate_free hpath hfree, hextends.locate_free hother hfree⟩

end Insert

/-! ## The files in their order -/

/-- The files are those of the plan as long as none of those that were missing at the start turned
up, and no two of them are one. -/
theorem Built.foretold_files_iff {target : Template → Path} {templates : List Template}
    {entries : List Entry} (hextends : start.Extends disk)
    (hbuilt : Built (templates.map fun template => .file template (target template)) disk entries
      disk') :
    Foretold start (templates.map fun template => .file template (target template)) entries ↔
      (∀ template ∈ templates, start.isPresent (target template) = false →
        disk.isPresent (target template) = false) ∧
      templates.Pairwise fun template other => start.isPresent (target template) = false →
        start.isPresent (target other) = false → ¬ disk.Clash (target template) (target other) := by
  induction templates generalizing disk entries with
  | nil =>
    cases hbuilt
    simp [foretold_nil]
  | cons template rest ih =>
    rw [List.map_cons] at hbuilt ⊢
    rw [List.forall_mem_cons, List.pairwise_cons]
    cases hbuilt with
    | found hholds hrest =>
      rw [foretold_found_iff, ih hextends hrest]
      have hhere : disk.isPresent (target template) = true := hholds
      constructor
      · intro hfiles
        obtain ⟨hstart, hmissing, hapart⟩ := hfiles
        have hstart : start.isPresent (target template) = true := hstart
        rw [hstart]
        exact ⟨⟨nofun, hmissing⟩, ⟨fun _ _ => nofun, hapart⟩⟩
      · intro hfiles
        obtain ⟨⟨hturned, hmissing⟩, -, hapart⟩ := hfiles
        refine ⟨?_, hmissing, hapart⟩
        show start.isPresent (target template) = true
        by_contra hstart
        rw [hturned (Bool.eq_false_iff.mpr hstart)] at hhere
        cases hhere
    | made hmakes hrest =>
      have hgone := hextends.missing hmakes.missing
      have hvacant := hmakes.vacant
      rw [foretold_made_iff hgone, ih (hextends.trans hmakes.grows.extends) hrest]
      cases hmakes with
      | @file _ _ above name content hmissing hfree =>
        constructor
        · intro hfiles
          obtain ⟨hafter, hapart⟩ := hfiles
          have hbefore : ∀ other ∈ rest, start.isPresent (target other) = false →
              disk.isPresent (target other) = false ∧
                disk.locate .write (target other) ≠ .ok (.free above name) := by
            intro other hother hstart
            exact (isPresent_insert_eq_false_iff hvacant).mp (hafter other hother hstart)
          refine ⟨⟨fun _ => hmissing, fun other hother hstart => (hbefore other hother hstart).1⟩,
            ?_, ?_⟩
          · rintro other hother - hstart ⟨above', name', htemplate, hsame⟩
            rw [hfree] at htemplate
            cases htemplate
            exact (hbefore other hother hstart).2 hsame
          · apply hapart.imp_of_mem
            intro one other hone _ hclash hstart hstart' hold
            exact hclash hstart hstart' (hold.insert hvacant (hafter one hone hstart))
        · intro hfiles
          obtain ⟨⟨-, hbefore⟩, hfirst, hapart⟩ := hfiles
          refine ⟨?_, ?_⟩
          · intro other hother hstart
            refine (isPresent_insert_eq_false_iff hvacant).mpr ⟨hbefore other hother hstart, ?_⟩
            intro hsame
            exact hfirst other hother hgone hstart ⟨above, name, hfree, hsame⟩
          · apply hapart.imp
            intro one other hclash hstart hstart' hnew
            exact hclash hstart hstart' (hnew.of_insert hvacant)

/-! ## Disks without surprises -/

/-- The disk with some directories, as far as they can be made in their order. -/
def withDirectories (disk : Disk) (paths : List Path) : Disk :=
  paths.foldl (fun disk path => (disk.ensureDirectory path).2) disk

theorem Makes.ensureDirectory_eq {location : Location} {node : Node}
    (hmakes : disk.Makes (.directory path) location node) :
    disk.ensureDirectory path = (.ok (), disk.insert location node) := by
  cases hmakes with
  | directory hmissing hfree =>
    unfold ensureDirectory makeDirectory
    rw [hmissing, if_neg Bool.false_ne_true, hfree]
    rfl

theorem Built.eq_withDirectories {paths : List Path} {entries : List Entry}
    (hbuilt : Built (paths.map .directory) disk entries disk') :
    disk' = disk.withDirectories paths := by
  induction paths generalizing disk entries with
  | nil =>
    cases hbuilt
    rfl
  | cons path rest ih =>
    cases hbuilt with
    | found hholds hrest =>
      have hsame : disk.ensureDirectory path = (.ok (), disk) := if_pos hholds
      rw [ih hrest, withDirectories, withDirectories, List.foldl_cons, hsame]
    | made hmakes hrest =>
      rw [ih hrest, withDirectories, withDirectories, List.foldl_cons, hmakes.ensureDirectory_eq]

/-- That nothing a scaffold makes lets a later look find what was missing at the start. -/
structure Foreseeable (disk : Disk) (provider : Provider) (root : Path) : Prop where
  /-- No directory that is missing is a link. -/
  no_link : ∀ path ∈ provider.directories root,
    disk.isDirectory path = false → ¬ disk.IsLink path
  /-- No file that is missing turns up with the directories. -/
  still_missing : ∀ template, disk.isPresent (provider.file root template) = false →
    (disk.withDirectories (provider.directories root)).isPresent
      (provider.file root template) = false
  /-- No two files that are missing would be one and the same. -/
  apart : ∀ template other, template ≠ other →
    disk.isPresent (provider.file root template) = false →
    disk.isPresent (provider.file root other) = false →
    ¬ (disk.withDirectories (provider.directories root)).Clash
      (provider.file root template) (provider.file root other)

theorem Clash.symm (hclash : disk.Clash path other) : disk.Clash other path := by
  obtain ⟨above, name, hpath, hother⟩ := hclash
  exact ⟨above, name, hother, hpath⟩

theorem Built.foretold_sites_iff {provider : Provider} {root : Path} {entries : List Entry}
    (htree : start.IsTree) (hbuilt : Built (provider.sites root) start entries disk') :
    Foretold start (provider.sites root) entries ↔ start.Foreseeable provider root := by
  have hnodup : Template.all.Nodup := by decide
  obtain ⟨first, second, middle, rfl, hdirectories, hfiles⟩ := hbuilt.exists_of_append
  obtain rfl := hdirectories.eq_withDirectories
  unfold Provider.sites
  rw [foretold_append_iff hdirectories.length_eq, hdirectories.foretold_directories_iff htree,
    hfiles.foretold_files_iff hdirectories.extends]
  constructor
  · intro hsites
    obtain ⟨hlink, hmissing, hapart⟩ := hsites
    refine ⟨hlink, fun template => hmissing template template.mem_all, ?_⟩
    intro template other hne hstart hstart'
    have hsymm : Std.Symm fun template other =>
        start.isPresent (provider.file root template) = false →
        start.isPresent (provider.file root other) = false →
        ¬ (start.withDirectories (provider.directories root)).Clash
          (provider.file root template) (provider.file root other) :=
      ⟨fun _ _ hclash hone htwo hback => hclash htwo hone hback.symm⟩
    exact hapart.forall template.mem_all other.mem_all hne hstart hstart'
  · intro hforeseeable
    obtain ⟨hlink, hmissing, hapart⟩ := hforeseeable
    refine ⟨hlink, fun template _ => hmissing template, ?_⟩
    apply hnodup.pairwise_of_forall_ne
    intro template _ other _ hne
    exact hapart template other hne

/-! ## The plan and the run -/

/-- A disk and a source of templates.  The source may read the disk and has a state of its own. -/
def surroundingsWith {τ : Type} (load : Template → Disk × τ → Except Failure String × τ) :
    Surroundings (Disk × τ) where
  isDirectory path state := (state.1.isDirectory path, state)
  isPresent path state := (state.1.isPresent path, state)
  makeDirectory path state := (state.1.ensureDirectory path).map id fun disk => (disk, state.2)
  write path text state := (state.1.writeText path text).map id fun disk => (disk, state.2)
  load template state := (load template state).map id fun source => (state.1, source)

theorem liesOn_surroundingsWith {τ : Type}
    (load : Template → Disk × τ → Except Failure String × τ) :
    (surroundingsWith load).LiesOn Prod.fst where
  isDirectory_eq _ _ := rfl
  isPresent_eq _ _ := rfl
  makeDirectory_eq _ _ := rfl
  write_eq _ _ _ := rfl
  disk_load _ _ := rfl

end Disk

namespace Script

/-- When a scaffold succeeds, the plan made before it has the same paths in the same order and finds
nothing that the scaffold does not find.  It is the report of the scaffold, with nothing made yet,
exactly on the disks that hold no surprise. -/
theorem plan_comes_true_iff {τ : Type} (load : Template → Disk × τ → Except Failure String × τ)
    (provider : Provider) (root : Path) {disk : Disk} (source : τ) (htree : disk.IsTree)
    {report : Report}
    (hrun : ((scaffold provider root).exec (Disk.surroundingsWith load) (disk, source)).answer =
      .ok report) :
    ∃ planned,
      ((plan provider root).exec (Disk.surroundingsWith load) (disk, source)).answer =
        .ok planned ∧
      List.Forall₂ (fun told made => told.path = made.path ∧ told.kind = made.kind ∧
          (told.outcome = .alreadyExists → made.outcome = .alreadyExists))
        planned.entries report.entries ∧
      (planned = report.asPlanned ↔ disk.Foreseeable provider root) := by
  obtain ⟨acts, result, htour, hanswer, -⟩ :=
    exists_tour (Disk.surroundingsWith load) provider root (disk, source)
  obtain ⟨entries, rfl, rfl⟩ := exists_of_map_eq_ok (hanswer.symm.trans hrun)
  have hbuilt := htour.built (Disk.liesOn_surroundingsWith load)
  have hplan := @exec_plan _ (Disk.surroundingsWith load) provider root (disk, source)
    (fun _ => rfl) (fun _ => rfl)
  have hfinds : ∀ site, (Disk.surroundingsWith load).finds (disk, source) site =
      disk.holds site := by
    intro site
    cases site <;> rfl
  simp only [hfinds] at hplan
  refine ⟨_, hplan.1, hbuilt.forall₂_foreseen (.refl disk), ?_⟩
  rw [← hbuilt.foretold_sites_iff htree]
  unfold Report.asPlanned Disk.Foretold Disk.foreseen
  rw [Report.mk.injEq]
  simp only [true_and]

section Sample

/-- A source in which every template is empty. -/
def emptyTemplates (_ : Template) (_ : Disk × Unit) : Except Failure String × Unit := (.ok "", ())

/-- The report on the short-named provider with these outcomes. -/
def reported (outcomes : List Report.Outcome) : Report :=
  ⟨shortNamed, shortNamed.home .empty, List.zipWith Site.entry (shortNamed.sites .empty) outcomes⟩

theorem plan_comes_true_iff_fresh :
    (Disk.fresh []).IsTree ∧
      ((scaffold shortNamed .empty).exec (Disk.surroundingsWith emptyTemplates)
        (Disk.fresh [], ())).answer = .ok (reported (List.replicate 7 .created)) ∧
      ∃ planned,
        ((plan shortNamed .empty).exec (Disk.surroundingsWith emptyTemplates)
          (Disk.fresh [], ())).answer = .ok planned ∧
        List.Forall₂ (fun told made => told.path = made.path ∧ told.kind = made.kind ∧
            (told.outcome = .alreadyExists → made.outcome = .alreadyExists))
          planned.entries (reported (List.replicate 7 .created)).entries ∧
        (planned = (reported (List.replicate 7 .created)).asPlanned ↔
          (Disk.fresh []).Foreseeable shortNamed .empty) := by
  have htree : (Disk.fresh []).IsTree := by decide
  have hrun : ((scaffold shortNamed .empty).exec (Disk.surroundingsWith emptyTemplates)
      (Disk.fresh [], ())).answer = .ok (reported (List.replicate 7 .created)) := by
    decide +kernel
  exact ⟨htree, hrun, plan_comes_true_iff emptyTemplates shortNamed .empty () htree hrun⟩

/-- A home in which the header's name is a link to the source's name, and there is no source. -/
def tangled : Disk where
  nodes := [([Text.encode "X"], .directory),
    ([Text.encode "X", Text.encode "X.h"], .link (Text.encode "X.cpp"))]
  here := []

/-- The plan tells that the source would be made, and the scaffold finds it made with the header. -/
theorem plan_fails_on_tangled :
    tangled.IsTree ∧ ∃ report,
      ((scaffold shortNamed .empty).exec (Disk.surroundingsWith emptyTemplates)
        (tangled, ())).answer = .ok report ∧
      ((plan shortNamed .empty).exec (Disk.surroundingsWith emptyTemplates)
        (tangled, ())).answer ≠ .ok report.asPlanned := by
  refine ⟨by decide, reported [.alreadyExists, .created, .created, .created, .alreadyExists,
    .created, .created], ?_, ?_⟩
  · decide +kernel
  · decide +kernel

end Sample

end Script

end Scaffolding
