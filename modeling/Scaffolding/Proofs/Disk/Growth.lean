import Scaffolding.Disk.Surroundings
import Scaffolding.Proofs.Disk.Extension
import Scaffolding.Proofs.Script.Tour

/-!
# What a scaffold leaves on a disk

A file is only written after a look that found nothing at its path.  Both
the look and the write follow links, so a write that goes through ends at
a name that was free, and a scaffold never replaces a file.

* `Makes` is what one order adds, and `Grows` what a run adds.
* `Visit.on_disk` says what a visit leaves, `Tour.on_disk` what a tour does.
* `grows_scaffold` is the result: a run only adds directories and files, as
  many as its report says.
-/

namespace Scaffolding

open Report (Entry)

namespace Disk

variable {disk disk' : Disk} {site : Site} {location : Location} {node : Node}

/-! ## Looks and orders -/

theorem isDirectory_eq_true_iff {path : Path} :
    disk.isDirectory path = true ↔
      ∃ location, disk.locate .look path = .ok (.taken location .directory) := by
  unfold isDirectory
  constructor
  · intro hfound
    split at hfound
    · exact ⟨_, ‹_›⟩
    · cases hfound
  · intro hfound
    obtain ⟨location, hlocate⟩ := hfound
    rw [hlocate]

theorem isPresent_eq_true_iff {path : Path} :
    disk.isPresent path = true ↔
      ∃ location node, disk.locate .look path = .ok (.taken location node) := by
  unfold isPresent
  constructor
  · intro hfound
    split at hfound
    · exact ⟨_, _, ‹_›⟩
    · cases hfound
  · intro hfound
    obtain ⟨location, node, hlocate⟩ := hfound
    rw [hlocate]

/-- Whether a look at a site finds it. -/
def holds (disk : Disk) : Site → Bool
  | .directory path => disk.isDirectory path
  | .file _ path => disk.isPresent path

/-- The nodes that can be made for a site that is missing. -/
inductive Makes (disk : Disk) : Site → Location → Node → Prop where
  | directory {path : Path} {above : Location} {name : Bytes}
      (hmissing : disk.isDirectory path = false)
      (hfree : disk.locate .entry path = .ok (.free above name)) :
      Makes disk (.directory path) (above ++ [name]) .directory
  | file {template : Template} {path : Path} {above : Location} {name content : Bytes}
      (hmissing : disk.isPresent path = false)
      (hfree : disk.locate .write path = .ok (.free above name)) :
      Makes disk (.file template path) (above ++ [name]) (.file content)

theorem vacant_of_locate {purpose : Purpose} {path : Path} {above : Location} {name : Bytes}
    (hfree : disk.locate purpose path = .ok (.free above name)) :
    disk.node? (above ++ [name]) = none := by
  obtain ⟨-, _, -, hleads⟩ := locate_eq_ok_iff.mp hfree
  exact hleads.vacant

theorem Makes.vacant (hmakes : disk.Makes site location node) : disk.node? location = none := by
  cases hmakes with
  | directory _ hfree => exact vacant_of_locate hfree
  | file _ hfree => exact vacant_of_locate hfree

theorem Makes.missing (hmakes : disk.Makes site location node) : disk.holds site = false := by
  cases hmakes with
  | directory hmissing _ => exact hmissing
  | file hmissing _ => exact hmissing

theorem Makes.plain (hmakes : disk.Makes site location node) :
    node = .directory ∨ ∃ content, node = .file content := by
  cases hmakes with
  | directory => exact .inl rfl
  | file => exact .inr ⟨_, rfl⟩

theorem locate_look_of_write {path : Path} {place : Place}
    (hwrite : disk.locate .write path = .ok place) : disk.locate .look path = .ok place := by
  obtain ⟨hpath, used, hused, hleads⟩ := locate_eq_ok_iff.mp hwrite
  exact locate_eq_ok_iff.mpr ⟨hpath, used, hused, hleads.look_of_write⟩

/-- A directory that was not found is made where nothing was, or nothing changes. -/
theorem ensureDirectory_cases {path : Path} (hmissing : disk.isDirectory path = false) :
    (∃ location node, disk.Makes (.directory path) location node ∧
        disk.ensureDirectory path = (.ok (), disk.insert location node)) ∨
      ∃ failure, disk.ensureDirectory path = (.error failure, disk) := by
  unfold ensureDirectory makeDirectory
  rw [hmissing, if_neg Bool.false_ne_true]
  cases hlocate : disk.locate .entry path with
  | error fault => exact .inr ⟨_, rfl⟩
  | ok place =>
    cases place with
    | taken location node => exact .inr ⟨_, rfl⟩
    | free above name => exact .inl ⟨_, _, .directory hmissing hlocate, rfl⟩

/-- A file that was not found is put where nothing was, or nothing changes. -/
theorem writeText_cases {template : Template} {path : Path} (text : String)
    (hmissing : disk.isPresent path = false) :
    (∃ location node, disk.Makes (.file template path) location node ∧
        disk.writeText path text = (.ok (), disk.insert location node)) ∨
      ∃ failure, disk.writeText path text = (.error failure, disk) := by
  unfold writeText write
  cases hlocate : disk.locate .write path with
  | error fault => exact .inr ⟨_, rfl⟩
  | ok place =>
    cases place with
    | free above name => exact .inl ⟨_, _, .file hmissing hlocate, rfl⟩
    | taken location node =>
      have hfound : disk.isPresent path = true :=
        isPresent_eq_true_iff.mpr ⟨_, _, locate_look_of_write hlocate⟩
      rw [hmissing] at hfound
      cases hfound

/-! ## Growth -/

/-- That a disk has become another by gaining some nodes, each where there was nothing. -/
structure Grows (disk : Disk) (added : List (Location × Node)) (disk' : Disk) : Prop where
  here_eq : disk'.here = disk.here
  nodes_eq : disk'.nodes = added ++ disk.nodes
  nodup : (added.map (·.1)).Nodup
  vacant : ∀ entry ∈ added, disk.node? entry.1 = none
  plain : ∀ entry ∈ added, entry.2 = .directory ∨ ∃ content, entry.2 = .file content
  node?_iff : ∀ location node, disk'.node? location = some node ↔
    disk.node? location = some node ∨ (location, node) ∈ added

theorem Grows.refl (disk : Disk) : Grows disk [] disk where
  here_eq := rfl
  nodes_eq := rfl
  nodup := List.nodup_nil
  vacant := by simp
  plain := by simp
  node?_iff := by simp

theorem Grows.extends {added : List (Location × Node)} (hgrows : disk.Grows added disk') :
    disk.Extends disk' where
  here_eq := hgrows.here_eq
  node?_eq hnode := (hgrows.node?_iff _ _).mpr (.inl hnode)

theorem Grows.trans {disk'' : Disk} {first second : List (Location × Node)}
    (hfirst : disk.Grows first disk') (hsecond : disk'.Grows second disk'') :
    disk.Grows (second ++ first) disk'' where
  here_eq := hsecond.here_eq.trans hfirst.here_eq
  nodes_eq := by rw [hsecond.nodes_eq, hfirst.nodes_eq, List.append_assoc]
  nodup := by
    rw [List.map_append]
    apply hsecond.nodup.append hfirst.nodup
    intro location hnew hold
    obtain ⟨entry, hentry, rfl⟩ := List.mem_map.mp hnew
    obtain ⟨⟨other, node⟩, hother, heq⟩ := List.mem_map.mp hold
    have hthere := (hfirst.node?_iff other node).mpr (.inr hother)
    have hvacant := hsecond.vacant entry hentry
    rw [← heq, hthere] at hvacant
    cases hvacant
  vacant := by
    intro entry hentry
    rcases List.mem_append.mp hentry with hnew | hold
    · have hvacant := hsecond.vacant entry hnew
      cases hnode : disk.node? entry.1 with
      | none => rfl
      | some node =>
        rw [hfirst.extends.node?_eq hnode] at hvacant
        cases hvacant
    · exact hfirst.vacant entry hold
  plain := by
    intro entry hentry
    rcases List.mem_append.mp hentry with hnew | hold
    · exact hsecond.plain entry hnew
    · exact hfirst.plain entry hold
  node?_iff := by
    intro location node
    rw [hsecond.node?_iff, hfirst.node?_iff, List.mem_append, or_assoc, or_comm (b := _ ∈ second)]

theorem Makes.grows (hmakes : disk.Makes site location node) :
    disk.Grows [(location, node)] (disk.insert location node) where
  here_eq := rfl
  nodes_eq := by
    have hvacant := hmakes.vacant
    have hroot := ne_nil_of_vacant hvacant
    unfold node? at hvacant
    rw [if_neg hroot, List.lookup_eq_none_iff] at hvacant
    show (location, node) :: disk.nodes.filter (·.1 ≠ location) = _
    rw [List.filter_eq_self.mpr]
    · rfl
    · intro entry hentry
      have hother : location ≠ entry.1 := bne_iff_ne.mp (hvacant entry hentry)
      exact decide_eq_true hother.symm
  nodup := List.nodup_singleton _
  vacant := by
    intro entry hentry
    rw [List.mem_singleton.mp hentry]
    exact hmakes.vacant
  plain := by
    intro entry hentry
    rw [List.mem_singleton.mp hentry]
    exact hmakes.plain
  node?_iff := by
    intro other node'
    rw [node?_insert disk (ne_nil_of_vacant hmakes.vacant), List.mem_singleton, Prod.mk.injEq]
    by_cases hother : other = location
    · subst hother
      rw [if_pos rfl, hmakes.vacant]
      simp [eq_comm]
    · rw [if_neg hother]
      simp [hother]

/-- Nothing was added if the disk looks the same everywhere. -/
theorem Grows.eq_nil {added : List (Location × Node)} (hgrows : disk.Grows added disk')
    (hsame : disk'.node? = disk.node?) : added = [] := by
  apply List.eq_nil_iff_forall_not_mem.mpr
  intro entry hentry
  have hthere := (hgrows.node?_iff entry.1 entry.2).mpr (.inr hentry)
  rw [hsame, hgrows.vacant entry hentry] at hthere
  cases hthere

theorem Grows.eq_of_nil (hgrows : disk.Grows [] disk') : disk' = disk := by
  have hnodes := hgrows.nodes_eq
  have hhere := hgrows.here_eq
  cases disk
  cases disk'
  rw [List.nil_append] at hnodes
  simp only at hnodes hhere
  rw [hnodes, hhere]

end Disk

/-! ## Surroundings on a disk -/

/-- That the files of some surroundings lie on a disk, which is a part of their state.  Templates
may come from anywhere, as long as reading one leaves the disk alone. -/
structure Surroundings.LiesOn {σ : Type} (around : Surroundings σ) (disk : σ → Disk) : Prop where
  isDirectory_eq : ∀ path state,
    around.isDirectory path state = ((disk state).isDirectory path, state)
  isPresent_eq : ∀ path state, around.isPresent path state = ((disk state).isPresent path, state)
  makeDirectory_eq : ∀ path state,
    (around.makeDirectory path state).map id disk = (disk state).ensureDirectory path
  write_eq : ∀ path text state,
    (around.write path text state).map id disk = (disk state).writeText path text
  disk_load : ∀ template state, disk (around.load template state).2 = disk state

theorem Disk.liesOn_surroundings (templates : Path) :
    (Disk.surroundings templates).LiesOn id where
  isDirectory_eq _ _ := rfl
  isPresent_eq _ _ := rfl
  makeDirectory_eq _ _ := rfl
  write_eq _ _ _ := rfl
  disk_load _ _ := rfl

namespace Script

variable {σ : Type} {around : Surroundings σ} {disk : σ → Disk} {provider : Provider}
  {state state' : σ} {acts : List Act}

/-- A visit finds its site, or makes it, or leaves the disk as it was. -/
theorem Visit.on_disk (hlies : around.LiesOn disk) {site : Site} {result : Except Failure Entry}
    (hvisit : Visit around provider site state acts result state') :
    (result = .ok (site.entry .alreadyExists) ∧ (disk state).holds site = true ∧
        disk state' = disk state) ∨
      (∃ location node, (disk state).Makes site location node ∧
        result = .ok (site.entry .created) ∧ disk state' = (disk state).insert location node) ∨
      ∃ failure, result = .error failure ∧ disk state' = disk state := by
  cases hvisit with
  | directoryFound hlook =>
    rw [hlies.isDirectory_eq] at hlook
    obtain ⟨hfound, rfl⟩ := Prod.mk.inj hlook
    exact .inl ⟨rfl, hfound, rfl⟩
  | @directoryMade path _ _ _ hlook hmake =>
    rw [hlies.isDirectory_eq] at hlook
    obtain ⟨hmissing, rfl⟩ := Prod.mk.inj hlook
    have horder := hlies.makeDirectory_eq path state
    rw [hmake] at horder
    rcases Disk.ensureDirectory_cases hmissing with ⟨location, node, hmakes, hdone⟩ | ⟨_, hrefused⟩
    · exact .inr (.inl ⟨location, node, hmakes, rfl, (Prod.mk.inj (horder.trans hdone)).2⟩)
    · cases (Prod.mk.inj (horder.trans hrefused)).1
  | @directoryRefused path _ _ _ failure hlook hmake =>
    rw [hlies.isDirectory_eq] at hlook
    obtain ⟨hmissing, rfl⟩ := Prod.mk.inj hlook
    have horder := hlies.makeDirectory_eq path state
    rw [hmake] at horder
    rcases Disk.ensureDirectory_cases hmissing with ⟨_, _, _, hdone⟩ | ⟨_, hrefused⟩
    · cases (Prod.mk.inj (horder.trans hdone)).1
    · exact .inr (.inr ⟨failure, rfl, (Prod.mk.inj (horder.trans hrefused)).2⟩)
  | fileFound hlook =>
    rw [hlies.isPresent_eq] at hlook
    obtain ⟨hfound, rfl⟩ := Prod.mk.inj hlook
    exact .inl ⟨rfl, hfound, rfl⟩
  | @templateRefused template _ _ _ _ failure hlook hload =>
    rw [hlies.isPresent_eq] at hlook
    obtain ⟨-, rfl⟩ := Prod.mk.inj hlook
    have hsame := hlies.disk_load template state
    rw [hload] at hsame
    exact .inr (.inr ⟨failure, rfl, hsame⟩)
  | @fileRefused template path _ _ state₂ _ text failure hlook hload hwrite =>
    rw [hlies.isPresent_eq] at hlook
    obtain ⟨hmissing, rfl⟩ := Prod.mk.inj hlook
    have hsame := hlies.disk_load template state
    rw [hload] at hsame
    have horder := hlies.write_eq path (instantiate text provider) state₂
    rw [hwrite, hsame] at horder
    rcases @Disk.writeText_cases _ template _ (instantiate text provider) hmissing with
      ⟨_, _, _, hdone⟩ | ⟨_, hrefused⟩
    · cases (Prod.mk.inj (horder.trans hdone)).1
    · exact .inr (.inr ⟨failure, rfl, (Prod.mk.inj (horder.trans hrefused)).2⟩)
  | @fileMade template path _ _ state₂ _ text hlook hload hwrite =>
    rw [hlies.isPresent_eq] at hlook
    obtain ⟨hmissing, rfl⟩ := Prod.mk.inj hlook
    have hsame := hlies.disk_load template state
    rw [hload] at hsame
    have horder := hlies.write_eq path (instantiate text provider) state₂
    rw [hwrite, hsame] at horder
    rcases @Disk.writeText_cases _ template _ (instantiate text provider) hmissing with
      ⟨location, node, hmakes, hdone⟩ | ⟨_, hrefused⟩
    · exact .inr (.inl ⟨location, node, hmakes, rfl, (Prod.mk.inj (horder.trans hdone)).2⟩)
    · cases (Prod.mk.inj (horder.trans hrefused)).1

/-- A tour only adds nodes, as many as there are sites that it made. -/
theorem Tour.on_disk (hlies : around.LiesOn disk) {sites : List Site}
    {result : Except Failure (List Entry)}
    (htour : Tour around provider sites state acts result state') :
    ∃ added, (disk state).Grows added (disk state') ∧
      ∀ entries, result = .ok entries →
        entries.countP (fun entry => entry.outcome = .created) = added.length := by
  induction htour with
  | done =>
    refine ⟨[], .refl _, ?_⟩
    intro entries hentries
    cases hentries
    rfl
  | stop hvisit =>
    rcases hvisit.on_disk hlies with ⟨hresult, -⟩ | ⟨_, _, _, hresult, -⟩ | ⟨_, -, hsame⟩
    · cases hresult
    · cases hresult
    · rw [hsame]
      refine ⟨[], .refl _, ?_⟩
      intro entries hentries
      cases hentries
  | @go site _ _ _ _ _ _ entry result hvisit _ ih =>
    obtain ⟨added, hgrows, hcount⟩ := ih
    rcases hvisit.on_disk hlies with ⟨hentry, -, hsame⟩ |
      ⟨location, node, hmakes, hentry, hdisk⟩ | ⟨_, hentry, -⟩
    · rw [hsame] at hgrows
      refine ⟨added, hgrows, ?_⟩
      intro entries hentries
      obtain ⟨rest, hrest, rfl⟩ := exists_of_map_eq_ok hentries
      injection hentry with hentry
      rw [List.countP_cons_of_neg, hcount rest hrest]
      rw [hentry]
      simp [Site.entry]
    · rw [hdisk] at hgrows
      refine ⟨added ++ [(location, node)], hmakes.grows.trans hgrows, ?_⟩
      intro entries hentries
      obtain ⟨rest, hrest, rfl⟩ := exists_of_map_eq_ok hentries
      injection hentry with hentry
      rw [List.countP_cons_of_pos, hcount rest hrest, List.length_append, List.length_singleton]
      rw [hentry]
      simp [Site.entry]
    · cases hentry

/-- Nothing on a disk is lost or changed by a scaffold, whether it fails or not.  All that is new
are directories and files, and a report counts them. -/
theorem grows_scaffold (templates : Path) (provider : Provider) (root : Path) (disk : Disk) :
    let run := (scaffold provider root).exec (Disk.surroundings templates) disk
    ∃ added, disk.Grows added run.state ∧
      ∀ report, run.answer = .ok report →
        report.count .created = added.length ∧
          (report.isNoop = true ↔ run.state = disk) ∧
          (report.isNoop = true ↔ run.state.node? = disk.node?) := by
  intro run
  obtain ⟨acts, result, htour, hanswer, -⟩ :=
    exists_tour (Disk.surroundings templates) provider root disk
  obtain ⟨added, hgrows, hcount⟩ := htour.on_disk (Disk.liesOn_surroundings templates)
  refine ⟨added, hgrows, ?_⟩
  intro report hreport
  obtain ⟨entries, hentries, rfl⟩ := exists_of_map_eq_ok (hanswer.symm.trans hreport)
  have hcreated : entries.countP (fun entry => entry.outcome = .created) = added.length :=
    hcount entries hentries
  have hnoop : Report.isNoop ⟨provider, provider.home root, entries⟩ = true ↔ added = [] := by
    unfold Report.isNoop Report.count
    rw [hcreated, decide_eq_true_eq, List.length_eq_zero_iff]
  refine ⟨hcreated, hnoop.trans ⟨?_, ?_⟩, hnoop.trans ⟨?_, hgrows.eq_nil⟩⟩
  · rintro rfl
    exact hgrows.eq_of_nil
  · intro hsame
    exact hgrows.eq_nil (congrArg Disk.node? hsame)
  · rintro rfl
    exact congrArg Disk.node? hgrows.eq_of_nil

end Script

end Scaffolding
