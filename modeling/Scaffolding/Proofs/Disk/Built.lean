import Scaffolding.Proofs.Disk.Growth

/-!
# Sites built one after another

A tour leaves a chain of disks behind.  `Built` keeps the chain and the
entries, and drops the calls, so that what a look finds can be compared
from disk to disk.

* `Tour.exists_built` makes the chain, also of a tour that fails.
* `Disk.Foretold` compares the entries with what a look at the first disk
  tells: a site is a surprise if it is found at its turn and was missing at
  the start.
-/

namespace Scaffolding

open Report (Entry Outcome)

namespace Disk

variable {start disk disk' : Disk} {site : Site} {sites : List Site} {entries : List Entry}
  {location : Location} {node : Node}

/-- The entry of a site in a plan. -/
def foreseen (disk : Disk) (site : Site) : Entry :=
  site.entry (if disk.holds site then .alreadyExists else .wouldCreate)

theorem Extends.holds (hextends : disk.Extends disk') (hholds : disk.holds site = true) :
    disk'.holds site = true := by
  cases site with
  | directory path =>
    obtain ⟨location, hlocate⟩ := isDirectory_eq_true_iff.mp hholds
    exact isDirectory_eq_true_iff.mpr ⟨location, hextends.locate hlocate⟩
  | file template path =>
    obtain ⟨location, node, hlocate⟩ := isPresent_eq_true_iff.mp hholds
    exact isPresent_eq_true_iff.mpr ⟨location, node, hextends.locate hlocate⟩

theorem Extends.missing (hextends : disk.Extends disk') (hmissing : disk'.holds site = false) :
    disk.holds site = false := by
  apply Bool.eq_false_iff.mpr
  intro hholds
  rw [hextends.holds hholds] at hmissing
  cases hmissing

/-! ## Chains of disks -/

/-- That sites were found or made one after another, with their entries. -/
inductive Built : List Site → Disk → List Entry → Disk → Prop where
  | done {disk : Disk} : Built [] disk [] disk
  | found {site : Site} {rest : List Site} {disk disk' : Disk} {entries : List Entry}
      (hholds : disk.holds site = true) (hrest : Built rest disk entries disk') :
      Built (site :: rest) disk (site.entry .alreadyExists :: entries) disk'
  | made {site : Site} {rest : List Site} {disk disk' : Disk} {entries : List Entry}
      {location : Location} {node : Node} (hmakes : disk.Makes site location node)
      (hrest : Built rest (disk.insert location node) entries disk') :
      Built (site :: rest) disk (site.entry .created :: entries) disk'

theorem Built.length_eq (hbuilt : Built sites disk entries disk') :
    entries.length = sites.length := by
  induction hbuilt with
  | done => rfl
  | found _ _ ih => rw [List.length_cons, List.length_cons, ih]
  | made _ _ ih => rw [List.length_cons, List.length_cons, ih]

theorem Built.extends (hbuilt : Built sites disk entries disk') : disk.Extends disk' := by
  induction hbuilt with
  | done => exact .refl _
  | found _ _ ih => exact ih
  | made hmakes _ ih => exact hmakes.grows.extends.trans ih

theorem Built.exists_of_append {others : List Site}
    (hbuilt : Built (sites ++ others) disk entries disk') :
    ∃ first second middle, entries = first ++ second ∧ Built sites disk first middle ∧
      Built others middle second disk' := by
  induction sites generalizing disk entries with
  | nil => exact ⟨[], entries, disk, rfl, .done, hbuilt⟩
  | cons site rest ih =>
    cases hbuilt with
    | found hholds hrest =>
      obtain ⟨first, second, middle, rfl, hfirst, hsecond⟩ := ih hrest
      exact ⟨_ :: first, second, middle, rfl, .found hholds hfirst, hsecond⟩
    | made hmakes hrest =>
      obtain ⟨first, second, middle, rfl, hfirst, hsecond⟩ := ih hrest
      exact ⟨_ :: first, second, middle, rfl, .made hmakes hfirst, hsecond⟩

/-! ## Comparing with the start -/

/-- That the entries are those that a plan on another disk has. -/
def Foretold (start : Disk) (sites : List Site) (entries : List Entry) : Prop :=
  sites.map start.foreseen = entries.map Entry.asPlanned

theorem foretold_nil : Foretold start [] [] := rfl

theorem foretold_found_iff :
    Foretold start (site :: sites) (site.entry .alreadyExists :: entries) ↔
      start.holds site = true ∧ Foretold start sites entries := by
  have hentry : start.foreseen site = (site.entry .alreadyExists).asPlanned ↔
      start.holds site = true := by
    unfold foreseen
    cases start.holds site <;> simp [Site.entry, Entry.asPlanned]
  unfold Foretold
  rw [List.map_cons, List.map_cons, List.cons.injEq, hentry]

theorem foretold_made_iff (hmissing : start.holds site = false) :
    Foretold start (site :: sites) (site.entry .created :: entries) ↔
      Foretold start sites entries := by
  have hentry : start.foreseen site = (site.entry .created).asPlanned := by
    unfold foreseen
    rw [hmissing]
    rfl
  unfold Foretold
  rw [List.map_cons, List.map_cons, List.cons.injEq, hentry]
  exact and_iff_right rfl

theorem foretold_append_iff {others : List Site} {first second : List Entry}
    (hlength : first.length = sites.length) :
    Foretold start (sites ++ others) (first ++ second) ↔
      Foretold start sites first ∧ Foretold start others second := by
  unfold Foretold
  rw [List.map_append, List.map_append]
  constructor
  · intro heq
    apply List.append_inj heq
    rw [List.length_map, List.length_map, hlength]
  · intro hboth
    obtain ⟨hfirst, hsecond⟩ := hboth
    rw [hfirst, hsecond]

/-- Whatever a plan finds is found, and the order and the kinds are those of the plan. -/
theorem Built.forall₂_foreseen (hextends : start.Extends disk)
    (hbuilt : Built sites disk entries disk') :
    List.Forall₂ (fun told made => told.path = made.path ∧ told.kind = made.kind ∧
      (told.outcome = .alreadyExists → made.outcome = .alreadyExists))
      (sites.map start.foreseen) entries := by
  induction hbuilt with
  | done => exact .nil
  | found _ _ ih => exact .cons ⟨rfl, rfl, fun _ => rfl⟩ (ih hextends)
  | made hmakes _ ih =>
    refine .cons ⟨rfl, rfl, ?_⟩ (ih (hextends.trans hmakes.grows.extends))
    intro htold
    unfold foreseen at htold
    rw [hextends.missing hmakes.missing] at htold
    cases htold

end Disk

namespace Script

variable {σ : Type} {around : Surroundings σ} {disk : σ → Disk} {provider : Provider}
  {state state' : σ} {acts : List Act}

/-- Whether a tour comes to its end or not, the sites that it got through were built. -/
theorem Tour.exists_built (hlies : around.LiesOn disk) {sites : List Site}
    {result : Except Failure (List Entry)}
    (htour : Tour around provider sites state acts result state') :
    ∃ visited entries, visited <+: sites ∧
      Disk.Built visited (disk state) entries (disk state') ∧
      ∀ all, result = .ok all → visited = sites ∧ entries = all := by
  induction htour with
  | done =>
    refine ⟨[], [], List.prefix_refl _, .done, ?_⟩
    intro all hall
    cases hall
    exact ⟨rfl, rfl⟩
  | stop hvisit =>
    rcases hvisit.on_disk hlies with ⟨hresult, -⟩ | ⟨_, _, _, hresult, -⟩ | ⟨_, -, hsame⟩
    · cases hresult
    · cases hresult
    · rw [hsame]
      refine ⟨[], [], List.nil_prefix, .done, ?_⟩
      intro all hall
      cases hall
  | @go site _ _ _ _ _ _ entry result hvisit _ ih =>
    obtain ⟨visited, entries, hvisited, hbuilt, hend⟩ := ih
    refine ⟨site :: visited, entry :: entries, (List.prefix_cons_inj site).mpr hvisited, ?_, ?_⟩
    · rcases hvisit.on_disk hlies with ⟨hentry, hholds, hsame⟩ |
        ⟨location, node, hmakes, hentry, hdisk⟩ | ⟨_, hentry, -⟩
      · injection hentry with hentry
        rw [hsame] at hbuilt
        rw [hentry]
        exact .found hholds hbuilt
      · injection hentry with hentry
        rw [hdisk] at hbuilt
        rw [hentry]
        exact .made hmakes hbuilt
      · cases hentry
    · intro all hall
      obtain ⟨rest, hrest, rfl⟩ := exists_of_map_eq_ok hall
      obtain ⟨rfl, rfl⟩ := hend rest hrest
      exact ⟨rfl, rfl⟩

theorem Tour.built (hlies : around.LiesOn disk) {sites : List Site} {entries : List Entry}
    (htour : Tour around provider sites state acts (.ok entries) state') :
    Disk.Built sites (disk state) entries (disk state') := by
  obtain ⟨visited, built, -, hbuilt, hend⟩ := htour.exists_built hlies
  obtain ⟨rfl, rfl⟩ := hend entries rfl
  exact hbuilt

end Script

end Scaffolding
