import Mathlib.Data.List.Induction
import Scaffolding.Proofs.Provider.Layout
import Scaffolding.Proofs.Script.Tour

/-!
# What a scaffold asks and orders

The surroundings of a scaffold may answer as they like, and differently
each time.  Whatever they answer, the calls of a run follow the layout of
the provider.

* `Act.Justified` is the form of most of these facts: each call stands
  behind the calls that it needs.  It is kept when two stretches of calls
  are put together, so it is enough to look at one visit.
* `Tour.changes_eq` reads the orders off the entries of a tour, and the
  other way round.
* `orderly_scaffold` is the result, for every run.
-/

namespace Scaffolding

open Report (Entry Outcome)

namespace Act

/-! ## Kinds of calls -/

/-- The path that a call looks at. -/
def look? : Act → Option Path
  | .isDirectory path _ | .isPresent path _ => some path
  | _ => none

/-- The path that a call is to change, and what came of it. -/
def change? : Act → Option (Path × Except Failure Unit)
  | .makeDirectory path answer | .write path _ answer => some (path, answer)
  | _ => none

/-- The failure that a call ended with. -/
def failure? : Act → Option Failure
  | .makeDirectory _ (.error failure) | .write _ _ (.error failure)
  | .load _ (.error failure) => some failure
  | _ => none

/-- When a call has its turn: the home first, then the directories in it, then the files. -/
def stage (home : Path) : Act → Nat
  | .isDirectory path _ | .makeDirectory path _ => if path = home then 0 else 1
  | _ => 2

/-! ## Calls that stand behind others -/

/-- Each act stands behind the acts that it needs. -/
def Justified (needs : List Act → Act → Prop) (acts : List Act) : Prop :=
  ∀ before act after, acts = before ++ act :: after → needs before act

theorem Justified.nil (needs : List Act → Act → Prop) : Justified needs [] := by
  intro before act after hsplit
  exact absurd hsplit.symm (List.append_ne_nil_of_right_ne_nil before (List.cons_ne_nil act after))

theorem justified_concat_iff {needs : List Act → Act → Prop} {acts : List Act} {act : Act} :
    Justified needs (acts ++ [act]) ↔ Justified needs acts ∧ needs acts act := by
  constructor
  · intro hall
    refine ⟨?_, hall acts act [] rfl⟩
    intro before other after hsplit
    apply hall before other (after ++ [act])
    rw [hsplit, List.append_assoc, List.cons_append]
  · rintro ⟨hacts, hact⟩ before other after hsplit
    rcases List.eq_nil_or_concat after with rfl | ⟨init, last, rfl⟩
    · obtain ⟨rfl, hlast⟩ := List.append_inj' hsplit rfl
      injection hlast with hother
      exact hother ▸ hact
    · rw [List.concat_eq_append, ← List.cons_append, ← List.append_assoc] at hsplit
      obtain ⟨hinit, -⟩ := List.append_inj' hsplit rfl
      exact hacts before other init hinit

/-- Justified stretches can be put together, as more acts in front do no harm. -/
theorem Justified.append {needs : List Act → Act → Prop} {acts acts' : List Act}
    (hneeds : ∀ earlier before act, needs before act → needs (earlier ++ before) act)
    (hacts : Justified needs acts) (hacts' : Justified needs acts') :
    Justified needs (acts ++ acts') := by
  induction acts' using List.reverseRecOn with
  | nil =>
    rw [List.append_nil]
    exact hacts
  | append_singleton init last ih =>
    obtain ⟨hinit, hlast⟩ := justified_concat_iff.mp hacts'
    rw [← List.append_assoc, justified_concat_iff]
    exact ⟨ih hinit, hneeds acts init last hlast⟩

end Act

namespace Script

variable {σ : Type} {around : Surroundings σ} {provider : Provider}

/-! ## What a call needs before it -/

/-- The calls right before an order, for a scaffold of some sites. -/
def Needs (provider : Provider) (sites : List Site) (before : List Act) : Act → Prop
  | .makeDirectory path _ =>
    .directory path ∈ sites ∧ ∃ earlier, before = earlier ++ [.isDirectory path false]
  | .load template _ =>
    ∃ earlier path, .file template path ∈ sites ∧ before = earlier ++ [.isPresent path false]
  | .write path text _ =>
    ∃ earlier template content, .file template path ∈ sites ∧
      text = instantiate content provider ∧
      before = earlier ++ [.isPresent path false, .load template (.ok content)]
  | _ => True

theorem Needs.behind {sites : List Site} (earlier before : List Act) (act : Act)
    (hneeds : Needs provider sites before act) :
    Needs provider sites (earlier ++ before) act := by
  cases act with
  | makeDirectory path answer =>
    obtain ⟨hmem, front, rfl⟩ := hneeds
    exact ⟨hmem, earlier ++ front, (List.append_assoc _ _ _).symm⟩
  | load template answer =>
    obtain ⟨front, path, hmem, rfl⟩ := hneeds
    exact ⟨earlier ++ front, path, hmem, (List.append_assoc _ _ _).symm⟩
  | write path text answer =>
    obtain ⟨front, template, content, hmem, htext, rfl⟩ := hneeds
    exact ⟨earlier ++ front, template, content, hmem, htext, (List.append_assoc _ _ _).symm⟩
  | isDirectory | isPresent | note => trivial

theorem Visit.justified {site : Site} {sites : List Site} {state state' : σ} {acts : List Act}
    {result : Except Failure Entry} (hvisit : Visit around provider site state acts result state')
    (hsite : site ∈ sites) : Act.Justified (Needs provider sites) (Act.calls acts) := by
  have hone : ∀ act, Needs provider sites [] act →
      Act.Justified (Needs provider sites) [act] := fun act hneeds =>
    Act.justified_concat_iff.mpr ⟨.nil _, hneeds⟩
  have htwo : ∀ first second, Needs provider sites [] first → Needs provider sites [first] second →
      Act.Justified (Needs provider sites) [first, second] := fun first second hfirst hsecond =>
    Act.justified_concat_iff.mpr ⟨hone first hfirst, hsecond⟩
  have hthree : ∀ first second third, Needs provider sites [] first →
      Needs provider sites [first] second → Needs provider sites [first, second] third →
      Act.Justified (Needs provider sites) [first, second, third] :=
    fun first second third hfirst hsecond hthird =>
      Act.justified_concat_iff.mpr ⟨htwo first second hfirst hsecond, hthird⟩
  cases hvisit with
  | directoryFound => exact hone _ trivial
  | fileFound => exact hone _ trivial
  | directoryMade => exact htwo _ _ trivial ⟨hsite, [], rfl⟩
  | directoryRefused => exact htwo _ _ trivial ⟨hsite, [], rfl⟩
  | templateRefused => exact htwo _ _ trivial ⟨[], _, hsite, rfl⟩
  | fileRefused =>
    exact hthree _ _ _ trivial ⟨[], _, hsite, rfl⟩ ⟨[], _, _, hsite, rfl, rfl⟩
  | fileMade => exact hthree _ _ _ trivial ⟨[], _, hsite, rfl⟩ ⟨[], _, _, hsite, rfl, rfl⟩

theorem Tour.justified {sites tail : List Site} {state state' : σ} {acts : List Act}
    {result : Except Failure (List Entry)}
    (htour : Tour around provider tail state acts result state')
    (htail : ∀ site ∈ tail, site ∈ sites) :
    Act.Justified (Needs provider sites) (Act.calls acts) := by
  induction htour with
  | done => exact .nil _
  | stop hvisit => exact hvisit.justified (htail _ List.mem_cons_self)
  | go hvisit _ ih =>
    rw [Act.calls_append]
    apply Act.Justified.append Needs.behind
    · exact hvisit.justified (htail _ List.mem_cons_self)
    · exact ih fun site hsite => htail site (List.mem_cons_of_mem _ hsite)

/-! ## The order of the visits -/

/-- When a site has its turn. -/
def stageOf (home : Path) : Site → Nat
  | .directory path => if path = home then 0 else 1
  | .file _ _ => 2

theorem Visit.stage_eq {site : Site} {state state' : σ} {acts : List Act}
    {result : Except Failure Entry} (hvisit : Visit around provider site state acts result state')
    (home : Path) {act : Act} (hact : act ∈ Act.calls acts) :
    act.stage home = stageOf home site := by
  cases hvisit <;> simp [Act.calls] at hact <;> rcases hact with rfl | rfl | rfl <;> rfl

theorem Tour.exists_stage_eq {sites : List Site} {state state' : σ} {acts : List Act}
    {result : Except Failure (List Entry)}
    (htour : Tour around provider sites state acts result state') (home : Path) {act : Act}
    (hact : act ∈ Act.calls acts) : ∃ site ∈ sites, act.stage home = stageOf home site := by
  induction htour with
  | done => exact absurd hact List.not_mem_nil
  | stop hvisit => exact ⟨_, List.mem_cons_self, hvisit.stage_eq home hact⟩
  | go hvisit _ ih =>
    rw [Act.calls_append] at hact
    rcases List.mem_append.mp hact with hfirst | hrest
    · exact ⟨_, List.mem_cons_self, hvisit.stage_eq home hfirst⟩
    · obtain ⟨site, hsite, hstage⟩ := ih hrest
      exact ⟨site, List.mem_cons_of_mem _ hsite, hstage⟩

/-- The calls of a tour keep the order of its sites. -/
theorem Tour.pairwise_stage {sites : List Site} {state state' : σ} {acts : List Act}
    {result : Except Failure (List Entry)}
    (htour : Tour around provider sites state acts result state') {home : Path}
    (hsites : sites.Pairwise fun site later => stageOf home site ≤ stageOf home later) :
    (Act.calls acts).Pairwise fun act later => act.stage home ≤ later.stage home := by
  have hone : ∀ {site : Site} {state state' : σ} {acts : List Act} {result : Except Failure Entry},
      Visit around provider site state acts result state' →
      (Act.calls acts).Pairwise fun act later => act.stage home ≤ later.stage home := by
    intro site state state' acts result hvisit
    apply List.pairwise_of_forall_mem_list
    intro act hact later hlater
    exact Nat.le_of_eq ((hvisit.stage_eq home hact).trans (hvisit.stage_eq home hlater).symm)
  induction htour with
  | done => exact List.Pairwise.nil
  | stop hvisit => exact hone hvisit
  | go hvisit htour ih =>
    rw [Act.calls_append, List.pairwise_append]
    obtain ⟨hfirst, hrest⟩ := List.pairwise_cons.mp hsites
    refine ⟨hone hvisit, ih hrest, ?_⟩
    intro act hact later hlater
    obtain ⟨site, hsite, hstage⟩ := htour.exists_stage_eq home hlater
    rw [hvisit.stage_eq home hact, hstage]
    exact hfirst site hsite

theorem pairwise_stageOf_sites (provider : Provider) (root : Path) :
    (provider.sites root).Pairwise fun site later =>
      stageOf (provider.home root) site ≤ stageOf (provider.home root) later := by
  have hchild : ∀ text ∈ subdirectories,
      stageOf (provider.home root) (.directory ((provider.home root).child text)) = 1 := by
    intro text hmem
    exact if_neg (provider.child_home_ne_home root (List.mem_append_left _ hmem))
  have hhome : stageOf (provider.home root) (.directory (provider.home root)) = 0 := if_pos rfl
  have hstages : (provider.sites root).map (stageOf (provider.home root)) =
      [0, 1, 1, 2, 2, 2, 2] := by
    simp [Provider.sites, Provider.directories, subdirectories, Template.all, stageOf] at hchild ⊢
    exact hchild
  have hsorted : [0, 1, 1, 2, 2, 2, 2].Pairwise (· ≤ ·) := by decide
  rw [← hstages, List.pairwise_map] at hsorted
  exact hsorted

/-! ## Failures come last -/

/-- What a list of calls says of a failure: none of them failed, or the last one did. -/
def EndsWith {α : Type} (result : Except Failure α) (calls : List Act) : Prop :=
  match result with
  | .ok _ => ∀ act ∈ calls, act.failure? = none
  | .error failure => ∃ front last, calls = front ++ [last] ∧ last.failure? = some failure ∧
      ∀ act ∈ front, act.failure? = none

theorem Visit.endsWith {site : Site} {state state' : σ} {acts : List Act}
    {result : Except Failure Entry} (hvisit : Visit around provider site state acts result state') :
    EndsWith result (Act.calls acts) := by
  cases hvisit with
  | directoryFound | directoryMade | fileFound | fileMade =>
    intro act hact
    simp [Act.calls] at hact
    rcases hact with rfl | rfl | rfl <;> rfl
  | directoryRefused => exact ⟨[.isDirectory _ false], _, rfl, rfl, by simp [Act.failure?]⟩
  | templateRefused => exact ⟨[.isPresent _ false], _, rfl, rfl, by simp [Act.failure?]⟩
  | fileRefused =>
    exact ⟨[.isPresent _ false, .load _ (.ok _)], _, rfl, rfl, by simp [Act.failure?]⟩

theorem Tour.endsWith {sites : List Site} {state state' : σ} {acts : List Act}
    {result : Except Failure (List Entry)}
    (htour : Tour around provider sites state acts result state') :
    EndsWith result (Act.calls acts) := by
  induction htour with
  | done => exact fun act hact => absurd hact List.not_mem_nil
  | stop hvisit => exact hvisit.endsWith
  | @go _ _ _ _ _ acts _ _ result hvisit _ ih =>
    have hfirst := hvisit.endsWith
    rw [Act.calls_append]
    cases result with
    | ok entries =>
      intro act hact
      rcases List.mem_append.mp hact with hact | hact
      · exact hfirst act hact
      · exact ih act hact
    | error failure =>
      obtain ⟨front, last, hcalls, hlast, hfront⟩ := ih
      refine ⟨Act.calls acts ++ front, last, ?_, hlast, ?_⟩
      · rw [hcalls, List.append_assoc]
      · intro act hact
        rcases List.mem_append.mp hact with hact | hact
        · exact hfirst act hact
        · exact hfront act hact

/-! ## What the entries tell -/

/-- The calls of a visit that succeeds change the site if its entry says so, and nothing else. -/
theorem Visit.changes_eq {site : Site} {state state' : σ} {acts : List Act} {entry : Entry}
    (hvisit : Visit around provider site state acts (.ok entry) state') :
    (Act.calls acts).filterMap Act.change? =
        ([entry].filter (·.outcome = .created)).map (fun entry => (entry.path, .ok ())) ∧
      (Act.calls acts).filterMap Act.look? = [site.path] ∧
      site.Reported entry := by
  cases hvisit with
  | directoryFound | fileFound => exact ⟨rfl, rfl, .inr rfl⟩
  | directoryMade | fileMade => exact ⟨rfl, rfl, .inl rfl⟩

/-- The calls of a visit that fails change the site at most. -/
theorem Visit.changes_of_error {site : Site} {state state' : σ} {acts : List Act}
    {failure : Failure} (hvisit : Visit around provider site state acts (.error failure) state') :
    ((Act.calls acts).filterMap Act.change?).map Prod.fst <+: [site.path] ∧
      (Act.calls acts).filterMap Act.look? = [site.path] := by
  cases hvisit with
  | directoryRefused | fileRefused => exact ⟨List.prefix_refl _, rfl⟩
  | templateRefused => exact ⟨List.nil_prefix, rfl⟩

theorem Tour.changes_eq {sites : List Site} {state state' : σ} {acts : List Act}
    {entries : List Entry} (htour : Tour around provider sites state acts (.ok entries) state') :
    (Act.calls acts).filterMap Act.change? =
        (entries.filter (·.outcome = .created)).map (fun entry => (entry.path, .ok ())) ∧
      (Act.calls acts).filterMap Act.look? = sites.map Site.path ∧
      List.Forall₂ Site.Reported sites entries := by
  generalize hresult : (Except.ok entries : Except Failure (List Entry)) = result at htour
  induction htour generalizing entries with
  | done =>
    cases hresult
    exact ⟨rfl, rfl, .nil⟩
  | stop hvisit => cases hresult
  | @go _ _ _ _ _ _ _ entry result hvisit _ ih =>
    cases result with
    | error failure => cases hresult
    | ok rest =>
      cases hresult
      obtain ⟨hchanges, hlooks, hentry⟩ := hvisit.changes_eq
      obtain ⟨hrestChanges, hrestLooks, hrest⟩ := ih rfl
      rw [Act.calls_append, List.filterMap_append, List.filterMap_append, hchanges, hlooks,
        hrestChanges, hrestLooks, ← List.map_append, ← List.filter_append]
      exact ⟨rfl, rfl, .cons hentry hrest⟩

/-- A tour changes every site at most once, in the order of the sites, and looks at them in that
order too. -/
theorem Tour.changes_sublist {sites : List Site} {state state' : σ} {acts : List Act}
    {result : Except Failure (List Entry)}
    (htour : Tour around provider sites state acts result state') :
    (((Act.calls acts).filterMap Act.change?).map Prod.fst).Sublist (sites.map Site.path) ∧
      (Act.calls acts).filterMap Act.look? <+: sites.map Site.path := by
  induction htour with
  | done => exact ⟨.slnil, List.prefix_refl _⟩
  | stop hvisit =>
    obtain ⟨hchanges, hlooks⟩ := hvisit.changes_of_error
    rw [hlooks]
    exact ⟨hchanges.sublist.trans (List.singleton_sublist.mpr List.mem_cons_self),
      List.prefix_append [_] _⟩
  | @go site _ _ _ _ _ _ entry _ hvisit _ ih =>
    obtain ⟨hchanges, hlooks, hentry⟩ := hvisit.changes_eq
    have hpath : entry.path = site.path := by
      rcases hentry with rfl | rfl <;> rfl
    have hchanged : (([entry].filter (·.outcome = .created)).map fun entry =>
        (entry.path, (.ok () : Except Failure Unit))).map Prod.fst |>.Sublist [site.path] := by
      rw [List.map_map, ← hpath]
      exact (List.filter_sublist (p := (·.outcome = .created)) (l := [entry])).map Entry.path
    rw [Act.calls_append, List.filterMap_append, List.filterMap_append, hchanges, hlooks,
      List.map_append]
    exact ⟨hchanged.append ih.1, (List.prefix_append_right_inj [site.path]).mpr ih.2⟩

theorem map_entries {sites : List Site} {entries : List Entry}
    (hentries : List.Forall₂ Site.Reported sites entries) :
    entries.map (fun entry => (entry.path, entry.kind)) =
      sites.map (fun site => (site.path, site.kind)) := by
  induction hentries with
  | nil => rfl
  | cons hentry _ ih =>
    rw [List.map_cons, List.map_cons, ih]
    rcases hentry with rfl | rfl <;> rfl

theorem outcome_of_mem_entries {sites : List Site} {entries : List Entry}
    (hentries : List.Forall₂ Site.Reported sites entries) {entry : Entry}
    (hentry : entry ∈ entries) :
    entry.outcome = .created ∨ entry.outcome = .alreadyExists := by
  induction hentries with
  | nil => exact absurd hentry List.not_mem_nil
  | cons hhead _ ih =>
    rcases List.mem_cons.mp hentry with rfl | hrest
    · rcases hhead with rfl | rfl
      · exact .inl rfl
      · exact .inr rfl
    · exact ih hrest

/-- No two orders of a tour are for one place. -/
theorem Tour.changes_apart {root : Path} {state state' : σ} {acts : List Act}
    {result : Except Failure (List Entry)}
    (htour : Tour around provider (provider.sites root) state acts result state') :
    ((Act.calls acts).filterMap Act.change?).Pairwise fun change later =>
      ¬ change.1 ≈ later.1 := by
  have hsublist := htour.changes_sublist.1.map Path.components
  rw [List.map_map, List.map_map] at hsublist
  have hnodup := (provider.nodup_components_sites root).sublist hsublist
  rw [List.Nodup, List.pairwise_map] at hnodup
  exact hnodup

/-- Entries for one place are one entry. -/
theorem eq_of_path_equiv {root : Path} {entries : List Entry}
    (hpaths : entries.map (·.path) = (provider.sites root).map Site.path) {entry other : Entry}
    (hentry : entry ∈ entries) (hother : other ∈ entries) (hsame : other.path ≈ entry.path) :
    other = entry := by
  have hnodup := provider.nodup_components_sites root
  have hcomponents := congrArg (List.map Path.components) hpaths
  rw [List.map_map, List.map_map] at hcomponents
  rw [show (provider.sites root).map (fun site => site.path.components) = _ from hcomponents.symm]
    at hnodup
  exact List.inj_on_of_nodup_map hnodup hother hentry hsame

theorem Tour.entries_faithful {root : Path} {state state' : σ} {acts : List Act}
    {entries : List Entry}
    (htour : Tour around provider (provider.sites root) state acts (.ok entries) state')
    {entry : Entry} (hentry : entry ∈ entries) :
    entry.outcome ≠ .wouldCreate ∧
      (entry.outcome = .created ↔
        ∃ change ∈ (Act.calls acts).filterMap Act.change?,
          change.1 ≈ entry.path ∧ change.2 = .ok ()) ∧
      (entry.outcome = .alreadyExists ↔
        ∀ change ∈ (Act.calls acts).filterMap Act.change?, ¬ change.1 ≈ entry.path) := by
  obtain ⟨hchanges, -, hentries⟩ := htour.changes_eq
  have hpaths : entries.map (·.path) = (provider.sites root).map Site.path := by
    have hmap := congrArg (List.map Prod.fst) (map_entries hentries)
    rw [List.map_map, List.map_map] at hmap
    exact hmap
  have hcases := outcome_of_mem_entries hentries hentry
  have hchange : ∀ change ∈ (Act.calls acts).filterMap Act.change?, change.1 ≈ entry.path →
      entry.outcome = .created := by
    intro change hmem hsame
    rw [hchanges] at hmem
    obtain ⟨other, hother, rfl⟩ := List.mem_map.mp hmem
    obtain ⟨hother, hcreated⟩ := List.mem_filter.mp hother
    rw [← eq_of_path_equiv hpaths hentry hother hsame]
    exact of_decide_eq_true hcreated
  have hmade : entry.outcome = .created →
      (entry.path, .ok ()) ∈ (Act.calls acts).filterMap Act.change? := by
    intro hcreated
    rw [hchanges]
    apply List.mem_map_of_mem
    exact List.mem_filter.mpr ⟨hentry, decide_eq_true hcreated⟩
  refine ⟨?_, ⟨?_, ?_⟩, ⟨?_, ?_⟩⟩
  · intro hwould
    rw [hwould] at hcases
    rcases hcases with h | h <;> cases h
  · exact fun hcreated => ⟨_, hmade hcreated, Setoid.refl _, rfl⟩
  · intro hchange
    obtain ⟨change, hmem, hsame, -⟩ := hchange
    exact hchange change hmem hsame
  · intro hfound change hmem hsame
    rw [hchange change hmem hsame] at hfound
    cases hfound
  · intro hnone
    rcases hcases with hcreated | hfound
    · exact absurd (Setoid.refl entry.path) (hnone _ (hmade hcreated))
    · exact hfound

/-! ## Every run -/

/-- What the calls of a scaffold keep to, and how its answer goes with them. -/
structure Orderly (provider : Provider) (root : Path) (calls : List Act)
    (answer : Except Failure Report) : Prop where
  /-- A file is written where nothing was found, with the text of its template, read just now. -/
  write_justified : ∀ before path text written after,
    calls = before ++ .write path text written :: after →
    ∃ earlier template content, .file template path ∈ provider.sites root ∧
      text = instantiate content provider ∧
      before = earlier ++ [.isPresent path false, .load template (.ok content)]
  /-- A directory is made where no directory was found. -/
  makeDirectory_justified : ∀ before path made after,
    calls = before ++ .makeDirectory path made :: after →
    path ∈ provider.directories root ∧ ∃ earlier, before = earlier ++ [.isDirectory path false]
  /-- The home comes before what is in it, and the directories before the files. -/
  staged : calls.Pairwise fun call later =>
    call.stage (provider.home root) ≤ later.stage (provider.home root)
  looks_prefix : calls.filterMap Act.look? <+: (provider.sites root).map Site.path
  changes_apart : (calls.filterMap Act.change?).Pairwise fun change later =>
    ¬ change.1 ≈ later.1
  failure_last : ∀ before call after failure, calls = before ++ call :: after →
    call.failure? = some failure → after = [] ∧ answer = .error failure
  exists_failure : ∀ failure, answer = .error failure →
    ∃ before call, calls = before ++ [call] ∧ call.failure? = some failure
  report_complete : ∀ report, answer = .ok report →
    report.provider = provider ∧ report.home = provider.home root ∧
      report.entries.map (fun entry => (entry.path, entry.kind)) =
        (provider.sites root).map (fun site => (site.path, site.kind)) ∧
      calls.filterMap Act.look? = (provider.sites root).map Site.path
  /-- An entry tells what was done at its path, under any spelling of it. -/
  report_faithful : ∀ report, answer = .ok report → ∀ entry ∈ report.entries,
    entry.outcome ≠ .wouldCreate ∧
      (entry.outcome = .created ↔
        ∃ change ∈ calls.filterMap Act.change?, change.1 ≈ entry.path ∧ change.2 = .ok ()) ∧
      (entry.outcome = .alreadyExists ↔
        ∀ change ∈ calls.filterMap Act.change?, ¬ change.1 ≈ entry.path)

/-- Whatever the surroundings answer, the calls of a scaffold follow the layout, and its report
tells what they did. -/
theorem orderly_scaffold (around : Surroundings σ) (provider : Provider) (root : Path)
    (state : σ) :
    Orderly provider root (Act.calls ((scaffold provider root).exec around state).acts)
      ((scaffold provider root).exec around state).answer := by
  obtain ⟨acts, result, htour, hanswer, hcalls⟩ := exists_tour around provider root state
  rw [hanswer, hcalls]
  have hjustified := htour.justified fun _ hsite => hsite
  have hends := htour.endsWith
  constructor
  case write_justified =>
    intro before path text written after hsplit
    exact hjustified before _ after hsplit
  case makeDirectory_justified =>
    intro before path made after hsplit
    obtain ⟨hmem, hearlier⟩ := hjustified before _ after hsplit
    refine ⟨?_, hearlier⟩
    simpa [Provider.sites] using hmem
  case staged => exact htour.pairwise_stage (pairwise_stageOf_sites provider root)
  case looks_prefix => exact htour.changes_sublist.2
  case changes_apart => exact htour.changes_apart
  case failure_last =>
    intro before call after failure hsplit hfailure
    cases result with
    | ok entries =>
      have hnone := hends call (by rw [hsplit]; exact List.mem_append_right _ List.mem_cons_self)
      rw [hnone] at hfailure
      cases hfailure
    | error failure' =>
      obtain ⟨front, last, hfront, hlast, hnone⟩ := hends
      rcases List.eq_nil_or_concat after with rfl | ⟨init, final, rfl⟩
      · rw [hfront] at hsplit
        obtain ⟨-, hcall⟩ := List.append_inj' hsplit rfl
        injection hcall with hcall
        rw [← hcall, hlast] at hfailure
        exact ⟨rfl, by rw [Option.some.inj hfailure]; rfl⟩
      · rw [hfront, List.concat_eq_append, ← List.cons_append, ← List.append_assoc] at hsplit
        obtain ⟨hinit, -⟩ := List.append_inj' hsplit rfl
        have hmem : call ∈ front := by
          rw [hinit]
          exact List.mem_append_right _ List.mem_cons_self
        rw [hnone call hmem] at hfailure
        cases hfailure
  case exists_failure =>
    intro failure herror
    cases result with
    | ok entries => cases herror
    | error failure' =>
      cases herror
      obtain ⟨front, last, hfront, hlast, -⟩ := hends
      exact ⟨front, last, hfront, hlast⟩
  case report_complete =>
    intro report hok
    cases result with
    | error failure => cases hok
    | ok entries =>
      cases hok
      obtain ⟨-, hlooks, hentries⟩ := htour.changes_eq
      exact ⟨rfl, rfl, map_entries hentries, hlooks⟩
  case report_faithful =>
    intro report hok entry hentry
    cases result with
    | error failure => cases hok
    | ok entries =>
      cases hok
      exact htour.entries_faithful hentry

end Script

end Scaffolding
