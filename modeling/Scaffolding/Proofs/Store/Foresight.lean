import Scaffolding.Proofs.Provider.Separation
import Scaffolding.Proofs.Store.Shared
import Scaffolding.Proofs.Store.WellFormed

/-!
# Plans before and after a scaffold in memory

A plan looks at all seven sites of one store; a scaffold makes some between
its looks.  In memory nothing that is made at one site is seen at another,
so every look of the scaffold finds what the plan found, and a plan
afterwards differs at the sites that were made and nowhere else.

* `Fills` is what a visit does to a store, and a tour.
* `Tour.in_store` follows a tour to its end, wherever that is, and
  `exec_in_store` says the same of a run.
* `foreseen_scaffold` compares the plans before and after with the report.

The lock of the templates does not matter, and the store need not be one that
a disk could have.
-/

namespace Scaffolding

open Report (Entry Outcome)

namespace Report

/-- An entry as it is when its path is there. -/
def Entry.asFound (entry : Entry) : Entry :=
  { entry with outcome := .alreadyExists }

/-- A report as it is when all its paths are there. -/
def asFound (report : Report) : Report :=
  { report with entries := report.entries.map Entry.asFound }

/-- A report as it is when some more of its paths are there. -/
def withFound (report : Report) (paths : List Path) : Report :=
  { report with
    entries := report.entries.map fun entry => if entry.path ∈ paths then entry.asFound else entry }

/-- The paths of which a plan says that something would be made there. -/
def missing (report : Report) : List Path :=
  (report.entries.filter (·.outcome = .wouldCreate)).map (·.path)

end Report

namespace Store

variable {store store' middle : Store} {site : Site} {sites : List Site} {path : Path}

/-! ## What is said of a site -/

/-- The entry of a site, with the outcome that a missing one has. -/
def entry (store : Store) (missing : Outcome) (site : Site) : Entry :=
  site.entry (if store.holds site then .alreadyExists else missing)

variable {missing : Outcome}

theorem entry_of_holds (hholds : store.holds site = true) :
    store.entry missing site = site.entry .alreadyExists := by
  rw [entry, hholds, if_pos rfl]

theorem entry_of_missing (hmissing : store.holds site = false) :
    store.entry missing site = site.entry missing := by
  rw [entry, hmissing, if_neg Bool.false_ne_true]

theorem entry_congr (hsame : store'.holds site = store.holds site) :
    store'.entry missing site = store.entry missing site := by
  rw [entry, hsame]
  rfl

theorem createdIn_entry (store : Store) (site : Site) :
    Report.createdIn [store.entry .created site] =
      ([site].filter fun site => !store.holds site).map Site.path := by
  unfold entry
  rw [List.filter_singleton]
  cases store.holds site <;> rfl

section Reports

variable (store : Store) (provider : Provider) (home : Path) (sites : List Site)

/-- A plan foretells the report of a scaffold that finds what the plan found. -/
theorem asPlanned_created :
    Report.asPlanned ⟨provider, home, sites.map (store.entry .created)⟩ =
      ⟨provider, home, sites.map (store.entry .wouldCreate)⟩ := by
  have hentry : Entry.asPlanned ∘ store.entry .created = store.entry .wouldCreate := by
    funext site
    rw [Function.comp_apply, entry, entry]
    cases store.holds site <;> rfl
  rw [Report.asPlanned, List.map_map, hentry]

theorem isNoop_created :
    Report.isNoop ⟨provider, home, sites.map (store.entry .created)⟩ = true ↔
      ∀ site ∈ sites, store.holds site = true := by
  rw [Report.isNoop_iff, List.forall_mem_map]
  apply forall₂_congr
  intro site _
  rw [entry]
  cases store.holds site <;> simp [Site.entry]

/-- The sites of which a plan says that they would be made are those that the store lacks. -/
theorem missing_wouldCreate :
    Report.missing ⟨provider, home, sites.map (store.entry .wouldCreate)⟩ =
      (sites.filter fun site => !store.holds site).map Site.path := by
  have hpath : (fun entry : Entry => entry.path) ∘ store.entry .wouldCreate = Site.path := rfl
  have houtcome : (fun entry : Entry => decide (entry.outcome = .wouldCreate)) ∘
      store.entry .wouldCreate = fun site => !store.holds site := by
    funext site
    rw [Function.comp_apply, entry]
    cases store.holds site <;> rfl
  rw [Report.missing, List.filter_map, List.map_map, hpath, houtcome]

end Reports

/-! ## Sites that are filled -/

/-- That a store has some sites that another may lack, and is otherwise the same. -/
structure Fills (store : Store) (sites : List Site) (store' : Store) : Prop where
  holds : ∀ site ∈ sites, store'.holds site = true
  others : ∀ {other : Site}, (∀ site ∈ sites, ¬ site.path ≈ other.path) →
    store'.holds other = store.holds other
  unchanged : (∀ site ∈ sites, store.holds site = true) → store' = store

theorem fills_self (hholds : ∀ site ∈ sites, store.holds site = true) : store.Fills sites store :=
  ⟨hholds, fun _ => rfl, fun _ => rfl⟩

theorem fills_insertDirectory (hmissing : store.isDirectory path = false) :
    store.Fills [.directory path] (store.insertDirectory path) where
  holds := by
    rw [List.forall_mem_singleton]
    exact holds_insertDirectory path
  others {other} hapart := by
    have hother : ¬ path ≈ other.path := hapart _ (List.mem_singleton_self _)
    apply holds_congr
    · rw [isDirectory_insertDirectory, decide_eq_false hother, Bool.false_or]
    · rw [read?_insertDirectory]
  unchanged hall := by
    have hholds : store.isDirectory path = true := hall _ (List.mem_singleton_self _)
    rw [hmissing] at hholds
    cases hholds

theorem fills_insertFile {template : Template} (hmissing : store.isPresent path = false)
    (text : String) : store.Fills [.file template path] (store.insertFile path text) where
  holds := by
    rw [List.forall_mem_singleton]
    exact holds_insertFile template path text
  others {other} hapart := by
    have hother : ¬ path ≈ other.path := hapart _ (List.mem_singleton_self _)
    apply holds_congr
    · rw [isDirectory_insertFile]
    · rw [read?_insertFile, if_neg hother]
  unchanged hall := by
    have hholds : store.isPresent path = true := hall _ (List.mem_singleton_self _)
    rw [hmissing] at hholds
    cases hholds

/-- What was filled first is not lost, and what is filled next was as it is at the start. -/
theorem Fills.trans {others : List Site} (hfirst : store.Fills sites middle)
    (hnext : middle.Fills others store')
    (hapart : ∀ site ∈ sites, ∀ other ∈ others, ¬ site.path ≈ other.path) :
    store.Fills (sites ++ others) store' where
  holds := by
    rw [List.forall_mem_append]
    refine ⟨?_, hnext.holds⟩
    intro site hmem
    rw [hnext.others fun other hother hsame => hapart site hmem other hother (Setoid.symm hsame)]
    exact hfirst.holds site hmem
  others hother := by
    obtain ⟨hother, hother'⟩ := List.forall_mem_append.mp hother
    rw [hnext.others hother', hfirst.others hother]
  unchanged hall := by
    obtain ⟨hall, hall'⟩ := List.forall_mem_append.mp hall
    obtain rfl := hfirst.unchanged hall
    exact hnext.unchanged hall'

/-- A store that was filled is the same exactly if nothing was missing. -/
theorem Fills.eq_iff (hfills : store.Fills sites store') :
    store' = store ↔ ∀ site ∈ sites, store.holds site = true :=
  ⟨fun hsame => hsame ▸ hfills.holds, hfills.unchanged⟩

/-- A plan afterwards says that what was filled is there. -/
theorem Fills.asFound_created (hfills : store.Fills sites store') (provider : Provider)
    (home : Path) :
    Report.asFound ⟨provider, home, sites.map (store.entry .created)⟩ =
      ⟨provider, home, sites.map (store'.entry .wouldCreate)⟩ := by
  have hentries : sites.map (Entry.asFound ∘ store.entry .created) =
      sites.map (store'.entry .wouldCreate) :=
    List.map_congr_left fun site hmem => (entry_of_holds (hfills.holds site hmem)).symm
  rw [Report.asFound, List.map_map, hentries]

/-- A plan afterwards is the one before, but for the sites that were missing and are filled. -/
theorem Fills.withFound_wouldCreate {others : List Site} (hfills : store.Fills sites store')
    (hapart : ∀ site ∈ sites, ∀ other ∈ others, ¬ site.path ≈ other.path) (provider : Provider)
    (home : Path) :
    Report.withFound ⟨provider, home, (sites ++ others).map (store.entry .wouldCreate)⟩
        ((sites.filter fun site => !store.holds site).map Site.path) =
      ⟨provider, home, (sites ++ others).map (store'.entry .wouldCreate)⟩ := by
  rw [Report.withFound, Report.mk.injEq]
  refine ⟨rfl, rfl, ?_⟩
  rw [List.map_map, List.map_append, List.map_append]
  congr 1
  · apply List.map_congr_left
    intro site hmem
    rw [Function.comp_apply, entry_of_holds (hfills.holds site hmem)]
    split
    · rfl
    · next hnot =>
      apply entry_of_holds
      by_contra hmissing
      apply hnot
      exact List.mem_map_of_mem (List.mem_filter.mpr ⟨hmem, by simpa using hmissing⟩)
  · apply List.map_congr_left
    intro other hmem
    have hother : ∀ site ∈ sites, ¬ site.path ≈ other.path := fun site hsite =>
      hapart site hsite other hmem
    rw [Function.comp_apply, if_neg, entry_congr (hfills.others hother)]
    intro hfilled
    obtain ⟨site, hsite, hpath⟩ := List.mem_map.mp hfilled
    exact hother site (List.mem_filter.mp hsite).1 (hpath ▸ Setoid.refl site.path)

end Store

namespace Script

variable {store : Store} {shelf : Guarded Shelf} {provider : Provider} {memory : Memory}
  {acts : List Act} {site : Site} {sites : List Site}

/-! ## Visits and tours -/

/-- An order that goes through changes the store and nothing else, and any other changes nothing. -/
theorem order_fresh_cases {change : Store → Except Failure Store} {answer : Except Failure Unit}
    (hanswer : (Memory.mk (.fresh store) shelf).order change = (answer, memory)) :
    (∃ store', change store = .ok store' ∧ answer = .ok () ∧ memory = ⟨.fresh store', shelf⟩) ∨
      (∃ failure, answer = .error failure) ∧ memory = ⟨.fresh store, shelf⟩ := by
  rcases Memory.order_cases ⟨.fresh store, shelf⟩ change with ⟨store', hchange, hdone⟩ |
    ⟨failure, hdone⟩
  · obtain ⟨rfl, rfl⟩ := Prod.mk.inj (hdone.symm.trans hanswer)
    exact .inl ⟨store', hchange, rfl, rfl⟩
  · obtain ⟨rfl, rfl⟩ := Prod.mk.inj (hdone.symm.trans hanswer)
    exact .inr ⟨⟨failure, rfl⟩, rfl⟩

/-- A visit fills its site, or fails and makes nothing. -/
theorem Visit.in_store {result : Except Failure Entry}
    (hvisit : Visit Memory.surroundings provider site ⟨.fresh store, shelf⟩ acts result memory) :
    (∃ store', memory = ⟨.fresh store', shelf⟩ ∧ store.Fills [site] store' ∧
        result = .ok (store.entry .created site)) ∨
      (∃ failure, result = .error failure) ∧ store.holds site = false ∧
        memory = ⟨.fresh store, shelf⟩ := by
  cases hvisit with
  | directoryFound hlook | fileFound hlook =>
    obtain ⟨hholds, rfl⟩ := Prod.mk.inj hlook
    refine .inl ⟨store, rfl, Store.fills_self (List.forall_mem_singleton.mpr hholds), ?_⟩
    rw [Store.entry_of_holds]
    exact hholds
  | directoryMade hlook hmake =>
    obtain ⟨hmissing, rfl⟩ := Prod.mk.inj hlook
    rcases order_fresh_cases hmake with ⟨store', hchange, -, rfl⟩ | ⟨⟨_, hfailed⟩, -⟩
    · obtain ⟨rfl, -⟩ := Store.eq_insertDirectory_of_ok hchange
      refine .inl ⟨_, rfl, Store.fills_insertDirectory hmissing, ?_⟩
      rw [Store.entry_of_missing]
      exact hmissing
    · cases hfailed
  | directoryRefused hlook hmake =>
    obtain ⟨hmissing, rfl⟩ := Prod.mk.inj hlook
    rcases order_fresh_cases hmake with ⟨_, -, hdone, -⟩ | ⟨-, rfl⟩
    · cases hdone
    · exact .inr ⟨⟨_, rfl⟩, hmissing, rfl⟩
  | templateRefused hlook hload =>
    obtain ⟨hmissing, rfl⟩ := Prod.mk.inj hlook
    obtain ⟨-, rfl⟩ := Prod.mk.inj hload
    exact .inr ⟨⟨_, rfl⟩, hmissing, rfl⟩
  | fileRefused hlook hload hwrite =>
    obtain ⟨hmissing, rfl⟩ := Prod.mk.inj hlook
    obtain ⟨-, rfl⟩ := Prod.mk.inj hload
    rcases order_fresh_cases hwrite with ⟨_, -, hdone, -⟩ | ⟨-, rfl⟩
    · cases hdone
    · exact .inr ⟨⟨_, rfl⟩, hmissing, rfl⟩
  | fileMade hlook hload hwrite =>
    obtain ⟨hmissing, rfl⟩ := Prod.mk.inj hlook
    obtain ⟨-, rfl⟩ := Prod.mk.inj hload
    rcases order_fresh_cases hwrite with ⟨store', hchange, -, rfl⟩ | ⟨⟨_, hfailed⟩, -⟩
    · obtain ⟨rfl, -⟩ := Store.eq_insertFile_of_ok hchange
      refine .inl ⟨_, rfl, Store.fills_insertFile hmissing _, ?_⟩
      rw [Store.entry_of_missing]
      exact hmissing
    · cases hfailed

/-- A tour fills the sites before the one at which it stops, and reports what the store lacked at
the start. -/
theorem Tour.in_store {result : Except Failure (List Entry)}
    (hapart : sites.Pairwise fun site other => ¬ site.path ≈ other.path)
    (htour : Tour Memory.surroundings provider sites ⟨.fresh store, shelf⟩ acts result memory) :
    ∃ visited rest store', sites = visited ++ rest ∧ memory = ⟨.fresh store', shelf⟩ ∧
      store.Fills visited store' ∧
      Act.made acts = (visited.filter fun site => !store.holds site).map Site.path ∧
      ((rest = [] ∧ result = .ok (visited.map (store.entry .created))) ∨
        (∃ failure, result = .error failure) ∧
          ∃ site after, rest = site :: after ∧ store.holds site = false) := by
  generalize hstart : Memory.mk (.fresh store) shelf = start at htour
  induction htour generalizing store with
  | done =>
    subst hstart
    exact ⟨[], [], store, rfl, rfl, Store.fills_self (by simp), rfl, .inl ⟨rfl, rfl⟩⟩
  | @stop site rest _ _ _ failure hvisit =>
    subst hstart
    rcases hvisit.in_store with ⟨_, -, -, hresult⟩ | ⟨-, hmissing, rfl⟩
    · cases hresult
    · exact ⟨[], site :: rest, store, rfl, rfl, Store.fills_self (by simp), hvisit.made_of_error,
        .inr ⟨⟨failure, rfl⟩, site, rest, rfl, hmissing⟩⟩
  | @go site rest _ _ _ acts acts' entry result hvisit _ ih =>
    subst hstart
    obtain ⟨hhere, hrest⟩ := List.pairwise_cons.mp hapart
    rcases hvisit.in_store with ⟨middle, rfl, hfirst, hentry⟩ | ⟨⟨_, hresult⟩, -⟩
    · cases hentry
      obtain ⟨visited, after, store', rfl, rfl, hnext, hmade, hend⟩ := ih hrest rfl
      have hsame : ∀ other ∈ visited ++ after, middle.holds other = store.holds other :=
        fun other hmem => hfirst.others (List.forall_mem_singleton.mpr (hhere other hmem))
      obtain ⟨hvisited, hafter⟩ := List.forall_mem_append.mp hsame
      refine ⟨site :: visited, after, store', rfl, rfl, ?_, ?_, ?_⟩
      · apply hfirst.trans hnext
        rw [List.forall_mem_singleton]
        exact (List.forall_mem_append.mp hhere).1
      · have hmissing : visited.filter (fun other => !middle.holds other) =
            visited.filter fun other => !store.holds other :=
          List.filter_congr fun other hmem => congrArg not (hvisited other hmem)
        rw [Act.made_append, hvisit.made_of_ok, Store.createdIn_entry, hmade, hmissing,
          ← List.map_append, ← List.filter_append, List.singleton_append]
      · rcases hend with ⟨rfl, rfl⟩ | ⟨⟨failure, rfl⟩, stopped, later, rfl, hmissing⟩
        · have hentries : visited.map (middle.entry .created) =
              visited.map (store.entry .created) :=
            List.map_congr_left fun other hmem => Store.entry_congr (hvisited other hmem)
          refine .inl ⟨rfl, ?_⟩
          rw [hentries]
          rfl
        · rw [hafter stopped List.mem_cons_self] at hmissing
          exact .inr ⟨⟨failure, rfl⟩, stopped, later, rfl, hmissing⟩
    · cases hresult

/-- A scaffold fills the first of its sites, all of them unless it fails. -/
theorem exec_in_store (store : Store) (shelf : Guarded Shelf) (provider : Provider) (root : Path) :
    let run := (scaffold provider root).exec Memory.surroundings ⟨.fresh store, shelf⟩
    ∃ visited rest store', provider.sites root = visited ++ rest ∧
      run.state = ⟨.fresh store', shelf⟩ ∧ store.Fills visited store' ∧
      Act.made run.acts = (visited.filter fun site => !store.holds site).map Site.path ∧
      ((rest = [] ∧
          run.answer = .ok ⟨provider, provider.home root, visited.map (store.entry .created)⟩) ∨
        (∃ failure, run.answer = .error failure) ∧
          ∃ site after, rest = site :: after ∧ store.holds site = false) := by
  intro run
  obtain ⟨acts, result, htour, hanswer, hcalls⟩ :=
    exists_tour Memory.surroundings provider root ⟨.fresh store, shelf⟩
  have hapart := List.pairwise_map.mp (provider.pairwise_path_sites root)
  obtain ⟨visited, rest, store', hsites, hstate, hfills, hmade, hend⟩ := htour.in_store hapart
  refine ⟨visited, rest, store', hsites, hstate, hfills, ?_, ?_⟩
  · rw [← Act.made_calls, hcalls, Act.made_calls, hmade]
  · change run.answer = _ at hanswer
    rw [hanswer]
    rcases hend with ⟨rfl, rfl⟩ | ⟨⟨failure, rfl⟩, hstop⟩
    · exact .inl ⟨rfl, rfl⟩
    · exact .inr ⟨⟨failure, rfl⟩, hstop⟩

/-! ## Plans before and after -/

theorem exec_plan_in_store (store : Store) (shelf : Guarded Shelf) (provider : Provider)
    (root : Path) :
    let run := (plan provider root).exec Memory.surroundings ⟨.fresh store, shelf⟩
    run.answer = .ok ⟨provider, provider.home root,
        (provider.sites root).map (store.entry .wouldCreate)⟩ ∧
      run.state = ⟨.fresh store, shelf⟩ :=
  exec_plan provider root (fun _ => rfl) (fun _ => rfl)

/-- In a memory a plan foretells the report of a scaffold, and a plan afterwards says that
everything is there.  The scaffold reports that it made nothing exactly if it changed nothing.  If
it fails, the plan afterwards is the one before but for the sites that were made, and these are the
first of those that the plan before says would be made. -/
theorem foreseen_scaffold (store : Store) (shelf : Guarded Shelf) (provider : Provider)
    (root : Path) :
    let memory : Memory := ⟨.fresh store, shelf⟩
    let run := (scaffold provider root).exec Memory.surroundings memory
    let before := (plan provider root).exec Memory.surroundings memory
    let after := (plan provider root).exec Memory.surroundings run.state
    before.state = memory ∧ after.state = run.state ∧
      (∀ report, run.answer = .ok report →
        before.answer = .ok report.asPlanned ∧ after.answer = .ok report.asFound ∧
          (report.isNoop = true ↔ run.state = memory)) ∧
      ∀ failure, run.answer = .error failure → ∃ planned, before.answer = .ok planned ∧
        Act.made run.acts <+: planned.missing ∧ Act.made run.acts ≠ planned.missing ∧
        after.answer = .ok (planned.withFound (Act.made run.acts)) := by
  intro memory run before after
  obtain ⟨visited, rest, store', hsites, hstate, hfills, hmade, hend⟩ :=
    exec_in_store store shelf provider root
  obtain ⟨hbefore, hbefore'⟩ := exec_plan_in_store store shelf provider root
  obtain ⟨hafter, hafter'⟩ := exec_plan_in_store store' shelf provider root
  rw [← hstate] at hafter hafter'
  refine ⟨hbefore', hafter', ?_, ?_⟩
  · intro report hreport
    rcases hend with ⟨rfl, hok⟩ | ⟨⟨failure, herror⟩, -⟩
    · cases hreport.symm.trans hok
      rw [List.append_nil] at hsites
      rw [hsites] at hbefore hafter
      refine ⟨?_, ?_, ?_⟩
      · rw [Store.asPlanned_created]
        exact hbefore
      · rw [hfills.asFound_created]
        exact hafter
      · have hsame : run.state = memory ↔ store' = store := by
          rw [show run.state = ⟨.fresh store', shelf⟩ from hstate]
          exact ⟨fun heq => congrArg (·.store.value) heq, fun heq => heq ▸ rfl⟩
        rw [Store.isNoop_created, ← hfills.eq_iff, hsame]
    · cases hreport.symm.trans herror
  · intro failure hfailure
    rcases hend with ⟨-, hok⟩ | ⟨-, site, later, rfl, hmissing⟩
    · cases hfailure.symm.trans hok
    · have hapart := List.pairwise_map.mp (provider.pairwise_path_sites root)
      rw [hsites, List.pairwise_append] at hapart
      have hmade : Act.made run.acts = _ := hmade
      refine ⟨_, hbefore, ?_⟩
      rw [hmade, hsites, hfills.withFound_wouldCreate hapart.2.2, Store.missing_wouldCreate,
        List.filter_append, List.map_append, ← hsites]
      refine ⟨List.prefix_append _ _, ?_, hafter⟩
      rw [List.filter_cons_of_pos (by rw [hmissing]; rfl)]
      simp

end Script

end Scaffolding
