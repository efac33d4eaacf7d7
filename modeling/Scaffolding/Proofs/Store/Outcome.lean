import Mathlib.Data.List.TakeWhile
import Scaffolding.Proofs.Script.Discipline
import Scaffolding.Proofs.Store.Scaffold

/-!
# How far a scaffold gets in memory

A scaffold in memory makes the sites before the first that is refused, and
that refusal is how it ends.  Both can be read off the store and the shelf
at its start.

* `Store.feasible` are the sites that it gets through, and
  `Store.obstacle?` is why it gets no further.
* `Act.made` are the paths that a run made something at.
* `exec_in_memory` puts a run together from these three.
-/

namespace Scaffolding

open Report (Entry)

/-! ## What was made -/

/-- The path at which a call made something. -/
def Act.made? : Act → Option Path
  | .makeDirectory path (.ok ()) | .write path _ (.ok ()) => some path
  | _ => none

/-- The paths at which some acts made something. -/
def Act.made (acts : List Act) : List Path := acts.filterMap made?

theorem Act.made_append (acts acts' : List Act) :
    Act.made (acts ++ acts') = Act.made acts ++ Act.made acts' :=
  List.filterMap_append

/-- Events make nothing. -/
theorem Act.made_calls (acts : List Act) : Act.made (Act.calls acts) = Act.made acts := by
  unfold Act.made Act.calls
  rw [List.filterMap_filter]
  congr 1
  funext act
  cases act <;> rfl

/-- The paths of which some entries say that something was made there. -/
def Report.createdIn (entries : List Entry) : List Path :=
  (entries.filter (·.outcome = .created)).map (·.path)

/-- The paths of which a report says that something was made there. -/
def Report.created (report : Report) : List Path := createdIn report.entries

theorem Report.createdIn_cons (entry : Entry) (entries : List Entry) :
    createdIn (entry :: entries) = createdIn [entry] ++ createdIn entries := by
  unfold createdIn
  rw [← List.map_append, ← List.filter_append, List.singleton_append]

/-- Whether a site is there. -/
def Store.holds (store : Store) : Site → Bool
  | .directory path => store.isDirectory path
  | .file _ path => store.isPresent path

theorem Store.holds_congr {store store' : Store} {site : Site}
    (hdirectory : store'.isDirectory site.path = store.isDirectory site.path)
    (hread : store'.read? site.path = store.read? site.path) :
    store'.holds site = store.holds site := by
  cases site with
  | directory path => exact hdirectory
  | file template path => exact congrArg₂ or (congrArg Option.isSome hread) hdirectory

namespace Script

variable {σ : Type} {around : Surroundings σ} {provider : Provider}

theorem Visit.made_of_ok {site : Site} {state state' : σ} {acts : List Act} {entry : Entry}
    (hvisit : Visit around provider site state acts (.ok entry) state') :
    Act.made acts = Report.createdIn [entry] := by
  cases hvisit <;> rfl

/-- A visit that fails has made nothing. -/
theorem Visit.made_of_error {site : Site} {state state' : σ} {acts : List Act} {failure : Failure}
    (hvisit : Visit around provider site state acts (.error failure) state') :
    Act.made acts = [] := by
  cases hvisit <;> rfl

/-- A tour that succeeds tells of all that it made. -/
theorem Tour.made_of_ok {sites : List Site} {state state' : σ} {acts : List Act}
    {entries : List Entry} (htour : Tour around provider sites state acts (.ok entries) state') :
    Act.made acts = Report.createdIn entries := by
  generalize hresult : (Except.ok entries : Except Failure (List Entry)) = result at htour
  induction htour generalizing entries with
  | done =>
    cases hresult
    rfl
  | stop hvisit => cases hresult
  | @go _ _ _ _ _ _ _ entry result hvisit _ ih =>
    cases result with
    | error failure => cases hresult
    | ok rest =>
      cases hresult
      rw [Act.made_append, hvisit.made_of_ok, ih rfl]
      exact (Report.createdIn_cons entry rest).symm

end Script

/-! ## What a store lets through -/

namespace Store

/-- Whether a site is not refused. -/
def allows (store : Store) (shelf : Shelf) (home : Path) (site : Site) : Bool :=
  (store.refusal? shelf home site).isNone

/-- The sites of a provider before the first that is refused. -/
def feasible (store : Store) (shelf : Shelf) (provider : Provider) (root : Path) : List Site :=
  (provider.sites root).takeWhile (store.allows shelf (provider.home root))

/-- Why the first site that is refused is refused. -/
def obstacle? (store : Store) (shelf : Shelf) (provider : Provider) (root : Path) :
    Option Failure :=
  (provider.sites root).findSome? (store.refusal? shelf (provider.home root))

variable {store : Store} {shelf : Shelf} {provider : Provider} {root : Path}

theorem allows_iff {home : Path} {site : Site} :
    store.allows shelf home site = true ↔ store.refusal? shelf home site = none :=
  Option.isNone_iff_eq_none

theorem allows_eq_false {home : Path} {site : Site} {failure : Failure}
    (hrefusal : store.refusal? shelf home site = some failure) :
    store.allows shelf home site = false := by
  unfold allows
  rw [hrefusal]
  rfl

theorem feasible_isPrefix : store.feasible shelf provider root <+: provider.sites root :=
  List.takeWhile_prefix _

theorem refusal?_of_mem_feasible {site : Site} (hmem : site ∈ store.feasible shelf provider root) :
    store.refusal? shelf (provider.home root) site = none :=
  allows_iff.mp (List.mem_takeWhile_imp hmem)

theorem feasible_of_unrefused
    (hall : ∀ site ∈ provider.sites root,
      store.refusal? shelf (provider.home root) site = none) :
    store.feasible shelf provider root = provider.sites root :=
  List.takeWhile_eq_self_iff.mpr fun site hsite => allows_iff.mpr (hall site hsite)

section Congruence

variable {store' : Store} {shelf' : Shelf}
  (hsame : ∀ site ∈ provider.sites root,
    store'.refusal? shelf' (provider.home root) site =
      store.refusal? shelf (provider.home root) site)

include hsame

theorem feasible_congr :
    store'.feasible shelf' provider root = store.feasible shelf provider root := by
  unfold feasible
  generalize provider.sites root = sites at hsame ⊢
  induction sites with
  | nil => rfl
  | cons site rest ih =>
    obtain ⟨hsite, hrest⟩ := List.forall_mem_cons.mp hsame
    have hallows : store'.allows shelf' (provider.home root) site =
        store.allows shelf (provider.home root) site := congrArg Option.isNone hsite
    rw [List.takeWhile_cons, List.takeWhile_cons, hallows, ih hrest]

theorem obstacle?_congr :
    store'.obstacle? shelf' provider root = store.obstacle? shelf provider root := by
  unfold obstacle?
  rw [← List.head?_filterMap, ← List.head?_filterMap, List.filterMap_congr hsame]

end Congruence

section Turn

variable {before after : List Site} {site : Site}
  (hsites : provider.sites root = before ++ site :: after)
  (hbefore : ∀ other ∈ before, store.refusal? shelf (provider.home root) other = none)

include hsites hbefore

theorem feasible_eq_append :
    store.feasible shelf provider root =
      before ++ (site :: after).takeWhile (store.allows shelf (provider.home root)) := by
  unfold feasible
  rw [hsites]
  exact List.takeWhile_append_of_pos fun other hother => allows_iff.mpr (hbefore other hother)

theorem feasible_of_refused {failure : Failure}
    (hrefusal : store.refusal? shelf (provider.home root) site = some failure) :
    store.feasible shelf provider root = before := by
  rw [feasible_eq_append hsites hbefore,
    List.takeWhile_cons_of_neg (by rw [allows_eq_false hrefusal]; exact Bool.false_ne_true),
    List.append_nil]

theorem obstacle?_of_refused {failure : Failure}
    (hrefusal : store.refusal? shelf (provider.home root) site = some failure) :
    store.obstacle? shelf provider root = some failure :=
  List.findSome?_eq_some_iff.mpr ⟨before, site, after, hsites, hrefusal, hbefore⟩

theorem mem_feasible_of_turn
    (hrefusal : store.refusal? shelf (provider.home root) site = none) :
    site ∈ store.feasible shelf provider root := by
  rw [feasible_eq_append hsites hbefore, List.takeWhile_cons_of_pos (allows_iff.mpr hrefusal)]
  exact List.mem_append_right _ List.mem_cons_self

end Turn

end Store

/-! ## Runs in memory -/

namespace Script

variable {store : Store} {shelf : Shelf} {provider : Provider} {root : Path}
  {before after : List Site} {acts : List Act} {memory : Memory}

/-- A visit makes something iff its site was not there at the start. -/
theorem Visit.made_in_memory {site : Site} {entry : Entry}
    (hsites : provider.sites root = before ++ site :: after)
    (hvisit : Visit Memory.surroundings provider site
      (.holding (store.addSites shelf provider before) shelf) acts (.ok entry) memory) :
    Act.made acts = ([site].filter fun site => !store.holds site).map Site.path := by
  have hlook : ∀ {there : Bool},
      Memory.surroundings.finds (.holding (store.addSites shelf provider before) shelf) site = there →
        [site].filter (fun site => !store.holds site) = if there then [] else [site] := by
    intro there hfinds
    have hholds : store.holds site = there := by
      cases site with
      | directory path => exact (Store.isDirectory_addSites_next hsites).symm.trans hfinds
      | file template path => exact (Store.isPresent_addSites_next hsites).symm.trans hfinds
    rw [List.filter_cons, hholds]
    cases there <;> rfl
  cases hvisit with
  | directoryFound hthere | directoryMade hthere | fileFound hthere | fileMade hthere =>
    rw [hlook (congrArg Prod.fst hthere)]
    rfl

/-- A tour makes what was not there, as far as it gets. -/
theorem Tour.made_in_memory {sites : List Site} {result : Except Failure (List Entry)}
    (hsites : provider.sites root = before ++ sites)
    (htour : Tour Memory.surroundings provider sites
      (.holding (store.addSites shelf provider before) shelf) acts result memory) :
    Act.made acts = ((sites.takeWhile (store.allows shelf (provider.home root))).filter fun site =>
      !store.holds site).map Site.path := by
  generalize hstate : Memory.holding (store.addSites shelf provider before) shelf = state at htour
  induction htour generalizing before with
  | done => rfl
  | @stop site rest _ _ _ failure hvisit =>
    subst hstate
    obtain ⟨-, hrefusal⟩ := hvisit.in_memory hsites
    cases hsite : store.refusal? shelf (provider.home root) site with
    | none =>
      rw [hsite] at hrefusal
      obtain ⟨⟨_, hresult⟩, -⟩ := hrefusal
      cases hresult
    | some other =>
      rw [hvisit.made_of_error, List.takeWhile_cons_of_neg
        (by rw [Store.allows_eq_false hsite]; exact Bool.false_ne_true)]
      rfl
  | @go site rest _ _ _ _ _ entry _ hvisit htour ih =>
    subst hstate
    obtain ⟨-, hrefusal⟩ := hvisit.in_memory hsites
    cases hsite : store.refusal? shelf (provider.home root) site with
    | some other =>
      rw [hsite] at hrefusal
      cases hrefusal.1
    | none =>
      rw [hsite] at hrefusal
      have hrest := ih (by rw [hsites, List.append_assoc, List.singleton_append]) hrefusal.2.symm
      rw [Act.made_append, hvisit.made_in_memory hsites, hrest,
        List.takeWhile_cons_of_pos (Store.allows_iff.mpr hsite), ← List.map_append, ← List.filter_append,
        List.singleton_append]

/-- The state, the paths and the answer that a scaffold in memory comes to. -/
theorem exec_in_memory (store : Store) (shelf : Shelf) (provider : Provider) (root : Path) :
    let run := (scaffold provider root).exec Memory.surroundings (.holding store shelf)
    run.state = .holding (store.addSites shelf provider (store.feasible shelf provider root)) shelf ∧
      Act.made run.acts =
        ((store.feasible shelf provider root).filter fun site => !store.holds site).map Site.path ∧
      match store.obstacle? shelf provider root with
      | none => ∃ report, run.answer = .ok report ∧ report.created = Act.made run.acts
      | some failure => run.answer = .error failure := by
  obtain ⟨acts, result, htour, hanswer, hcalls⟩ :=
    exists_tour Memory.surroundings provider root (.holding store shelf)
  generalize (scaffold provider root).exec Memory.surroundings _ = run at htour hanswer hcalls ⊢
  have hmade : Act.made run.acts = Act.made acts := by
    rw [← Act.made_calls, hcalls, Act.made_calls]
  have hstart : Memory.holding store shelf = .holding (store.addSites shelf provider []) shelf := by
    rw [Store.addSites_nil]
  rw [hstart] at htour
  obtain ⟨-, hcases⟩ := htour.in_memory (List.nil_append _).symm
  have hnew := htour.made_in_memory (List.nil_append _).symm
  show _ ∧ Act.made run.acts = _ ∧ _
  rw [hmade]
  rcases hcases with ⟨hall, ⟨entries, rfl⟩, hmemory⟩ |
    ⟨made, site, rest, failure, hsplit, hbefore, hrefusal, rfl, hmemory⟩
  · have hnone : store.obstacle? shelf provider root = none :=
      List.findSome?_eq_none_iff.mpr hall
    rw [hnone, Store.feasible_of_unrefused hall]
    refine ⟨hmemory, ?_, _, hanswer, htour.made_of_ok.symm⟩
    rw [← Store.feasible_of_unrefused hall]
    exact hnew
  · rw [Store.obstacle?_of_refused hsplit hbefore hrefusal,
      Store.feasible_of_refused hsplit hbefore hrefusal]
    refine ⟨hmemory, ?_, hanswer⟩
    rw [← Store.feasible_of_refused hsplit hbefore hrefusal]
    exact hnew

end Script

end Scaffolding
