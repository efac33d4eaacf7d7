import Scaffolding.Proofs.Store.Source

/-!
# Going on after a scaffold was aborted

A scaffold that stops leaves what it made, and nothing undoes it.  A second
one, with templates that the first lacked, finds what the first made and
makes the rest.

* `holds_addSites` says what the second finds, and `refusal?_addSites` that
  it is refused where a scaffold from the start is.
* `addSites_addSites` puts the two stores together, and `made_addSites` the
  paths that were made.
* `resumed_scaffold` is the result.
-/

namespace Scaffolding

/-- That a shelf has all the texts of another. -/
def Shelf.Within (shelf shelf' : Shelf) : Prop :=
  ∀ template text, shelf.text? template = some text → shelf'.text? template = some text

namespace Store

variable {store : Store} {shelf shelf' : Shelf} {provider : Provider} {root : Path} {site : Site}

/-! ## Sites and what is refused -/

theorem refusal?_of_holds {home : Path} (hholds : store.holds site = true) :
    store.refusal? shelf home site = none := by
  cases site with
  | directory path => exact if_pos hholds
  | file template path => exact if_pos hholds

/-- A site that is allowed with few templates is allowed with more. -/
theorem refusal?_of_within {home : Path} (hwithin : shelf.Within shelf')
    (hrefusal : store.refusal? shelf home site = none) :
    store.refusal? shelf' home site = none := by
  cases site with
  | directory path => exact hrefusal
  | file template path =>
    rw [← not_ne_iff, Option.ne_none_iff_exists'] at hrefusal ⊢
    rw [exists_refusal?_file_iff] at hrefusal ⊢
    rintro ⟨hmissing, hnone⟩
    refine hrefusal ⟨hmissing, ?_⟩
    cases htext : shelf.text? template with
    | none => rfl
    | some text =>
      rw [hwithin template text htext] at hnone
      cases hnone

theorem newFile?_eq_none_of_holds (hholds : store.holds site = true) :
    store.newFile? shelf provider site = none := by
  cases site with
  | directory path => rfl
  | file template path => exact if_pos hholds

theorem newDirectory?_eq_none_of_holds (hholds : store.holds site = true) :
    store.newDirectory? site = none := by
  cases site with
  | directory path => exact if_pos hholds
  | file template path => rfl

theorem newFile?_congr {store' : Store} (hsame : store'.holds site = store.holds site) :
    store'.newFile? shelf provider site = store.newFile? shelf provider site := by
  cases site with
  | directory path => rfl
  | file template path =>
    change store'.isPresent path = store.isPresent path at hsame
    rw [newFile?, newFile?, hsame]

theorem newDirectory?_congr {store' : Store} (hsame : store'.holds site = store.holds site) :
    store'.newDirectory? site = store.newDirectory? site := by
  cases site with
  | directory path =>
    change store'.isDirectory path = store.isDirectory path at hsame
    rw [newDirectory?, newDirectory?, hsame]
  | file template path => rfl

theorem newFile?_of_within {home : Path} (hwithin : shelf.Within shelf')
    (hrefusal : store.refusal? shelf home site = none) :
    store.newFile? shelf provider site = store.newFile? shelf' provider site := by
  cases site with
  | directory path => rfl
  | file template path =>
    rw [newFile?, newFile?]
    cases hpresent : store.isPresent path with
    | true => rw [if_pos rfl, if_pos rfl]
    | false =>
      cases htext : shelf.text? template with
      | none =>
        obtain ⟨failure, hsome⟩ := exists_refusal?_file_iff.mpr ⟨hpresent, htext⟩
        rw [hsome] at hrefusal
        cases hrefusal
      | some text => rw [hwithin template text htext]

/-! ## What the first scaffold leaves -/

section Left

variable {made : List Site} (hmade : made <+: provider.sites root)

include hmade

/-- The sites that were made are there. -/
theorem holds_addSites (hmem : site ∈ made)
    (hrefusal : store.refusal? shelf (provider.home root) site = none) :
    (store.addSites shelf provider made).holds site = true := by
  cases site with
  | directory path => exact isDirectory_addSites_iff.mpr (.inr ⟨path, hmem, Setoid.refl path⟩)
  | file template path =>
    apply isPresent_eq_true_iff.mpr
    cases hpresent : store.isPresent path with
    | true =>
      rcases isPresent_eq_true_iff.mp hpresent with hfile | hdirectory
      · obtain ⟨text, hread⟩ := isFile_eq_true_iff.mp hfile
        exact .inl (isFile_eq_true_iff.mpr ⟨text, read?_addSites_of_some hread⟩)
      · exact .inr (isDirectory_addSites_iff.mpr (.inl hdirectory))
    | false =>
      cases htext : shelf.text? template with
      | none =>
        have hrefused : ∃ failure, store.refusal? shelf (provider.home root) _ = some failure :=
          exists_refusal?_file_iff.mpr ⟨hpresent, htext⟩
        obtain ⟨failure, hsome⟩ := hrefused
        rw [hsome] at hrefusal
        cases hrefusal
      | some text =>
        refine .inl (isFile_eq_true_iff.mpr ⟨instantiate text provider, ?_⟩)
        exact (read?_addSites_iff hmade).mpr
          (.inr ⟨template, path, text, hmem, Setoid.refl path, hpresent, htext, rfl⟩)

section Other

variable (hsite : site ∈ provider.sites root) (hother : site ∉ made)

include hsite hother

theorem apart_of_not_mem : ∀ other ∈ made, ¬ other.path ≈ site.path := by
  intro other hmem hsame
  rw [Provider.eq_of_mem_sites (hmade.subset hmem) hsite hsame] at hmem
  exact hother hmem

/-- The other sites are as they were. -/
theorem holds_addSites_of_not_mem :
    (store.addSites shelf provider made).holds site = store.holds site := by
  have hapart := apart_of_not_mem hmade hsite hother
  exact holds_congr (isDirectory_addSites_of_apart hapart) (read?_addSites_of_apart hapart)

end Other

end Left

/-! ## What the second scaffold adds -/

section Resume

variable {made more : List Site} (hsites : made ++ more <+: provider.sites root)
  (hunrefused : ∀ site ∈ made, store.refusal? shelf (provider.home root) site = none)

include hsites

theorem not_mem_made (hmem : site ∈ more) : site ∈ provider.sites root ∧ site ∉ made := by
  have hnodup : (made ++ more).Nodup :=
    (List.Nodup.of_map _ (provider.nodup_components_sites root)).sublist hsites.sublist
  refine ⟨hsites.subset (List.mem_append_right _ hmem), ?_⟩
  intro hboth
  exact (List.nodup_append.mp hnodup).2.2 site hboth site hmem rfl

theorem holds_addSites_more (hmem : site ∈ more) :
    (store.addSites shelf provider made).holds site = store.holds site := by
  obtain ⟨hsite, hother⟩ := not_mem_made hsites hmem
  exact holds_addSites_of_not_mem ((List.prefix_append made more).trans hsites) hsite hother

include hunrefused

theorem holds_addSites_made (hmem : site ∈ made) :
    (store.addSites shelf provider made).holds site = true :=
  holds_addSites ((List.prefix_append made more).trans hsites) hmem (hunrefused site hmem)

/-- Sites that were made add nothing again, and the others add what they add at the start. -/
theorem addSites_addSites (hwithin : shelf.Within shelf') :
    (store.addSites shelf provider made).addSites shelf' provider (made ++ more) =
      store.addSites shelf' provider (made ++ more) := by
  have hholds : ∀ site ∈ made, (store.addSites shelf provider made).holds site = true :=
    fun _ => holds_addSites_made hsites hunrefused
  have hsame : ∀ site ∈ more,
      (store.addSites shelf provider made).holds site = store.holds site :=
    fun _ => holds_addSites_more hsites
  generalize hleft : store.addSites shelf provider made = left at hholds hsame
  have hfiles : left.files ++ (made ++ more).filterMap (left.newFile? shelf' provider) =
      store.files ++ (made ++ more).filterMap (store.newFile? shelf' provider) := by
    have hnone : made.filterMap (left.newFile? shelf' provider) = [] :=
      List.filterMap_eq_nil_iff.mpr fun site hmem => newFile?_eq_none_of_holds (hholds site hmem)
    have hmade : made.filterMap (store.newFile? shelf provider) =
        made.filterMap (store.newFile? shelf' provider) :=
      List.filterMap_congr fun site hmem => newFile?_of_within hwithin (hunrefused site hmem)
    have hmore : more.filterMap (left.newFile? shelf' provider) =
        more.filterMap (store.newFile? shelf' provider) :=
      List.filterMap_congr fun site hmem => newFile?_congr (hsame site hmem)
    rw [List.filterMap_append, List.filterMap_append, hnone, hmore, List.nil_append, ← hmade,
      ← List.append_assoc, ← hleft]
    rfl
  have hdirectories : left.directories ++ (made ++ more).filterMap left.newDirectory? =
      store.directories ++ (made ++ more).filterMap store.newDirectory? := by
    have hnone : made.filterMap left.newDirectory? = [] :=
      List.filterMap_eq_nil_iff.mpr fun site hmem =>
        newDirectory?_eq_none_of_holds (hholds site hmem)
    have hmore : more.filterMap left.newDirectory? = more.filterMap store.newDirectory? :=
      List.filterMap_congr fun site hmem => newDirectory?_congr (hsame site hmem)
    rw [List.filterMap_append, List.filterMap_append, hnone, hmore, List.nil_append,
      ← List.append_assoc, ← hleft]
    rfl
  unfold addSites at hleft ⊢
  rw [hfiles, hdirectories]

/-- What the first scaffold made and what is missing after it are what was missing at the start. -/
theorem made_addSites :
    made.filter (fun site => !store.holds site) ++
        (made ++ more).filter (fun site => !(store.addSites shelf provider made).holds site) =
      (made ++ more).filter fun site => !store.holds site := by
  have hnone : made.filter (fun site => !(store.addSites shelf provider made).holds site) = [] := by
    apply List.filter_eq_nil_iff.mpr
    intro site hmem
    rw [holds_addSites_made hsites hunrefused hmem]
    exact Bool.false_ne_true
  have hmore : more.filter (fun site => !(store.addSites shelf provider made).holds site) =
      more.filter fun site => !store.holds site :=
    List.filter_congr fun site hmem =>
      congrArg not (holds_addSites_more hsites hmem)
  rw [List.filter_append, List.filter_append, hnone, hmore, List.nil_append]

end Resume

/-- A scaffold is refused where it would be refused at the start. -/
theorem refusal?_addSites {made : List Site} (hmade : made <+: provider.sites root)
    (hunrefused : ∀ site ∈ made, store.refusal? shelf (provider.home root) site = none)
    (hwithin : shelf.Within shelf') (hsite : site ∈ provider.sites root) :
    (store.addSites shelf provider made).refusal? shelf' (provider.home root) site =
      store.refusal? shelf' (provider.home root) site := by
  by_cases hmem : site ∈ made
  · rw [refusal?_of_holds (holds_addSites hmade hmem (hunrefused site hmem)),
      refusal?_of_within hwithin (hunrefused site hmem)]
  · have hholds : (store.addSites shelf provider made).holds site = _ :=
      holds_addSites_of_not_mem hmade hsite hmem
    have hfile : (store.addSites shelf provider made).read? site.path = _ :=
      read?_addSites_of_apart (apart_of_not_mem hmade hsite hmem)
    cases made with
    | nil => rw [addSites_nil]
    | cons first rest =>
      have hhome : .directory (provider.home root) = first := by
        obtain ⟨after, hsites⟩ := hmade
        injection hsites with hfirst
        exact hfirst.symm
      cases site with
      | directory path =>
        change (store.addSites shelf provider _).isDirectory path = store.isDirectory path at hholds
        change (store.addSites shelf provider _).read? path = store.read? path at hfile
        have hother : path ≠ provider.home root := by
          rintro rfl
          exact hmem (hhome ▸ List.mem_cons_self)
        rw [refusal?, refusal?, isFile, isFile, hholds, hfile]
        simp only [hother, false_and, if_false]
      | file template path =>
        change (store.addSites shelf provider _).isPresent path = store.isPresent path at hholds
        rw [refusal?, refusal?, hholds]

/-! ## How far the second scaffold gets -/

section Feasible

variable (hwithin : shelf.Within shelf')

include hwithin

theorem feasible_isPrefix_of_within :
    store.feasible shelf provider root <+: store.feasible shelf' provider root := by
  obtain ⟨rest, hsites⟩ := @feasible_isPrefix store shelf provider root
  have hallows : ∀ site ∈ store.feasible shelf provider root,
      store.allows shelf' (provider.home root) site = true := by
    intro site hmem
    exact allows_iff.mpr (refusal?_of_within hwithin (refusal?_of_mem_feasible hmem))
  refine ⟨rest.takeWhile (store.allows shelf' (provider.home root)), ?_⟩
  rw [← List.takeWhile_append_of_pos hallows, hsites]
  rfl

theorem refusal?_addSites_feasible :
    ∀ site ∈ provider.sites root,
      (store.addSites shelf provider (store.feasible shelf provider root)).refusal? shelf'
          (provider.home root) site =
        store.refusal? shelf' (provider.home root) site :=
  fun _ => refusal?_addSites feasible_isPrefix (fun _ => refusal?_of_mem_feasible) hwithin

end Feasible

end Store

namespace Script

/-- A scaffold that was aborted can be resumed.  With templates among which are those of the first
scaffold, a second one comes to what it would have come to from the start. -/
theorem resumed_scaffold {first second : Template → Except Failure String}
    (hmore : ∀ template text, first template = .ok text → second template = .ok text)
    (store : Store) (shelf : Shelf) (provider : Provider) (root : Path) :
    let aborted := (scaffold provider root).exec (Memory.surroundingsFrom first)
      (.holding store shelf)
    let resumed := (scaffold provider root).exec (Memory.surroundingsFrom second) aborted.state
    let direct := (scaffold provider root).exec (Memory.surroundingsFrom second)
      (.holding store shelf)
    (∃ store', resumed.state = .holding store' shelf ∧ direct.state = .holding store' shelf) ∧
      ((∃ report, resumed.answer = .ok report) ↔ ∃ report, direct.answer = .ok report) ∧
      (∀ report, aborted.answer = .ok report → report.created = Act.made aborted.acts) ∧
      ∀ report, resumed.answer = .ok report →
        (∃ whole, direct.answer = .ok whole ∧
          Act.made aborted.acts ++ report.created = whole.created) ∧
        ∀ made ∈ Act.made aborted.acts, ∀ later ∈ report.created, ¬ made ≈ later := by
  intro aborted resumed direct
  have hwithin : (Shelf.of first).Within (.of second) := by
    intro template text htext
    exact Shelf.text?_of_iff.mpr (hmore template text (Shelf.text?_of_iff.mp htext))
  obtain ⟨hleft, hfirst, -, hcreated⟩ := exec_from_source first store shelf provider root
  obtain ⟨hend, hwhole, hok, hall⟩ := exec_from_source second store shelf provider root
  obtain ⟨hend', hrest, hok', hall'⟩ := exec_from_source second
    (store.addSites (.of first) provider (store.feasible (.of first) provider root)) shelf provider
    root
  rw [← hleft] at hend' hrest hok' hall'
  have hsame := @Store.refusal?_addSites_feasible store _ _ provider root hwithin
  rw [Store.feasible_congr hsame] at hend' hrest
  rw [Store.obstacle?_congr hsame] at hok'
  obtain ⟨more, hsplit⟩ := @Store.feasible_isPrefix_of_within store _ _ provider root hwithin
  have hsites : store.feasible (.of first) provider root ++ more <+: provider.sites root := by
    rw [hsplit]
    exact Store.feasible_isPrefix
  have hunrefused : ∀ site ∈ store.feasible (.of first) provider root, _ :=
    fun site => Store.refusal?_of_mem_feasible
  rw [← hsplit] at hend hend' hwhole hrest
  rw [Store.addSites_addSites hsites hunrefused hwithin] at hend'
  have htogether : Act.made aborted.acts ++ Act.made resumed.acts = Act.made direct.acts := by
    show Act.made _ ++ Act.made _ = Act.made _
    rw [hfirst, hrest, hwhole, ← List.map_append, Store.made_addSites hsites hunrefused]
  have hnodup : ((Act.made aborted.acts ++ Act.made resumed.acts).map Path.components).Nodup := by
    rw [htogether, hwhole, hsplit, List.map_map]
    have hsublist : ((store.feasible (.of second) provider root).filter fun site =>
        !store.holds site).Sublist (provider.sites root) :=
      List.filter_sublist.trans Store.feasible_isPrefix.sublist
    exact (provider.nodup_components_sites root).sublist (hsublist.map _)
  refine ⟨⟨_, hend', hend⟩, hok'.trans hok.symm, hcreated, ?_⟩
  intro report hreport
  obtain ⟨whole, hdirect⟩ := hok.mpr (hok'.mp ⟨report, hreport⟩)
  rw [hall' report hreport]
  refine ⟨⟨whole, hdirect, ?_⟩, ?_⟩
  · rw [hall whole hdirect]
    exact htogether
  · intro made hmade later hlater hsame
    rw [List.map_append] at hnodup
    exact (List.nodup_append.mp hnodup).2.2 _ (List.mem_map_of_mem hmade) _
      (List.mem_map_of_mem hlater) hsame

theorem resumed_scaffold_without_source :
    let first (template : Template) : Except Failure String :=
      if template = .source then .error .lockPoisoned else .ok "text"
    let second (_ : Template) : Except Failure String := .ok "text"
    let aborted := (scaffold shortNamed .empty).exec (Memory.surroundingsFrom first)
      (.holding .empty .empty)
    let resumed := (scaffold shortNamed .empty).exec (Memory.surroundingsFrom second) aborted.state
    let direct := (scaffold shortNamed .empty).exec (Memory.surroundingsFrom second)
      (.holding .empty .empty)
    (∀ template text, first template = .ok text → second template = .ok text) ∧
      aborted.answer = .error .lockPoisoned ∧
      (∃ store', resumed.state = .holding store' .empty ∧ direct.state = .holding store' .empty) ∧
      ∃ report whole, resumed.answer = .ok report ∧ direct.answer = .ok whole ∧
        Act.made aborted.acts ++ report.created = whole.created := by
  intro first second aborted resumed direct
  have hmore : ∀ template text, first template = .ok text → second template = .ok text := by
    intro template text hfirst
    simp only [first] at hfirst
    split at hfirst
    · cases hfirst
    · exact hfirst
  have haborted : aborted.answer = .error .lockPoisoned := by decide +kernel
  obtain ⟨hstate, -, -, hcreated⟩ := resumed_scaffold hmore .empty .empty shortNamed .empty
  have hresumed : ∃ report, resumed.answer = .ok report := ⟨_, rfl⟩
  obtain ⟨report, hreport⟩ := hresumed
  obtain ⟨⟨whole, hdirect, htogether⟩, -⟩ := hcreated report hreport
  exact ⟨hmore, haborted, hstate, report, whole, hreport, hdirect, htogether⟩

end Script

end Scaffolding
