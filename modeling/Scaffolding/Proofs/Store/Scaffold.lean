import Scaffolding.Proofs.Provider.Layout
import Scaffolding.Proofs.Script.Tour
import Scaffolding.Store.Memory

/-!
# Making a provider in memory

In memory a scaffold can be told from the store and the shelf at its
start.  `refusal?` says which sites cannot be made, and `addSites` adds
the sites that are missing.

The invariant of a tour is that the store is `addSites` of the sites that
were visited.  It answers every later look as the first store did, because
the seven paths are apart, and once the home was visited no later site
lacks its parent.

* `Visit.in_memory` keeps the invariant over one visit, `Tour.in_memory`
  over the whole tour.
* `settled_scaffold` is the result, for every run.
-/

namespace Scaffolding

open Report (Entry)

namespace Store

/-! ## Sites in a store -/

/-- Why a site cannot be made in a store, once the sites before it were. -/
def refusal? (store : Store) (shelf : Shelf) (home : Path) : Site → Option Failure
  | .directory path =>
    if store.isDirectory path then none
    else if store.isFile path then
      some (.filesystem path "Failed to create directory: a file exists at this path")
    else if path = home ∧ store.isParentMissing path then
      some (.filesystem path "Failed to create directory: parent directory does not exist")
    else none
  | .file template path =>
    if store.isPresent path then none
    else
      match shelf.load template with
      | .ok _ => none
      | .error failure => some failure

/-- The directory that a site adds to a store. -/
def newDirectory? (store : Store) : Site → Option Path
  | .directory path => if store.isDirectory path then none else some path
  | .file _ _ => none

/-- The file that a site adds to a store. -/
def newFile? (store : Store) (shelf : Shelf) (provider : Provider) :
    Site → Option (Path × String)
  | .directory _ => none
  | .file template path =>
    if store.isPresent path then none
    else (shelf.text? template).map fun text => (path, instantiate text provider)

/-- The store with all that some sites add to it. -/
def addSites (store : Store) (shelf : Shelf) (provider : Provider) (sites : List Site) : Store where
  files := store.files ++ sites.filterMap (store.newFile? shelf provider)
  directories := store.directories ++ sites.filterMap store.newDirectory?

variable {store : Store} {shelf : Shelf} {provider : Provider} {root : Path}

theorem newDirectory?_eq_some_iff {site : Site} {path : Path} :
    store.newDirectory? site = some path ↔
      site = .directory path ∧ store.isDirectory path = false := by
  cases site with
  | file template other => simp [newDirectory?]
  | directory other =>
    rw [newDirectory?, Option.ite_none_left_eq_some]
    constructor
    · intro hnew
      obtain ⟨hmissing, hpath⟩ := hnew
      cases hpath
      exact ⟨rfl, Bool.eq_false_iff.mpr hmissing⟩
    · intro hsite
      obtain ⟨hpath, hmissing⟩ := hsite
      cases hpath
      exact ⟨Bool.eq_false_iff.mp hmissing, rfl⟩

theorem newFile?_eq_some_iff {site : Site} {path : Path} {content : String} :
    store.newFile? shelf provider site = some (path, content) ↔
      ∃ template text, site = .file template path ∧ store.isPresent path = false ∧
        shelf.text? template = some text ∧ content = instantiate text provider := by
  cases site with
  | directory other => simp [newFile?]
  | file template other =>
    rw [newFile?, Option.ite_none_left_eq_some, Option.map_eq_some_iff]
    constructor
    · intro hnew
      obtain ⟨hmissing, text, htext, hfile⟩ := hnew
      cases hfile
      exact ⟨template, text, rfl, Bool.eq_false_iff.mpr hmissing, htext, rfl⟩
    · intro hsite
      obtain ⟨_, text, hsite, hmissing, htext, rfl⟩ := hsite
      cases hsite
      exact ⟨Bool.eq_false_iff.mp hmissing, text, htext, rfl⟩

theorem isFile_eq_true_iff {path : Path} :
    store.isFile path = true ↔ ∃ text, store.read? path = some text :=
  Option.isSome_iff_exists

theorem isPresent_eq_true_iff {path : Path} :
    store.isPresent path = true ↔ store.isFile path = true ∨ store.isDirectory path = true := by
  unfold isPresent
  rw [Bool.or_eq_true]

theorem isParentMissing_eq_true_iff {path : Path} :
    store.isParentMissing path = true ↔
      ∃ parent, path.parent? = some parent ∧ parent ≠ .empty ∧
        store.isDirectory parent = false := by
  unfold isParentMissing
  cases path.parent? with
  | none => simp
  | some parent => simp

theorem exists_refusal?_directory_iff {home path : Path} :
    (∃ failure, store.refusal? shelf home (.directory path) = some failure) ↔
      store.isDirectory path = false ∧
        (store.isFile path = true ∨ path = home ∧ store.isParentMissing path = true) := by
  rw [refusal?]
  cases store.isDirectory path with
  | true => simp
  | false =>
    cases store.isFile path with
    | true => simp
    | false => simp

theorem exists_refusal?_file_iff {home path : Path} {template : Template} :
    (∃ failure, store.refusal? shelf home (.file template path) = some failure) ↔
      store.isPresent path = false ∧ shelf.text? template = none := by
  rw [refusal?]
  unfold Shelf.load
  cases store.isPresent path with
  | true => simp
  | false =>
    cases shelf.text? template with
    | none => simp
    | some text => simp

theorem eq_filesystem_of_refusal? {home path : Path} {failure : Failure}
    (hrefusal : store.refusal? shelf home (.directory path) = some failure) :
    ∃ reason, failure = .filesystem path reason := by
  rw [refusal?] at hrefusal
  split at hrefusal
  · cases hrefusal
  · split at hrefusal
    · cases hrefusal
      exact ⟨_, rfl⟩
    · split at hrefusal
      · cases hrefusal
        exact ⟨_, rfl⟩
      · cases hrefusal

theorem eq_templateUnavailable_of_refusal? {home path : Path} {template : Template}
    {failure : Failure}
    (hrefusal : store.refusal? shelf home (.file template path) = some failure) :
    ∃ location reason, failure = .templateUnavailable template.fileName location reason := by
  obtain ⟨hmissing, hnone⟩ := exists_refusal?_file_iff.mp ⟨failure, hrefusal⟩
  rw [refusal?, hmissing, if_neg Bool.false_ne_true] at hrefusal
  unfold Shelf.load at hrefusal
  rw [hnone] at hrefusal
  cases hrefusal
  exact ⟨_, _, rfl⟩

/-- What keeps one of the seven sites of a provider from being made. -/
theorem exists_refusal?_sites_iff :
    (∃ site ∈ provider.sites root, ∃ failure,
        store.refusal? shelf (provider.home root) site = some failure) ↔
      store.isDirectory (provider.home root) = false ∧
          (store.isFile (provider.home root) = true ∨
            ∃ parent, (provider.home root).parent? = some parent ∧ parent ≠ .empty ∧
              store.isDirectory parent = false) ∨
        (∃ text ∈ subdirectories, store.isFile ((provider.home root).child text) = true ∧
          store.isDirectory ((provider.home root).child text) = false) ∨
        ∃ template, store.isPresent (provider.file root template) = false ∧
          shelf.text? template = none := by
  constructor
  · intro hrefused
    obtain ⟨site, hsite, hrefusal⟩ := hrefused
    rcases List.mem_append.mp hsite with hdirectory | hfile
    · obtain ⟨path, hpath, rfl⟩ := List.mem_map.mp hdirectory
      obtain ⟨hmissing, hblocked⟩ := exists_refusal?_directory_iff.mp hrefusal
      rcases List.mem_cons.mp hpath with rfl | hsub
      · refine .inl ⟨hmissing, ?_⟩
        rcases hblocked with hblocked | ⟨-, hparent⟩
        · exact .inl hblocked
        · exact .inr (isParentMissing_eq_true_iff.mp hparent)
      · obtain ⟨text, htext, rfl⟩ := List.mem_map.mp hsub
        rcases hblocked with hblocked | ⟨hhome, -⟩
        · exact .inr (.inl ⟨text, htext, hblocked, hmissing⟩)
        · exact absurd hhome
            (provider.child_home_ne_home root (List.mem_append_left _ htext))
    · obtain ⟨template, -, rfl⟩ := List.mem_map.mp hfile
      exact .inr (.inr ⟨template, exists_refusal?_file_iff.mp hrefusal⟩)
  · have hdirectory : ∀ path ∈ provider.directories root, .directory path ∈ provider.sites root :=
      fun path hpath => List.mem_append_left _ (List.mem_map_of_mem hpath)
    intro hkept
    rcases hkept with ⟨hmissing, hblocked⟩ | ⟨text, htext, hblocked, hmissing⟩ |
      ⟨template, hmissing, hnone⟩
    · refine ⟨_, hdirectory _ List.mem_cons_self, exists_refusal?_directory_iff.mpr ⟨hmissing, ?_⟩⟩
      rcases hblocked with hblocked | hparent
      · exact .inl hblocked
      · exact .inr ⟨rfl, isParentMissing_eq_true_iff.mpr hparent⟩
    · have hmem := List.mem_cons_of_mem (provider.home root)
        (List.mem_map_of_mem (f := (provider.home root).child) htext)
      exact ⟨_, hdirectory _ hmem, exists_refusal?_directory_iff.mpr ⟨hmissing, .inl hblocked⟩⟩
    · exact ⟨_, List.mem_append_right _ (List.mem_map_of_mem template.mem_all),
        exists_refusal?_file_iff.mpr ⟨hmissing, hnone⟩⟩

theorem addSites_nil : store.addSites shelf provider [] = store := by
  unfold addSites
  rw [List.filterMap_nil, List.filterMap_nil, List.append_nil, List.append_nil]

theorem isDirectory_addSites_iff {sites : List Site} {path : Path} :
    (store.addSites shelf provider sites).isDirectory path = true ↔
      store.isDirectory path = true ∨ ∃ made, .directory made ∈ sites ∧ made ≈ path := by
  have hany : (store.addSites shelf provider sites).isDirectory path = true ↔
      store.isDirectory path = true ∨
        ∃ made ∈ sites.filterMap store.newDirectory?, made ≈ path := by
    unfold isDirectory addSites
    rw [List.any_append, Bool.or_eq_true, @List.any_eq_true _ _ (sites.filterMap _)]
    simp only [decide_eq_true_eq]
  rw [hany]
  constructor
  · intro hthere
    rcases hthere with hold | ⟨made, hmem, hsame⟩
    · exact .inl hold
    · obtain ⟨site, hsite, hnew⟩ := List.mem_filterMap.mp hmem
      obtain ⟨rfl, -⟩ := newDirectory?_eq_some_iff.mp hnew
      exact .inr ⟨made, hsite, hsame⟩
  · intro hthere
    rcases hthere with hold | ⟨made, hmem, hsame⟩
    · exact .inl hold
    · cases hthere : store.isDirectory made with
      | true =>
        rw [isDirectory_congr store hsame] at hthere
        exact .inl hthere
      | false =>
        have hnew := newDirectory?_eq_some_iff.mpr ⟨rfl, hthere⟩
        exact .inr ⟨made, List.mem_filterMap.mpr ⟨_, hmem, hnew⟩, hsame⟩

/-- Sites elsewhere do not change what is read at a path. -/
theorem read?_addSites_of_apart {sites : List Site} {path : Path}
    (hapart : ∀ site ∈ sites, ¬ site.path ≈ path) :
    (store.addSites shelf provider sites).read? path = store.read? path := by
  have hnone : (sites.filterMap (store.newFile? shelf provider)).find?
      (fun file => decide (file.1 ≈ path)) = none := by
    rw [List.find?_eq_none]
    rintro ⟨made, content⟩ hfile
    obtain ⟨site, hsite, hnew⟩ := List.mem_filterMap.mp hfile
    obtain ⟨template, text, rfl, -⟩ := newFile?_eq_some_iff.mp hnew
    exact fun hsame => hapart _ hsite (of_decide_eq_true hsame)
  unfold read? addSites
  rw [List.find?_append, hnone, Option.or_none]

theorem isDirectory_addSites_of_apart {sites : List Site} {path : Path}
    (hapart : ∀ site ∈ sites, ¬ site.path ≈ path) :
    (store.addSites shelf provider sites).isDirectory path = store.isDirectory path := by
  rw [Bool.eq_iff_iff, isDirectory_addSites_iff]
  constructor
  · intro hthere
    rcases hthere with hold | ⟨made, hmem, hsame⟩
    · exact hold
    · exact absurd hsame (hapart _ hmem)
  · exact .inl

/-- A file stays as it is when sites are added. -/
theorem read?_addSites_of_some {sites : List Site} {path : Path} {text : String}
    (hread : store.read? path = some text) :
    (store.addSites shelf provider sites).read? path = some text := by
  obtain ⟨file, hfile, htext⟩ := Option.map_eq_some_iff.mp hread
  unfold read? addSites
  rw [List.find?_append, hfile, Option.some_or, Option.map_some, htext]

/-! ## The next site -/

theorem addSites_concat_of_found {sites : List Site} {site : Site}
    (hdirectory : store.newDirectory? site = none)
    (hfile : store.newFile? shelf provider site = none) :
    store.addSites shelf provider (sites ++ [site]) = store.addSites shelf provider sites := by
  unfold addSites
  rw [List.filterMap_append, List.filterMap_append, List.filterMap_cons_none hdirectory,
    List.filterMap_cons_none hfile, List.filterMap_nil, List.append_nil, List.filterMap_nil,
    List.append_nil]

theorem addSites_concat_directory {sites : List Site} {path : Path}
    (hmissing : store.isDirectory path = false)
    (hsame : (store.addSites shelf provider sites).isDirectory path = store.isDirectory path) :
    store.addSites shelf provider (sites ++ [.directory path]) =
      (store.addSites shelf provider sites).insertDirectory path := by
  have hnew : store.newDirectory? (.directory path) = some path :=
    newDirectory?_eq_some_iff.mpr ⟨rfl, hmissing⟩
  unfold insertDirectory
  rw [hsame, hmissing, if_neg Bool.false_ne_true]
  unfold addSites
  rw [List.filterMap_append, List.filterMap_append, List.filterMap_cons_some hnew,
    List.filterMap_cons_none rfl, List.filterMap_nil, List.append_nil, List.filterMap_nil,
    List.append_assoc]

theorem addSites_concat_file {sites : List Site} {template : Template} {path : Path}
    {text : String} (hmissing : store.isPresent path = false)
    (htext : shelf.text? template = some text)
    (hsame : (store.addSites shelf provider sites).isFile path = store.isFile path) :
    store.addSites shelf provider (sites ++ [.file template path]) =
      (store.addSites shelf provider sites).insertFile path (instantiate text provider) := by
  have hnew : store.newFile? shelf provider (.file template path) =
      some (path, instantiate text provider) :=
    newFile?_eq_some_iff.mpr ⟨template, text, rfl, hmissing, htext, rfl⟩
  have hfree : store.isFile path = false := (Bool.or_eq_false_iff.mp hmissing).1
  unfold insertFile
  rw [hsame, hfree, if_neg Bool.false_ne_true]
  unfold addSites
  rw [List.filterMap_append, List.filterMap_append, List.filterMap_cons_some hnew,
    List.filterMap_cons_none rfl, List.filterMap_nil, List.filterMap_nil, List.append_nil,
    List.append_assoc]

/-- An entry of a home that is there does not lack its parent. -/
theorem isParentMissing_child_home {text : String} (hmem : text ∈ provider.entryNames)
    (hhome : store.isDirectory (provider.home root) = true) :
    store.isParentMissing ((provider.home root).child text) = false := by
  obtain ⟨parent, hparent, hsame⟩ := provider.exists_parent?_child_home root hmem
  unfold isParentMissing
  rw [hparent]
  simp only
  rw [isDirectory_congr store hsame, hhome, Bool.not_true, Bool.and_false]

section Next

variable {before after : List Site} {site : Site}

theorem isDirectory_addSites_next (hsites : provider.sites root = before ++ site :: after) :
    (store.addSites shelf provider before).isDirectory site.path = store.isDirectory site.path :=
  isDirectory_addSites_of_apart (Provider.apart_of_sites_eq hsites)

theorem isFile_addSites_next (hsites : provider.sites root = before ++ site :: after) :
    (store.addSites shelf provider before).isFile site.path = store.isFile site.path := by
  unfold isFile
  rw [read?_addSites_of_apart (Provider.apart_of_sites_eq hsites)]

theorem isPresent_addSites_next (hsites : provider.sites root = before ++ site :: after) :
    (store.addSites shelf provider before).isPresent site.path = store.isPresent site.path := by
  unfold isPresent
  rw [isFile_addSites_next hsites, isDirectory_addSites_next hsites]

/-- Only the home can lack its parent when it has its turn. -/
theorem isParentMissing_addSites_next (hsites : provider.sites root = before ++ site :: after) :
    (store.addSites shelf provider before).isParentMissing site.path =
      (decide (site.path = provider.home root) && store.isParentMissing site.path) := by
  rcases Provider.cases_of_sites_eq hsites with ⟨rfl, rfl⟩ | ⟨hhome, text, hmem, hpath⟩
  · have hself : decide ((Site.directory (provider.home root)).path = provider.home root) = true :=
      decide_eq_true rfl
    rw [addSites_nil, hself, Bool.true_and]
  · have hthere : (store.addSites shelf provider before).isDirectory (provider.home root) = true :=
      isDirectory_addSites_iff.mpr (.inr ⟨_, hhome, Setoid.refl _⟩)
    rw [hpath, isParentMissing_child_home hmem hthere,
      decide_eq_false (provider.child_home_ne_home root hmem), Bool.false_and]

theorem makeDirectory_addSites_next {path : Path}
    (hsites : provider.sites root = before ++ .directory path :: after) :
    (store.addSites shelf provider before).makeDirectory path =
      match store.refusal? shelf (provider.home root) (.directory path) with
      | none => .ok (store.addSites shelf provider (before ++ [.directory path]))
      | some failure => .error failure := by
  have hdirectory : (store.addSites shelf provider before).isDirectory path =
      store.isDirectory path := isDirectory_addSites_next hsites
  have hfile : (store.addSites shelf provider before).isFile path = store.isFile path :=
    isFile_addSites_next hsites
  have hparent : (store.addSites shelf provider before).isParentMissing path =
      (decide (path = provider.home root) && store.isParentMissing path) :=
    isParentMissing_addSites_next hsites
  unfold makeDirectory
  rw [refusal?, hdirectory, hfile, hparent]
  cases hthere : store.isDirectory path with
  | true =>
    have hsame : store.newDirectory? (.directory path) = none := if_pos hthere
    rw [if_pos rfl, if_pos rfl, addSites_concat_of_found hsame rfl]
  | false =>
    rw [if_neg Bool.false_ne_true, if_neg Bool.false_ne_true]
    by_cases hblocked : store.isFile path = true
    · rw [if_pos hblocked, if_pos hblocked]
    · rw [if_neg hblocked, if_neg hblocked]
      by_cases hlacks : path = provider.home root ∧ store.isParentMissing path = true
      · rw [if_pos hlacks, if_pos (by rw [decide_eq_true hlacks.1, hlacks.2]; rfl)]
      · rw [if_neg hlacks, if_neg (by rwa [Bool.and_eq_true, decide_eq_true_eq])]
        rw [addSites_concat_directory hthere hdirectory]

theorem write_addSites_next {template : Template} {path : Path} {text : String}
    (hsites : provider.sites root = before ++ .file template path :: after)
    (hmissing : store.isPresent path = false) (htext : shelf.text? template = some text) :
    (store.addSites shelf provider before).write path (instantiate text provider) =
      .ok (store.addSites shelf provider (before ++ [.file template path])) := by
  have hdirectory : (store.addSites shelf provider before).isDirectory path =
      store.isDirectory path := isDirectory_addSites_next hsites
  have hfile : (store.addSites shelf provider before).isFile path = store.isFile path :=
    isFile_addSites_next hsites
  have hparent : (store.addSites shelf provider before).isParentMissing path =
      (decide (path = provider.home root) && store.isParentMissing path) :=
    isParentMissing_addSites_next hsites
  have hother : path ≠ provider.home root :=
    Provider.ne_home_of_file_mem (Provider.mem_of_sites_eq hsites)
  unfold write
  rw [hparent, decide_eq_false hother, hdirectory, (Bool.or_eq_false_iff.mp hmissing).2,
    Bool.false_and, Bool.or_false, if_neg Bool.false_ne_true,
    addSites_concat_file hmissing htext hfile]

end Next

/-! ## What a store gains -/

section Gain

variable {sites : List Site}

/-- Sites of a provider add a file each, at the targets where there was nothing. -/
theorem read?_addSites_iff (hsites : sites <+: provider.sites root) {path : Path} {text : String} :
    (store.addSites shelf provider sites).read? path = some text ↔
      store.read? path = some text ∨
        ∃ template target source, .file template target ∈ sites ∧ target ≈ path ∧
          store.isPresent target = false ∧ shelf.text? template = some source ∧
          text = instantiate source provider := by
  constructor
  · intro hread
    obtain ⟨⟨made, content⟩, hfind, rfl⟩ := Option.map_eq_some_iff.mp hread
    unfold addSites at hfind
    rw [List.find?_append] at hfind
    rcases Option.or_eq_some_iff.mp hfind with hold | ⟨-, hnew⟩
    · exact .inl (Option.map_eq_some_iff.mpr ⟨_, hold, rfl⟩)
    · obtain ⟨site, hsite, hfile⟩ := List.mem_filterMap.mp (List.mem_of_find?_eq_some hnew)
      obtain ⟨template, source, rfl, hmissing, hsource, htext⟩ := newFile?_eq_some_iff.mp hfile
      have hfound := List.find?_some hnew
      exact .inr ⟨template, made, source, hsite, of_decide_eq_true hfound, hmissing, hsource, htext⟩
  · intro hthere
    rcases hthere with hold | ⟨template, target, source, hsite, hsame, hmissing, hsource, rfl⟩
    · exact read?_addSites_of_some hold
    · have hfile : (target, instantiate source provider) ∈
          sites.filterMap (store.newFile? shelf provider) :=
        List.mem_filterMap.mpr
          ⟨_, hsite, newFile?_eq_some_iff.mpr ⟨_, _, rfl, hmissing, hsource, rfl⟩⟩
      have hfree : store.files.find? (fun file => decide (file.1 ≈ path)) = none := by
        have hnone := (Bool.or_eq_false_iff.mp hmissing).1
        unfold isFile at hnone
        rw [read?_congr store hsame, Option.isSome_eq_false_iff] at hnone
        exact Option.map_eq_none_iff.mp (Option.isNone_iff_eq_none.mp hnone)
      unfold read? addSites
      rw [List.find?_append, hfree, Option.none_or]
      cases hfind : (sites.filterMap (store.newFile? shelf provider)).find?
          fun file => decide (file.1 ≈ path) with
      | none => exact absurd (decide_eq_true hsame) (List.find?_eq_none.mp hfind _ hfile)
      | some found =>
        -- Whatever is found comes from a site at the same place, and there is only one.
        obtain ⟨site, hother, hnew⟩ := List.mem_filterMap.mp (List.mem_of_find?_eq_some hfind)
        obtain ⟨template', source', rfl, -, hsource', htext⟩ := newFile?_eq_some_iff.mp hnew
        have hfound := List.find?_some hfind
        have hplace : found.1 ≈ target :=
          Setoid.trans (of_decide_eq_true hfound) (Setoid.symm hsame)
        have heq : Site.file template' found.1 = .file template target :=
          Provider.eq_of_mem_sites (hsites.subset hother) (hsites.subset hsite) hplace
        injection heq with htemplate _
        rw [htemplate, hsource] at hsource'
        rw [Option.map_some, htext, Option.some.inj hsource']

/-- That a store has become another by gaining some sites: each path keeps what it had, and only the
sites are new. -/
structure Gains (store : Store) (shelf : Shelf) (provider : Provider) (sites : List Site)
    (store' : Store) : Prop where
  files_eq : store'.files = store.files ++ sites.filterMap (store.newFile? shelf provider)
  directories_eq : store'.directories = store.directories ++ sites.filterMap store.newDirectory?
  isDirectory_iff : ∀ path, store'.isDirectory path = true ↔
    store.isDirectory path = true ∨ ∃ made, .directory made ∈ sites ∧ made ≈ path
  read?_iff : ∀ path text, store'.read? path = some text ↔
    store.read? path = some text ∨
      ∃ template target source, .file template target ∈ sites ∧ target ≈ path ∧
        store.isPresent target = false ∧ shelf.text? template = some source ∧
        text = instantiate source provider

theorem gains_addSites (hsites : sites <+: provider.sites root) :
    store.Gains shelf provider sites (store.addSites shelf provider sites) where
  files_eq := rfl
  directories_eq := rfl
  isDirectory_iff _ := isDirectory_addSites_iff
  read?_iff _ _ := read?_addSites_iff hsites

end Gain

end Store

/-! ## The tour in memory -/

namespace Memory

/-- The memory of a store and a shelf with sound locks. -/
def holding (store : Store) (shelf : Shelf) : Memory := ⟨.fresh store, .fresh shelf⟩

variable {store store' : Store} {shelf : Shelf} {failure : Failure}

theorem order_holding_ok {change : Store → Except Failure Store}
    (hchange : change store = .ok store') :
    (holding store shelf).order change = (.ok (), holding store' shelf) := by
  have hview : (holding store shelf).store.view? change = some (.ok store') := by
    show some (change store) = _
    rw [hchange]
  unfold order
  rw [hview]
  rfl

theorem order_holding_error {change : Store → Except Failure Store}
    (hchange : change store = .error failure) :
    (holding store shelf).order change = (.error failure, holding store shelf) := by
  have hview : (holding store shelf).store.view? change = some (.error failure) := by
    show some (change store) = _
    rw [hchange]
  unfold order
  rw [hview]

theorem makeDirectory_next {provider : Provider} {root path : Path} {before after : List Site}
    (hsites : provider.sites root = before ++ .directory path :: after) :
    surroundings.makeDirectory path (holding (store.addSites shelf provider before) shelf) =
      match store.refusal? shelf (provider.home root) (.directory path) with
      | none =>
        (.ok (), holding (store.addSites shelf provider (before ++ [.directory path])) shelf)
      | some failure =>
        (.error failure, holding (store.addSites shelf provider before) shelf) := by
  have horder := @Store.makeDirectory_addSites_next store shelf _ _ _ _ _ hsites
  cases hrefusal : store.refusal? shelf (provider.home root) (.directory path) with
  | none =>
    rw [hrefusal] at horder
    exact order_holding_ok horder
  | some failure =>
    rw [hrefusal] at horder
    exact order_holding_error horder

end Memory

theorem Shelf.load_eq_ok_iff {shelf : Shelf} {template : Template} {text : String} :
    shelf.load template = .ok text ↔ shelf.text? template = some text := by
  unfold load
  cases shelf.text? template with
  | none => simp
  | some other => simp

namespace Script

variable {store : Store} {shelf : Shelf} {provider : Provider} {root : Path}
  {before after : List Site} {acts : List Act} {memory : Memory}

/-- One visit adds its site to the store, or fails and changes nothing.  A write never fails, since
the look before it and the visit of the home left nothing to refuse. -/
theorem Visit.in_memory {site : Site} {result : Except Failure Entry}
    (hsites : provider.sites root = before ++ site :: after)
    (hvisit : Visit Memory.surroundings provider site
      (.holding (store.addSites shelf provider before) shelf) acts result memory) :
    (∀ path text failure, .write path text (.error failure) ∉ acts) ∧
      match store.refusal? shelf (provider.home root) site with
      | none => (∃ entry, result = .ok entry) ∧
          memory = .holding (store.addSites shelf provider (before ++ [site])) shelf
      | some failure => result = .error failure ∧
          memory = .holding (store.addSites shelf provider before) shelf := by
  cases hvisit with
  | @directoryFound path _ _ hlook =>
    obtain ⟨hthere, rfl⟩ := Prod.mk.inj hlook
    have hold : store.isDirectory path = true :=
      (Store.isDirectory_addSites_next hsites).symm.trans hthere
    have hsame : store.newDirectory? (.directory path) = none := if_pos hold
    refine ⟨by simp, ?_⟩
    rw [Store.refusal?, if_pos hold, Store.addSites_concat_of_found hsame rfl]
    exact ⟨⟨_, rfl⟩, rfl⟩
  | @directoryMade path _ _ _ hlook hmake =>
    obtain ⟨-, rfl⟩ := Prod.mk.inj hlook
    rw [Memory.makeDirectory_next hsites] at hmake
    refine ⟨by simp, ?_⟩
    cases hrefusal : store.refusal? shelf (provider.home root) (.directory path) with
    | none =>
      rw [hrefusal] at hmake
      obtain ⟨-, rfl⟩ := Prod.mk.inj hmake
      exact ⟨⟨_, rfl⟩, rfl⟩
    | some failure =>
      rw [hrefusal] at hmake
      cases (Prod.mk.inj hmake).1
  | @directoryRefused path _ _ _ failure hlook hmake =>
    obtain ⟨-, rfl⟩ := Prod.mk.inj hlook
    rw [Memory.makeDirectory_next hsites] at hmake
    refine ⟨by simp, ?_⟩
    cases hrefusal : store.refusal? shelf (provider.home root) (.directory path) with
    | none =>
      rw [hrefusal] at hmake
      cases (Prod.mk.inj hmake).1
    | some other =>
      rw [hrefusal] at hmake
      obtain ⟨hfailure, rfl⟩ := Prod.mk.inj hmake
      injection hfailure with hfailure
      rw [hfailure]
      exact ⟨rfl, rfl⟩
  | @fileFound template path _ _ hlook =>
    obtain ⟨hthere, rfl⟩ := Prod.mk.inj hlook
    have hold : store.isPresent path = true :=
      (Store.isPresent_addSites_next hsites).symm.trans hthere
    have hsame : store.newFile? shelf provider (.file template path) = none := if_pos hold
    refine ⟨by simp, ?_⟩
    rw [Store.refusal?, if_pos hold, Store.addSites_concat_of_found rfl hsame]
    exact ⟨⟨_, rfl⟩, rfl⟩
  | @templateRefused template path _ _ _ failure hlook hload =>
    obtain ⟨hthere, rfl⟩ := Prod.mk.inj hlook
    obtain ⟨hfailure, rfl⟩ := Prod.mk.inj hload
    have hold : store.isPresent path = false :=
      (Store.isPresent_addSites_next hsites).symm.trans hthere
    have hanswer : shelf.load template = .error failure := hfailure
    refine ⟨by simp, ?_⟩
    rw [Store.refusal?, hold, if_neg Bool.false_ne_true, hanswer]
    exact ⟨rfl, rfl⟩
  | @fileRefused template path _ _ _ _ text failure hlook hload hwrite =>
    obtain ⟨hthere, rfl⟩ := Prod.mk.inj hlook
    obtain ⟨htext, rfl⟩ := Prod.mk.inj hload
    have hold : store.isPresent path = false :=
      (Store.isPresent_addSites_next hsites).symm.trans hthere
    have horder := Store.write_addSites_next hsites hold (Shelf.load_eq_ok_iff.mp htext)
    have hanswer := (Memory.order_holding_ok horder).symm.trans hwrite
    cases (Prod.mk.inj hanswer).1
  | @fileMade template path _ _ _ _ text hlook hload hwrite =>
    obtain ⟨hthere, rfl⟩ := Prod.mk.inj hlook
    obtain ⟨htext, rfl⟩ := Prod.mk.inj hload
    have hold : store.isPresent path = false :=
      (Store.isPresent_addSites_next hsites).symm.trans hthere
    have horder := Store.write_addSites_next hsites hold (Shelf.load_eq_ok_iff.mp htext)
    have hanswer := (Memory.order_holding_ok horder).symm.trans hwrite
    have hload : shelf.load template = .ok text := htext
    refine ⟨by simp, ?_⟩
    rw [Store.refusal?, hold, if_neg Bool.false_ne_true, hload]
    exact ⟨⟨_, rfl⟩, (Prod.mk.inj hanswer).2.symm⟩

/-- A tour adds the sites up to the first that cannot be made. -/
theorem Tour.in_memory {sites : List Site} {result : Except Failure (List Entry)}
    (hsites : provider.sites root = before ++ sites)
    (htour : Tour Memory.surroundings provider sites
      (.holding (store.addSites shelf provider before) shelf) acts result memory) :
    (∀ path text failure, .write path text (.error failure) ∉ acts) ∧
      ((∀ site ∈ sites, store.refusal? shelf (provider.home root) site = none) ∧
          (∃ entries, result = .ok entries) ∧
          memory = .holding (store.addSites shelf provider (before ++ sites)) shelf ∨
        ∃ made site rest failure, sites = made ++ site :: rest ∧
          (∀ other ∈ made, store.refusal? shelf (provider.home root) other = none) ∧
          store.refusal? shelf (provider.home root) site = some failure ∧
          result = .error failure ∧
          memory = .holding (store.addSites shelf provider (before ++ made)) shelf) := by
  generalize hstate : Memory.holding (store.addSites shelf provider before) shelf = state at htour
  induction htour generalizing before with
  | done =>
    refine ⟨by simp, .inl ⟨by simp, ⟨_, rfl⟩, ?_⟩⟩
    rw [List.append_nil, hstate]
  | @stop site rest _ _ _ failure hvisit =>
    subst hstate
    obtain ⟨hwrites, hrefusal⟩ := hvisit.in_memory hsites
    refine ⟨hwrites, .inr ⟨[], site, rest, failure, rfl, by simp, ?_⟩⟩
    cases hsite : store.refusal? shelf (provider.home root) site with
    | none =>
      rw [hsite] at hrefusal
      obtain ⟨⟨_, hresult⟩, -⟩ := hrefusal
      cases hresult
    | some other =>
      rw [hsite] at hrefusal
      obtain ⟨hresult, hmemory⟩ := hrefusal
      injection hresult with hresult
      rw [List.append_nil, hresult]
      exact ⟨rfl, rfl, hmemory⟩
  | @go site rest _ _ _ _ _ entry _ hvisit htour ih =>
    subst hstate
    obtain ⟨hwrites, hrefusal⟩ := hvisit.in_memory hsites
    cases hsite : store.refusal? shelf (provider.home root) site with
    | some other =>
      rw [hsite] at hrefusal
      cases hrefusal.1
    | none =>
      rw [hsite] at hrefusal
      obtain ⟨hrest, hcases⟩ :=
        ih (by rw [hsites, List.append_assoc, List.singleton_append]) hrefusal.2.symm
      have hnone : ∀ others : List Site,
          (∀ other ∈ others, store.refusal? shelf (provider.home root) other = none) →
          ∀ other ∈ site :: others, store.refusal? shelf (provider.home root) other = none :=
        fun others hothers => List.forall_mem_cons.mpr ⟨hsite, hothers⟩
      refine ⟨?_, ?_⟩
      · intro path text failure hmem
        rcases List.mem_append.mp hmem with hmem | hmem
        · exact hwrites _ _ _ hmem
        · exact hrest _ _ _ hmem
      · rcases hcases with ⟨hall, ⟨entries, rfl⟩, hmemory⟩ |
          ⟨made, stopped, left, failure, hsplit, hmade, hstopped, rfl, hmemory⟩
        · refine .inl ⟨hnone _ hall, ⟨_, rfl⟩, ?_⟩
          rw [hmemory, List.append_assoc, List.singleton_append]
        · refine .inr ⟨site :: made, stopped, left, failure, ?_, hnone _ hmade, hstopped, rfl, ?_⟩
          · rw [hsplit, List.cons_append]
          · rw [hmemory, List.append_assoc, List.singleton_append]

/-! ## Every run in memory -/

/-- What comes of making a provider in memory. -/
structure Settled (store : Store) (shelf : Shelf) (provider : Provider) (root : Path)
    (run : Run Memory Report) : Prop where
  fails_iff : (∃ failure, run.answer = .error failure) ↔
    store.isDirectory (provider.home root) = false ∧
        (store.isFile (provider.home root) = true ∨
          ∃ parent, (provider.home root).parent? = some parent ∧ parent ≠ .empty ∧
            store.isDirectory parent = false) ∨
      (∃ text ∈ subdirectories, store.isFile ((provider.home root).child text) = true ∧
        store.isDirectory ((provider.home root).child text) = false) ∨
      ∃ template, store.isPresent (provider.file root template) = false ∧
        shelf.text? template = none
  writes_succeed : ∀ path text failure, .write path text (.error failure) ∉ run.acts
  gains_of_ok : ∀ report, run.answer = .ok report →
    ∃ store', run.state = .holding store' shelf ∧
      store.Gains shelf provider (provider.sites root) store'
  /-- A failure is that of the first site that cannot be made. -/
  gains_of_error : ∀ failure, run.answer = .error failure →
    ∃ made site rest store', provider.sites root = made ++ site :: rest ∧
      (∀ other ∈ made, store.refusal? shelf (provider.home root) other = none) ∧
      store.refusal? shelf (provider.home root) site = some failure ∧
      (∀ path, site = .directory path → ∃ reason, failure = .filesystem path reason) ∧
      (∀ template path, site = .file template path →
        ∃ location reason, failure = .templateUnavailable template.fileName location reason) ∧
      run.state = .holding store' shelf ∧ store.Gains shelf provider made store'

/-- In memory, what becomes of a scaffold can be told from the store and the shelf at its start. -/
theorem settled_scaffold (store : Store) (shelf : Shelf) (provider : Provider) (root : Path) :
    Settled store shelf provider root
      ((scaffold provider root).exec Memory.surroundings ⟨.fresh store, .fresh shelf⟩) := by
  obtain ⟨acts, result, htour, hanswer, hcalls⟩ :=
    exists_tour Memory.surroundings provider root ⟨.fresh store, .fresh shelf⟩
  generalize (scaffold provider root).exec Memory.surroundings _ = run at htour hanswer hcalls ⊢
  have hstart : (⟨.fresh store, .fresh shelf⟩ : Memory) =
      .holding (store.addSites shelf provider []) shelf := by
    rw [Store.addSites_nil]
    rfl
  rw [hstart] at htour
  obtain ⟨hwrites, hcases⟩ := htour.in_memory (List.nil_append _).symm
  have hwrite : ∀ path text failure, .write path text (.error failure) ∉ run.acts := by
    intro path text failure hmem
    have hcall : .write path text (.error failure) ∈ Act.calls acts := by
      rw [← hcalls]
      exact List.mem_filter.mpr ⟨hmem, rfl⟩
    exact hwrites _ _ _ (List.mem_filter.mp hcall).1
  rcases hcases with ⟨hall, ⟨entries, rfl⟩, hmemory⟩ |
    ⟨made, site, rest, failure, hsplit, hmade, hsite, rfl, hmemory⟩
  · constructor
    case fails_iff =>
      rw [← Store.exists_refusal?_sites_iff, hanswer]
      constructor
      · intro hfails
        obtain ⟨_, herror⟩ := hfails
        cases herror
      · intro hrefused
        obtain ⟨site, hsite, failure, hfailure⟩ := hrefused
        rw [hall site hsite] at hfailure
        cases hfailure
    case writes_succeed => exact hwrite
    case gains_of_ok =>
      intro report _
      exact ⟨_, hmemory, Store.gains_addSites (List.prefix_refl _)⟩
    case gains_of_error =>
      intro failure herror
      rw [hanswer] at herror
      cases herror
  · constructor
    case fails_iff =>
      rw [← Store.exists_refusal?_sites_iff, hanswer]
      have hmem : site ∈ provider.sites root := by
        rw [hsplit]
        exact List.mem_append_right _ List.mem_cons_self
      exact ⟨fun _ => ⟨site, hmem, failure, hsite⟩, fun _ => ⟨failure, rfl⟩⟩
    case writes_succeed => exact hwrite
    case gains_of_ok =>
      intro report hok
      rw [hanswer] at hok
      cases hok
    case gains_of_error =>
      intro failure' herror
      rw [hanswer] at herror
      cases herror
      refine ⟨made, site, rest, _, hsplit, hmade, hsite, ?_, ?_, hmemory,
        Store.gains_addSites ⟨site :: rest, hsplit.symm⟩⟩
      · intro path hdirectory
        rw [hdirectory] at hsite
        exact Store.eq_filesystem_of_refusal? hsite
      · intro template path hfile
        rw [hfile] at hsite
        exact Store.eq_templateUnavailable_of_refusal? hsite

end Script

end Scaffolding
