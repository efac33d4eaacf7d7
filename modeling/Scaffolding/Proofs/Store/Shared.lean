import Scaffolding.Proofs.Store.Outcome

/-!
# A store that scaffolds share

Scaffolds below one root that share a store find things that others made.
Whatever was made, by however many of them and in whatever order, is
feasible in the store at the start.  That is enough to tell how each call
is answered.

* `GrownBy` is the invariant: the store at the start, and feasible sites of
  some providers on top of it.
* `makeDirectory_eq` and `write_eq` answer the orders of a provider whose
  turn it is as the store at the start would.
* `insertDirectory` and `insertFile` keep the invariant.
* `read?_of_held` is what the stores have in common in which the same
  providers are done.
-/

namespace Scaffolding.Store

variable {store current current' : Store} {shelf : Shelf} {provider : Provider} {root path : Path}
  {site : Site} {maker maker' : Provider → Path → Prop}

/-- That a store has grown out of another by feasible sites, each made by some provider. -/
structure GrownBy (store : Store) (shelf : Shelf) (root : Path) (maker : Provider → Path → Prop)
    (current : Store) : Prop where
  keeps_directory : ∀ {path}, store.isDirectory path = true → current.isDirectory path = true
  keeps_file : ∀ {path text}, store.read? path = some text → current.read? path = some text
  directory_cases : ∀ {path}, current.isDirectory path = true →
    store.isDirectory path = true ∨
      ∃ provider made, maker provider made ∧ made ≈ path ∧
        .directory made ∈ store.feasible shelf provider root
  file_cases : ∀ {path text}, current.read? path = some text →
    store.read? path = some text ∨
      ∃ provider template made source, maker provider made ∧ made ≈ path ∧
        .file template made ∈ store.feasible shelf provider root ∧
        store.isPresent made = false ∧ shelf.text? template = some source ∧
        text = instantiate source provider

/-- That whatever site a store holds is held by another. -/
def Keeps (store store' : Store) : Prop :=
  ∀ site, store.holds site = true → store'.holds site = true

theorem Keeps.trans {store₁ store₂ store₃ : Store} (hkeeps : store₁.Keeps store₂)
    (hkeeps' : store₂.Keeps store₃) : store₁.Keeps store₃ :=
  fun site hholds => hkeeps' site (hkeeps site hholds)

theorem keeps_iff {store' : Store} :
    store.Keeps store' ↔
      (∀ path, store.isDirectory path = true → store'.isDirectory path = true) ∧
        ∀ path, store.isPresent path = true → store'.isPresent path = true :=
  ⟨fun hkeeps => ⟨fun path => hkeeps (.directory path), fun path => hkeeps (.file .header path)⟩,
    fun ⟨hdirectory, hpresent⟩ site =>
      match site with
      | .directory path => hdirectory path
      | .file _ path => hpresent path⟩

theorem keeps_insertDirectory (path : Path) : current.Keeps (current.insertDirectory path) := by
  have hdirectory : ∀ other, current.isDirectory other = true →
      (current.insertDirectory path).isDirectory other = true := by
    intro other hthere
    rw [isDirectory_insertDirectory, hthere, Bool.or_true]
  refine keeps_iff.mpr ⟨hdirectory, ?_⟩
  intro other hthere
  rw [isPresent_eq_true_iff, isFile, read?_insertDirectory]
  exact (isPresent_eq_true_iff.mp hthere).imp_right (hdirectory other)

theorem keeps_insertFile (path : Path) (text : String) :
    current.Keeps (current.insertFile path text) := by
  have hdirectory : ∀ other, current.isDirectory other = true →
      (current.insertFile path text).isDirectory other = true := by
    intro other hthere
    rwa [isDirectory_insertFile]
  refine keeps_iff.mpr ⟨hdirectory, ?_⟩
  intro other hthere
  refine isPresent_eq_true_iff.mpr ((isPresent_eq_true_iff.mp hthere).imp ?_ (hdirectory other))
  intro hfile
  rw [isFile, read?_insertFile]
  split
  · rfl
  · exact hfile

theorem holds_insertDirectory (path : Path) :
    (current.insertDirectory path).holds (.directory path) = true := by
  show Store.isDirectory _ _ = true
  rw [isDirectory_insertDirectory, decide_eq_true (Setoid.refl path), Bool.true_or]

theorem holds_insertFile (template : Template) (path : Path) (text : String) :
    (current.insertFile path text).holds (.file template path) = true := by
  have hread : (current.insertFile path text).read? path = some text := by
    rw [read?_insertFile, if_pos (Setoid.refl path)]
  exact isPresent_eq_true_iff.mpr (.inl (isFile_eq_true_iff.mpr ⟨text, hread⟩))

namespace GrownBy

theorem refl (store : Store) (shelf : Shelf) (root : Path) (maker : Provider → Path → Prop) :
    store.GrownBy shelf root maker store :=
  ⟨id, id, .inl, .inl⟩

theorem mono (hgrown : store.GrownBy shelf root maker current)
    (hmaker : ∀ provider path, maker provider path → maker' provider path) :
    store.GrownBy shelf root maker' current where
  keeps_directory := hgrown.keeps_directory
  keeps_file := hgrown.keeps_file
  directory_cases hthere := by
    refine (hgrown.directory_cases hthere).imp_right ?_
    rintro ⟨provider, made, hmade, hrest⟩
    exact ⟨provider, made, hmaker _ _ hmade, hrest⟩
  file_cases hread := by
    refine (hgrown.file_cases hread).imp_right ?_
    rintro ⟨provider, template, made, source, hmade, hrest⟩
    exact ⟨provider, template, made, source, hmaker _ _ hmade, hrest⟩

variable (hgrown : store.GrownBy shelf root maker current)

include hgrown

theorem isPresent_of_start (hpresent : store.isPresent path = true) :
    current.isPresent path = true := by
  refine isPresent_eq_true_iff.mpr ((isPresent_eq_true_iff.mp hpresent).imp ?_ ?_)
  · intro hfile
    obtain ⟨text, hread⟩ := isFile_eq_true_iff.mp hfile
    exact isFile_eq_true_iff.mpr ⟨text, hgrown.keeps_file hread⟩
  · exact hgrown.keeps_directory

/-! ### What can be where -/

/-- A directory that was not there at the start is at the site of a directory. -/
theorem isDirectory_cases (hsite : site ∈ provider.sites root)
    (hthere : current.isDirectory site.path = true) :
    store.isDirectory site.path = true ∨
      (∃ made, site = .directory made) ∧ site ∈ store.feasible shelf provider root := by
  rcases hgrown.directory_cases hthere with hold | ⟨other, made, -, hsame, hmem⟩
  · exact .inl hold
  · obtain ⟨rfl, rfl⟩ := Provider.eq_of_sites (feasible_isPrefix.subset hmem) hsite hsame
    exact .inr ⟨⟨made, rfl⟩, hmem⟩

/-- A file that was not there at the start is at the site of a file, with the text of its
template. -/
theorem read?_cases (hsite : site ∈ provider.sites root) {text : String}
    (hread : current.read? site.path = some text) :
    store.read? site.path = some text ∨
      ∃ template made source, site = .file template made ∧
        site ∈ store.feasible shelf provider root ∧ shelf.text? template = some source ∧
        text = instantiate source provider := by
  rcases hgrown.file_cases hread with
    hold | ⟨other, template, made, source, -, hsame, hmem, -, hsource, htext⟩
  · exact .inl hold
  · obtain ⟨rfl, rfl⟩ := Provider.eq_of_sites (feasible_isPrefix.subset hmem) hsite hsame
    exact .inr ⟨template, made, source, rfl, hmem, hsource, htext⟩

theorem isFile_directory (hsite : .directory path ∈ provider.sites root) :
    current.isFile path = store.isFile path := by
  rw [Bool.eq_iff_iff, isFile_eq_true_iff, isFile_eq_true_iff]
  constructor
  · rintro ⟨text, hread⟩
    rcases hgrown.read?_cases hsite hread with hold | ⟨_, _, _, hfile, -⟩
    · exact ⟨text, hold⟩
    · cases hfile
  · exact fun ⟨text, hread⟩ => ⟨text, hgrown.keeps_file hread⟩

theorem isDirectory_file {template : Template} (hsite : .file template path ∈ provider.sites root) :
    current.isDirectory path = store.isDirectory path := by
  rw [Bool.eq_iff_iff]
  refine ⟨?_, hgrown.keeps_directory⟩
  intro hthere
  rcases hgrown.isDirectory_cases hsite hthere with hold | ⟨⟨_, hdirectory⟩, -⟩
  · exact hold
  · cases hdirectory

/-- What lies in the root's own place was there at the start. -/
theorem isParentMissing_home :
    current.isParentMissing (provider.home root) = store.isParentMissing (provider.home root) := by
  obtain ⟨parent, hparent, hcomponents⟩ := @Path.exists_parent?_join root _ provider.isName_name
  have hsame : current.isDirectory parent = store.isDirectory parent := by
    rw [Bool.eq_iff_iff]
    refine ⟨?_, hgrown.keeps_directory⟩
    intro hthere
    rcases hgrown.directory_cases hthere with hold | ⟨other, made, -, hsame, hmem⟩
    · exact hold
    · obtain ⟨rest, hmade⟩ := Provider.exists_components_eq (feasible_isPrefix.subset hmem)
      have hlength := congrArg List.length (hmade.symm.trans (Path.equiv_iff.mp hsame))
      rw [hcomponents, List.length_append, List.length_cons] at hlength
      omega
  unfold isParentMissing
  rw [show (provider.home root).parent? = some parent from hparent]
  simp only [hsame]

/-! ### How a provider is answered -/

/-- Whatever a provider finds at one of its sites is not refused at the start. -/
theorem refusal?_of_holds (hsite : site ∈ provider.sites root)
    (hholds : current.holds site = true) :
    store.refusal? shelf (provider.home root) site = none := by
  cases site with
  | directory path =>
    rcases hgrown.isDirectory_cases hsite hholds with hold | ⟨-, hmem⟩
    · exact if_pos hold
    · exact refusal?_of_mem_feasible hmem
  | file template path =>
    rcases isPresent_eq_true_iff.mp hholds with hfile | hdirectory
    · obtain ⟨text, hread⟩ := isFile_eq_true_iff.mp hfile
      rcases hgrown.read?_cases hsite hread with hold | ⟨_, _, _, -, hmem, -⟩
      · exact if_pos (isPresent_eq_true_iff.mpr (.inl (isFile_eq_true_iff.mpr ⟨text, hold⟩)))
      · exact refusal?_of_mem_feasible hmem
    · rw [hgrown.isDirectory_file hsite] at hdirectory
      exact if_pos (isPresent_eq_true_iff.mpr (.inr hdirectory))

section Turn

variable {before after : List Site}

theorem isParentMissing_of_turn (hsites : provider.sites root = before ++ site :: after)
    (hheld : ∀ other ∈ before, current.holds other = true) :
    current.isParentMissing site.path =
      (decide (site.path = provider.home root) && store.isParentMissing site.path) := by
  rcases Provider.cases_of_sites_eq hsites with ⟨-, rfl⟩ | ⟨hhome, text, hmem, hpath⟩
  · have hself : decide ((Site.directory (provider.home root)).path = provider.home root) = true :=
      decide_eq_true rfl
    rw [hself, Bool.true_and]
    exact hgrown.isParentMissing_home
  · have hthere : current.isDirectory (provider.home root) = true := hheld _ hhome
    rw [hpath, isParentMissing_child_home hmem hthere,
      decide_eq_false (provider.child_home_ne_home root hmem), Bool.false_and]

theorem makeDirectory_eq (hsites : provider.sites root = before ++ .directory path :: after)
    (hheld : ∀ other ∈ before, current.holds other = true) :
    current.makeDirectory path =
      match store.refusal? shelf (provider.home root) (.directory path) with
      | none => .ok (current.insertDirectory path)
      | some failure => .error failure := by
  have hsite := Provider.mem_of_sites_eq hsites
  have hparent : current.isParentMissing path =
      (decide (path = provider.home root) && store.isParentMissing path) :=
    hgrown.isParentMissing_of_turn hsites hheld
  unfold makeDirectory
  cases hthere : current.isDirectory path with
  | true =>
    rw [hgrown.refusal?_of_holds hsite hthere, if_pos rfl]
    unfold insertDirectory
    rw [if_pos hthere]
  | false =>
    have hmissing : store.isDirectory path = false :=
      Bool.eq_false_iff.mpr fun hold => Bool.eq_false_iff.mp hthere (hgrown.keeps_directory hold)
    rw [refusal?, hmissing, hgrown.isFile_directory hsite, hparent]
    simp only [Bool.false_eq_true, if_false, Bool.and_eq_true, decide_eq_true_eq]
    split
    · rfl
    · split <;> rfl

theorem write_eq {template : Template} (text : String)
    (hsites : provider.sites root = before ++ .file template path :: after)
    (hheld : ∀ other ∈ before, current.holds other = true)
    (hvacant : store.isPresent path = false) :
    current.write path text = .ok (current.insertFile path text) := by
  have hsite := Provider.mem_of_sites_eq hsites
  have hparent : current.isParentMissing path =
      (decide (path = provider.home root) && store.isParentMissing path) :=
    hgrown.isParentMissing_of_turn hsites hheld
  unfold write
  rw [hparent, decide_eq_false (Provider.ne_home_of_file_mem hsite), hgrown.isDirectory_file hsite,
    (Bool.or_eq_false_iff.mp hvacant).2, Bool.false_and, Bool.or_false,
    if_neg Bool.false_ne_true]

end Turn

/-! ### How the store grows -/

theorem insertDirectory (hmade : maker provider path)
    (hmem : .directory path ∈ store.feasible shelf provider root) :
    store.GrownBy shelf root maker (current.insertDirectory path) where
  keeps_directory hold := by
    rw [isDirectory_insertDirectory, hgrown.keeps_directory hold, Bool.or_true]
  keeps_file hold := by
    rw [read?_insertDirectory]
    exact hgrown.keeps_file hold
  directory_cases hthere := by
    rw [isDirectory_insertDirectory, Bool.or_eq_true, decide_eq_true_eq] at hthere
    rcases hthere with hsame | hthere
    · exact .inr ⟨provider, path, hmade, hsame, hmem⟩
    · exact hgrown.directory_cases hthere
  file_cases hread := by
    rw [read?_insertDirectory] at hread
    exact hgrown.file_cases hread

theorem insertFile {template : Template} {source : String} (hmade : maker provider path)
    (hmem : .file template path ∈ store.feasible shelf provider root)
    (hvacant : store.isPresent path = false) (hsource : shelf.text? template = some source) :
    store.GrownBy shelf root maker (current.insertFile path (instantiate source provider)) where
  keeps_directory hold := by
    rw [isDirectory_insertFile]
    exact hgrown.keeps_directory hold
  keeps_file := by
    intro other text hold
    rw [read?_insertFile, if_neg]
    · exact hgrown.keeps_file hold
    · intro hsame
      rw [← read?_congr store hsame] at hold
      have hfree := (Bool.or_eq_false_iff.mp hvacant).1
      exact Bool.eq_false_iff.mp hfree (isFile_eq_true_iff.mpr ⟨text, hold⟩)
  directory_cases hthere := by
    rw [isDirectory_insertFile] at hthere
    exact hgrown.directory_cases hthere
  file_cases := by
    intro other text hread
    rw [read?_insertFile] at hread
    split at hread
    · next hsame =>
      exact .inr ⟨provider, template, path, source, hmade, hsame, hmem, hvacant, hsource,
        (Option.some.inj hread).symm⟩
    · exact hgrown.file_cases hread

/-- Whatever is new was made by a provider. -/
theorem exists_maker
    (hnew : store.isFile path = false ∧ current.isFile path = true ∨
      store.isDirectory path = false ∧ current.isDirectory path = true) :
    ∃ provider made, maker provider made ∧ made ≈ path := by
  rcases hnew with ⟨hfree, hfile⟩ | ⟨hmissing, hthere⟩
  · obtain ⟨text, hread⟩ := isFile_eq_true_iff.mp hfile
    rcases hgrown.file_cases hread with hold | ⟨provider, _, made, _, hmade, hsame, -⟩
    · exact absurd (isFile_eq_true_iff.mpr ⟨text, hold⟩) (Bool.eq_false_iff.mp hfree)
    · exact ⟨provider, made, hmade, hsame⟩
  · rcases hgrown.directory_cases hthere with hold | ⟨provider, made, hmade, hsame, -⟩
    · exact absurd hold (Bool.eq_false_iff.mp hmissing)
    · exact ⟨provider, made, hmade, hsame⟩

/-! ### When providers are done -/

/-- A store has whatever another has, once all the makers of the other are done in it. -/
theorem read?_of_held (hgrown' : store.GrownBy shelf root maker' current')
    (hheld : ∀ provider path, maker provider path →
      ∀ site ∈ store.feasible shelf provider root, current'.holds site = true) :
    (∀ path, current.isDirectory path = true → current'.isDirectory path = true) ∧
      ∀ path text, current.read? path = some text → current'.read? path = some text := by
  constructor
  · intro path hthere
    rcases hgrown.directory_cases hthere with hold | ⟨provider, made, hmade, hsame, hmem⟩
    · exact hgrown'.keeps_directory hold
    · rw [← isDirectory_congr current' hsame]
      exact hheld provider made hmade _ hmem
  · intro path text hread
    rcases hgrown.file_cases hread with
      hold | ⟨provider, template, made, source, hmade, hsame, hmem, hvacant, hsource, rfl⟩
    · exact hgrown'.keeps_file hold
    · have hsite := feasible_isPrefix.subset hmem
      obtain ⟨hfree, hmissing⟩ := Bool.or_eq_false_iff.mp hvacant
      have hpresent := isPresent_eq_true_iff.mp (hheld provider made hmade _ hmem)
      rw [hgrown'.isDirectory_file hsite, hmissing] at hpresent
      obtain ⟨text, hthere⟩ := isFile_eq_true_iff.mp (hpresent.resolve_right Bool.false_ne_true)
      rw [← read?_congr current' hsame, hthere]
      rcases hgrown'.read?_cases hsite hthere with hold | ⟨_, _, _, hfile, -, hsource', rfl⟩
      · exact absurd (isFile_eq_true_iff.mpr ⟨text, hold⟩) (Bool.eq_false_iff.mp hfree)
      · cases hfile
        rw [hsource] at hsource'
        rw [Option.some.inj hsource']

end GrownBy

end Scaffolding.Store
