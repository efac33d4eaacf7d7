import Mathlib.Data.List.Nodup
import Scaffolding.Proofs.Path.Join
import Scaffolding.Proofs.Text.Encoding
import Scaffolding.Provider.Layout

/-!
# The seven paths of a provider

All paths of a provider are its home and entries of its home, and every
entry is one step away from it.  The words of the layout and the
characters of a provider's name leave no room for a slash, for `.` or for
`..`, whatever the output root is.

* `components_home` and `components_child_home` give the components of the
  paths.
* `nodup_components_sites` says that no two of the seven paths mean the
  same place.
-/

namespace Scaffolding

/-! ## Texts that are names -/

/-- A text names an entry unless it is empty, `.` or `..`, or has a slash. -/
theorem Path.isName_encode {text : String} (hslash : '/' ∉ text.toList) (hempty : text ≠ "")
    (hdot : text ≠ ".") (hdots : text ≠ "..") : Path.IsName (Text.encode text) where
  slash_not_mem := by
    intro hmem
    exact hslash (Text.mem_of_mem_encode (by decide) (by decide) hmem)
  ne_nil := fun h => hempty (Text.encode_injective h)
  ne_dot := fun h => hdot (Text.encode_injective h)
  ne_dots := fun h => hdots (Text.encode_injective h)

theorem Template.isName_fileName (template : Template) :
    Path.IsName (Text.encode template.fileName) := by
  cases template <;>
    exact Path.isName_encode (by decide) (by decide) (by decide) (by decide)

namespace Provider

/-! ## The entries of a home -/

/-- The names of what a provider has in its home. -/
def entryNames (provider : Provider) : List String :=
  subdirectories ++ Template.all.map (·.target provider)

theorem map_path_sites (provider : Provider) (root : Path) :
    (provider.sites root).map Site.path =
      provider.home root :: provider.entryNames.map (provider.home root).child := rfl

theorem length_name_pos (provider : Provider) : 0 < provider.name.toList.length := by
  apply List.length_pos_of_ne_nil
  intro hnil
  exact provider.name_ne_empty (String.toList_inj.mp hnil)

/-- A name with an ending of two characters or more is the name of an entry. -/
theorem isName_append (provider : Provider) {ending : String} (hslash : '/' ∉ ending.toList)
    (hending : 2 ≤ ending.toList.length) :
    Path.IsName (Text.encode (provider.name ++ ending)) := by
  have hpos := provider.length_name_pos
  have hlong : 3 ≤ (provider.name ++ ending).toList.length := by
    rw [String.toList_append, List.length_append]
    omega
  apply Path.isName_encode
  · rw [String.toList_append]
    intro hmem
    rcases List.mem_append.mp hmem with hname | hend
    · have hchar := provider.isNameCharacter_of_mem '/' hname
      exact absurd hchar (by decide)
    · exact hslash hend
  all_goals
    intro heq
    rw [heq] at hlong
    exact absurd hlong (by decide)

theorem isName_name (provider : Provider) : Path.IsName (Text.encode provider.name) := by
  have hdot : isNameCharacter '.' = false := by decide
  apply Path.isName_encode
  · intro hmem
    exact absurd (provider.isNameCharacter_of_mem '/' hmem) (by decide)
  · exact provider.name_ne_empty
  · intro heq
    have hmem : '.' ∈ provider.name.toList := by rw [heq]; decide
    rw [provider.isNameCharacter_of_mem '.' hmem] at hdot
    cases hdot
  · intro heq
    have hmem : '.' ∈ provider.name.toList := by rw [heq]; decide
    rw [provider.isNameCharacter_of_mem '.' hmem] at hdot
    cases hdot

theorem isName_target (provider : Provider) (template : Template) :
    Path.IsName (Text.encode (template.target provider)) := by
  cases template with
  | header => exact provider.isName_append (by decide) (by decide)
  | source => exact provider.isName_append (by decide) (by decide)
  | descriptor => exact Template.isName_fileName .descriptor
  | build => exact Template.isName_fileName .build

theorem isName_of_mem_subdirectories {text : String} (hmem : text ∈ subdirectories) :
    Path.IsName (Text.encode text) := by
  rcases List.mem_cons.mp hmem with rfl | hrest
  · exact Path.isName_encode (by decide) (by decide) (by decide) (by decide)
  · rw [List.mem_singleton.mp hrest]
    exact Path.isName_encode (by decide) (by decide) (by decide) (by decide)

theorem isName_of_mem_entryNames {provider : Provider} {text : String}
    (hmem : text ∈ provider.entryNames) : Path.IsName (Text.encode text) := by
  rcases List.mem_append.mp hmem with hsub | htarget
  · exact isName_of_mem_subdirectories hsub
  · obtain ⟨template, -, rfl⟩ := List.mem_map.mp htarget
    exact provider.isName_target template

/-- The entries of a home differ in their last characters. -/
theorem nodup_entryNames (provider : Provider) : provider.entryNames.Nodup := by
  have hlast : provider.entryNames.map (fun text => text.toList.getLast?) =
      [some 'c', some 'g', some 'h', some 'p', some 'n', some 't'] := by
    simp [entryNames, subdirectories, Template.all, Template.target, Template.fileName]
  apply List.Nodup.of_map fun text => text.toList.getLast?
  rw [hlast]
  decide

/-! ## Their components -/

theorem components_home (provider : Provider) (root : Path) :
    (provider.home root).components = root.components ++ [.name (Text.encode provider.name)] :=
  Path.components_join provider.isName_name

theorem components_child_home (provider : Provider) (root : Path) {text : String}
    (hmem : text ∈ provider.entryNames) :
    ((provider.home root).child text).components =
      (provider.home root).components ++ [.name (Text.encode text)] :=
  Path.components_join (isName_of_mem_entryNames hmem)

/-- No two of the seven paths mean the same place. -/
theorem nodup_components_sites (provider : Provider) (root : Path) :
    ((provider.sites root).map fun site => site.path.components).Nodup := by
  have hmap : (provider.sites root).map (fun site => site.path.components) =
      (provider.home root).components ::
        provider.entryNames.map fun text =>
          (provider.home root).components ++ [.name (Text.encode text)] := by
    have hentries :
        provider.entryNames.map (fun text => ((provider.home root).child text).components) =
          provider.entryNames.map fun text =>
            (provider.home root).components ++ [.name (Text.encode text)] :=
      List.map_congr_left fun text hmem => components_child_home provider root hmem
    rw [← hentries]
    rfl
  rw [hmap]
  apply List.Nodup.cons
  · intro hmem
    obtain ⟨text, -, heq⟩ := List.mem_map.mp hmem
    have hlength := congrArg List.length heq
    rw [List.length_append, List.length_singleton] at hlength
    omega
  · apply provider.nodup_entryNames.map
    intro left right heq
    have hname := List.append_cancel_left heq
    injection hname with hcomponent
    injection hcomponent with hbytes
    exact Text.encode_injective hbytes

theorem eq_of_mem_sites {provider : Provider} {root : Path} {site other : Site}
    (hsite : site ∈ provider.sites root) (hother : other ∈ provider.sites root)
    (hsame : site.path ≈ other.path) : site = other :=
  List.inj_on_of_nodup_map (provider.nodup_components_sites root) hsite hother hsame

/-- All paths of a provider go from the root to its name, and perhaps on. -/
theorem exists_components_eq {provider : Provider} {root : Path} {site : Site}
    (hsite : site ∈ provider.sites root) :
    ∃ rest, site.path.components =
      root.components ++ .name (Text.encode provider.name) :: rest := by
  have hpath := List.mem_map_of_mem (f := Site.path) hsite
  rw [map_path_sites] at hpath
  rcases List.mem_cons.mp hpath with hhome | hchild
  · exact ⟨[], by rw [hhome, components_home]⟩
  · obtain ⟨text, htext, hchild⟩ := List.mem_map.mp hchild
    refine ⟨[.name (Text.encode text)], ?_⟩
    rw [← hchild, components_child_home provider root htext, components_home, List.append_assoc,
      List.singleton_append]

/-- Below one root, providers with different names have no place in common. -/
theorem eq_of_sites {provider other : Provider} {root : Path} {site site' : Site}
    (hsite : site ∈ provider.sites root) (hsite' : site' ∈ other.sites root)
    (hsame : site.path ≈ site'.path) : provider = other ∧ site = site' := by
  obtain ⟨rest, hcomponents⟩ := exists_components_eq hsite
  obtain ⟨rest', hcomponents'⟩ := exists_components_eq hsite'
  have hnames : provider.name = other.name := by
    have htails := List.append_cancel_left
      (hcomponents.symm.trans ((Path.equiv_iff.mp hsame).trans hcomponents'))
    injection htails with hname
    injection hname with hbytes
    exact Text.encode_injective hbytes
  have hprovider : provider = other := Provider.ext hnames
  subst hprovider
  exact ⟨rfl, eq_of_mem_sites hsite hsite' hsame⟩

/-! ## One site among the seven -/

section Split

variable {provider : Provider} {root : Path} {before after : List Site} {site : Site}

theorem mem_of_sites_eq (hsites : provider.sites root = before ++ site :: after) :
    site ∈ provider.sites root := by
  rw [hsites]
  exact List.mem_append_right _ List.mem_cons_self

theorem apart_of_sites_eq (hsites : provider.sites root = before ++ site :: after) :
    ∀ other ∈ before, ¬ other.path ≈ site.path := by
  have hnodup := provider.nodup_components_sites root
  rw [hsites, List.map_append, List.map_cons] at hnodup
  intro other hother hsame
  have hdisjoint := (List.nodup_append.mp hnodup).2.2 _ (List.mem_map_of_mem hother)
  exact hdisjoint _ List.mem_cons_self hsame

/-- The home is the first site, and all the others are entries of it. -/
theorem cases_of_sites_eq (hsites : provider.sites root = before ++ site :: after) :
    before = [] ∧ site = .directory (provider.home root) ∨
      .directory (provider.home root) ∈ before ∧
        ∃ text ∈ provider.entryNames, site.path = (provider.home root).child text := by
  cases before with
  | nil =>
    injection hsites with hhome
    exact .inl ⟨rfl, hhome.symm⟩
  | cons first rest =>
    have hpaths := provider.map_path_sites root
    rw [hsites, List.cons_append, List.map_cons] at hpaths
    have hmem : site.path ∈ (rest ++ site :: after).map Site.path :=
      List.mem_map_of_mem (List.mem_append_right _ List.mem_cons_self)
    rw [(List.cons.inj hpaths).2] at hmem
    obtain ⟨text, htext, hpath⟩ := List.mem_map.mp hmem
    injection hsites with hhome
    exact .inr ⟨hhome ▸ List.mem_cons_self, text, htext, hpath.symm⟩

/-- Before a file come the directories, and the files of the templates before its own. -/
theorem before_eq_of_sites_eq {template : Template} {path : Path}
    (hsites : provider.sites root = before ++ .file template path :: after) :
    path = provider.file root template ∧ before = (provider.directories root).map .directory ++
      (Template.all.takeWhile (· ≠ template)).map fun earlier =>
        .file earlier (provider.file root earlier) := by
  obtain ⟨-, rfl⟩ : template ∈ Template.all ∧ provider.file root template = path := by
    simpa [sites] using mem_of_sites_eq hsites
  refine ⟨rfl, ?_⟩
  have hbefore : ∀ site ∈ before,
      decide (site ≠ .file template (provider.file root template)) = true := by
    intro site hsite
    exact decide_eq_true fun heq => apart_of_sites_eq hsites site hsite (heq ▸ Setoid.refl _)
  have htake := congrArg (List.takeWhile (· ≠ Site.file template (provider.file root template)))
    hsites
  rw [List.takeWhile_append_of_pos hbefore, List.takeWhile_cons_of_neg (by simp), List.append_nil]
    at htake
  rw [← htake, sites, List.takeWhile_append_of_pos (by simp), List.takeWhile_map]
  congr 3
  funext earlier
  by_cases hsame : earlier = template
  · simp [hsame]
  · simp [hsame]

end Split

theorem exists_parent?_child_home (provider : Provider) (root : Path) {text : String}
    (hmem : text ∈ provider.entryNames) :
    ∃ parent, ((provider.home root).child text).parent? = some parent ∧
      parent ≈ provider.home root :=
  Path.exists_parent?_join (isName_of_mem_entryNames hmem)

/-- No file has the place of the home. -/
theorem ne_home_of_file_mem {provider : Provider} {root path : Path} {template : Template}
    (hfile : .file template path ∈ provider.sites root) : path ≠ provider.home root := by
  intro hpath
  have hhome : .directory (provider.home root) ∈ provider.sites root := List.mem_cons_self
  have hsame := eq_of_mem_sites hfile hhome (Path.equiv_iff.mpr (congrArg Path.components hpath))
  cases hsame

theorem child_home_ne_home (provider : Provider) (root : Path) {text : String}
    (hmem : text ∈ provider.entryNames) :
    (provider.home root).child text ≠ provider.home root := by
  intro heq
  have hcomponents := provider.components_child_home root hmem
  rw [heq] at hcomponents
  have hlength := congrArg List.length hcomponents
  rw [List.length_append, List.length_singleton] at hlength
  omega

end Provider

/-- A provider for samples. -/
def Script.shortNamed : Provider where
  name := "X"
  name_ne_empty := by decide
  isNameCharacter_of_mem := by
    intro c hmem
    have hsingle : c = 'X' := by simpa using hmem
    rw [hsingle]
    decide

end Scaffolding
