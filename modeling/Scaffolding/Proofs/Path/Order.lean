import Mathlib.Data.List.Find
import Mathlib.Data.List.Pairwise
import Mathlib.Data.List.Sort
import Scaffolding.Path.Basic

/-!
# The order of paths

Paths are put in order step by step, and not byte by byte.  What counts is
the first step in which two paths differ: the root directory comes before a
leading `.`, this before `..`, and this before all names, which go by their
bytes.  A path comes before the paths that go on from it.

* `Precedes` says so in words of its own, for components and for paths.
* `compare_eq_lt_iff` says that `compare` decides it.  The step from
  components to lists of them is `compare_lists_eq_lt_iff`.
* `ordersPlaces_precedes` collects what makes it a total order on places.
* `Apart` and `Increasing` are about lists of what lies at paths.  Sorting
  takes the one to the other, and `Increasing.eq_of_mem_iff` says that a
  list in order is known by its members.
-/

namespace Scaffolding

/-- Lists are compared as their entries are where they differ first. -/
theorem compare_lists_eq_lt_iff {α : Type} [Ord α] [Std.LawfulEqOrd α] {before : α → α → Prop}
    (hbefore : ∀ entry other : α, compare entry other = .lt ↔ before entry other)
    (entries others : List α) :
    compare entries others = .lt ↔ List.Lex before entries others := by
  induction entries generalizing others with
  | nil =>
    cases others with
    | nil => exact iff_of_false nofun nofun
    | cons other others => exact iff_of_true rfl .nil
  | cons entry entries ih =>
    cases others with
    | nil => exact iff_of_false nofun nofun
    | cons other others =>
      rw [List.compare_cons_cons, Ordering.then_eq_lt, Std.LawfulEqOrd.compare_eq_iff_eq, hbefore,
        ih, List.cons_lex_cons_iff]

namespace Path

/-! ## Components -/

namespace Component

/-- That a component comes before another.  Names go by their bytes. -/
inductive Precedes : Component → Component → Prop where
  | root_here : Precedes .root .here
  | root_up : Precedes .root .up
  | root_name (bytes : Bytes) : Precedes .root (.name bytes)
  | here_up : Precedes .here .up
  | here_name (bytes : Bytes) : Precedes .here (.name bytes)
  | up_name (bytes : Bytes) : Precedes .up (.name bytes)
  | name_name {bytes bytes' : Bytes} (hbytes : List.Lex (· < ·) bytes bytes') :
    Precedes (.name bytes) (.name bytes')

instance : Std.TransOrd Component :=
  inferInstanceAs (Std.TransCmp (compareLex (compareOn rank) (compareOn spelling)))

instance : Std.LawfulEqOrd Component where
  eq_of_compare {a b} hcompare := by
    obtain ⟨hrank, hspelling⟩ := Ordering.then_eq_eq.mp hcompare
    rw [Std.LawfulEqOrd.compare_eq_iff_eq] at hrank hspelling
    cases a <;> cases b <;> cases hrank
    case name.name => exact congrArg name hspelling
    all_goals rfl

/-- Components are compared as they come one before the other. -/
theorem compare_eq_lt_iff (a b : Component) : compare a b = .lt ↔ a.Precedes b := by
  have hbytes (bytes bytes' : Bytes) :
      compare bytes bytes' = .lt ↔ List.Lex (· < ·) bytes bytes' :=
    compare_lists_eq_lt_iff (fun _ _ => Std.compare_eq_lt) bytes bytes'
  cases a <;> cases b
  case root.here => exact iff_of_true rfl .root_here
  case root.up => exact iff_of_true rfl .root_up
  case root.name bytes => exact iff_of_true rfl (.root_name bytes)
  case here.up => exact iff_of_true rfl .here_up
  case here.name bytes => exact iff_of_true rfl (.here_name bytes)
  case up.name bytes => exact iff_of_true rfl (.up_name bytes)
  case name.name bytes bytes' =>
    exact (hbytes bytes bytes').trans ⟨.name_name, fun | .name_name hbytes => hbytes⟩
  all_goals exact iff_of_false nofun nofun

/-- Of two lists of components only one comes before the other. -/
instance : Std.Asymm (List.Lex Precedes) where
  asymm steps steps' hbefore hback := by
    rw [← compare_lists_eq_lt_iff compare_eq_lt_iff] at hbefore hback
    exact Std.OrientedCmp.not_lt_of_lt hbefore hback

end Component

/-! ## Paths -/

variable {path path' : Path}

/-- That a path comes before another in the first step in which they differ, or ends there. -/
def Precedes (path path' : Path) : Prop :=
  List.Lex Component.Precedes path.components path'.components

instance : Std.TransOrd Path :=
  inferInstanceAs (Std.TransCmp (compareOn components))

/-- Paths are compared as one comes before the other. -/
theorem compare_eq_lt_iff : compare path path' = .lt ↔ path.Precedes path' :=
  compare_lists_eq_lt_iff Component.compare_eq_lt_iff path.components path'.components

theorem compare_eq_gt_iff : compare path path' = .gt ↔ path'.Precedes path :=
  Std.OrientedCmp.gt_iff_lt.trans compare_eq_lt_iff

/-- Paths are equal in the order if they mean the same place. -/
theorem compare_eq_eq_iff : compare path path' = .eq ↔ path ≈ path' :=
  Std.LawfulEqOrd.compare_eq_iff_eq (a := path.components) (b := path'.components)

instance (path path' : Path) : Decidable (path.Precedes path') :=
  decidable_of_iff (compare path path' = .lt) compare_eq_lt_iff

/-- What makes a relation the total order on places that `compare` decides. -/
structure OrdersPlaces (before : Path → Path → Prop) : Prop where
  lt_iff : ∀ path path' : Path, compare path path' = .lt ↔ before path path'
  eq_iff : ∀ path path' : Path, compare path path' = .eq ↔ path ≈ path'
  gt_iff : ∀ path path' : Path, compare path path' = .gt ↔ before path' path
  trans : ∀ path middle path' : Path, before path middle → before middle path' → before path path'

theorem Precedes.trans {middle : Path} (hfirst : path.Precedes middle)
    (hsecond : middle.Precedes path') : path.Precedes path' := by
  rw [← compare_eq_lt_iff] at hfirst hsecond ⊢
  exact Std.TransCmp.lt_trans hfirst hsecond

theorem ordersPlaces_precedes : OrdersPlaces Precedes where
  lt_iff _ _ := compare_eq_lt_iff
  eq_iff _ _ := compare_eq_eq_iff
  gt_iff _ _ := compare_eq_gt_iff
  trans _ _ _ := Precedes.trans

/-- What a directory holds comes right behind it, where in the order of bytes something else can
come between. -/
example : (ofText "a/b").Precedes (ofText "a-b") ∧
    List.Lex (· < ·) (ofText "a-b").bytes (ofText "a/b").bytes := by
  decide +kernel

/-- Of two paths that `compare` lets stand as they are, one comes first if they are apart. -/
theorem precedes_of_isLE (hcompare : (compare path path').isLE = true) (hapart : ¬ path ≈ path') :
    path.Precedes path' := by
  rw [← compare_eq_eq_iff] at hapart
  rw [← compare_eq_lt_iff]
  exact Ordering.isLE_iff_eq_lt_or_eq_eq.mp hcompare |>.resolve_right hapart

/-! ## Lists in order -/

variable {α : Type} {place : α → Path} {entries others : List α} {entry other : α}

/-- That no two entries of a list lie at the same place. -/
def Apart (place : α → Path) (entries : List α) : Prop :=
  entries.Pairwise fun entry later => ¬ place entry ≈ place later

/-- That a list goes up from place to place, and never stays. -/
def Increasing (place : α → Path) (entries : List α) : Prop :=
  entries.Pairwise fun entry later => (place entry).Precedes (place later)

instance (place : α → Path) (entries : List α) : Decidable (Apart place entries) :=
  inferInstanceAs (Decidable (List.Pairwise _ entries))

instance (place : α → Path) (entries : List α) : Decidable (Increasing place entries) :=
  inferInstanceAs (Decidable (List.Pairwise _ entries))

theorem apart_map_iff : Apart id (entries.map place) ↔ Apart place entries :=
  List.pairwise_map

theorem Apart.eq_of_equiv (hapart : Apart place entries) (hentry : entry ∈ entries)
    (hother : other ∈ entries) (hsame : place entry ≈ place other) : entry = other := by
  by_contra hne
  have : Std.Symm fun entry other => ¬ place entry ≈ place other :=
    ⟨fun _ _ hapart hback => hapart (Setoid.symm hback)⟩
  exact List.Pairwise.forall hapart hentry hother hne hsame

/-- Whoever looks for the place of an entry finds the entry. -/
theorem Apart.find?_eq_some_iff (hapart : Apart place entries) :
    entries.find? (place · ≈ place entry) = some entry ↔ entry ∈ entries := by
  constructor
  · exact List.mem_of_find?_eq_some
  · intro hentry
    cases hfind : entries.find? (place · ≈ place entry) with
    | none =>
      have hself := List.find?_eq_none.mp hfind entry hentry
      exact absurd (decide_eq_true (Setoid.refl (place entry))) hself
    | some other =>
      have hfound := List.find?_some hfind
      have hsame : place other ≈ place entry := of_decide_eq_true hfound
      rw [hapart.eq_of_equiv (List.mem_of_find?_eq_some hfind) hentry hsame]

/-- What is found at a place does not depend on the order of the entries. -/
theorem Apart.find?_eq_of_perm (hapart : Apart place entries) (hperm : entries.Perm others)
    (path : Path) : entries.find? (place · ≈ path) = others.find? (place · ≈ path) := by
  refine List.find?_eq_find?_of_perm hperm ?_
  rintro entry ⟨hentry, hfound⟩ other ⟨hother, hfound'⟩
  have hsame : place entry ≈ place other :=
    Setoid.trans (of_decide_eq_true hfound) (Setoid.symm (of_decide_eq_true hfound'))
  exact hapart.eq_of_equiv hentry hother hsame

theorem Apart.perm (hapart : Apart place entries) (hperm : entries.Perm others) :
    Apart place others :=
  hperm.pairwise hapart fun hapart hback => hapart (Setoid.symm hback)

/-- A list in order is known by its members. -/
theorem Increasing.eq_of_mem_iff (hentries : Increasing place entries)
    (hothers : Increasing place others) (hmem : ∀ entry, entry ∈ entries ↔ entry ∈ others) :
    entries = others := by
  have : Std.Asymm fun entry later : α => (place entry).Precedes (place later) :=
    ⟨fun _ _ => Std.Asymm.asymm (r := List.Lex Component.Precedes) _ _⟩
  exact List.Pairwise.eq_of_mem_iff hentries hothers hmem

/-- What the paths of a list in order mean is known by the places in it. -/
theorem Increasing.map_components_eq {paths paths' : List Path} (hpaths : Increasing id paths)
    (hpaths' : Increasing id paths')
    (hmem : ∀ steps, steps ∈ paths.map components ↔ steps ∈ paths'.map components) :
    paths.map components = paths'.map components :=
  List.Pairwise.eq_of_mem_iff (List.pairwise_map.mpr hpaths) (List.pairwise_map.mpr hpaths') hmem

/-- What lies at different places is in order once it is sorted. -/
theorem Apart.increasing_mergeSort (hapart : Apart place entries) :
    Increasing place
      (entries.mergeSort fun entry other => (compare (place entry) (place other)).isLE) := by
  have htotal (entry other : α) : ((compare (place entry) (place other)).isLE ||
      (compare (place other) (place entry)).isLE) = true := by
    rw [← Std.OrientedCmp.isGE_eq_isLE (a := place entry)]
    cases compare (place entry) (place other) <;> rfl
  have htrans (entry middle other : α) (hfirst : (compare (place entry) (place middle)).isLE = true)
      (hsecond : (compare (place middle) (place other)).isLE = true) :
      (compare (place entry) (place other)).isLE = true :=
    Std.TransOrd.isLE_trans hfirst hsecond
  have hsorted := List.pairwise_mergeSort htrans htotal entries
  exact hsorted.imp₂ (fun _ _ => precedes_of_isLE)
    (hapart.perm (List.mergeSort_perm entries _).symm)

end Path

end Scaffolding
