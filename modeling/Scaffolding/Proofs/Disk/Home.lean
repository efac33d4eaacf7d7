import Scaffolding.Proofs.Disk.Built

/-!
# The directories of a provider on a disk

Once the home is there, a walk to one of its entries is the walk to the
home and one step more, and the links on the way to the home do not
matter.  So a directory of the home that was missing at the start can turn
up before its turn in one way only: its name is a link, and what the link
leads to was made in the meantime.

* `stepsOf_child_home` is the one step more.
* `AtHome` is the invariant of the run through the directories of the home.
* `Built.foretold_directories_iff` is the result.
-/

namespace Scaffolding.Disk

open Report (Entry)

variable {start disk disk' : Disk} {purpose : Purpose} {links : Nat} {directory : Location}
  {steps : List Step} {place : Place} {provider : Provider} {root : Path}

/-! ## One step from the home -/

theorem stepOf?_of_isName {segment : Bytes} (hname : Path.IsName segment) :
    stepOf? segment = some (.name segment) := by
  unfold stepOf?
  rw [if_neg hname.ne_nil, if_neg hname.ne_dot, if_neg hname.ne_dots]

theorem getLast?_bytes_join {left : Path} {segment : Bytes} (hname : Path.IsName segment) :
    (left.join ⟨segment⟩).bytes.getLast? ≠ some Path.slash := by
  have hlast : (left.join ⟨segment⟩).bytes.getLast? = segment.getLast? := by
    unfold Path.join
    rw [hname.isAbsolute_eq_false, if_neg Bool.false_ne_true]
    cases segment with
    | nil => exact absurd rfl hname.ne_nil
    | cons byte bytes =>
      split
      · rw [List.getLast?_append_cons]
      · rw [List.getLast?_append_cons, List.getLast?_cons_cons]
  rw [hlast]
  intro hslash
  exact hname.slash_not_mem (List.mem_of_getLast? hslash)

theorem bytes_join_ne_nil {left : Path} {segment : Bytes} (hname : Path.IsName segment) :
    (left.join ⟨segment⟩).bytes ≠ [] := by
  unfold Path.join
  rw [hname.isAbsolute_eq_false, if_neg Bool.false_ne_true]
  split
  · exact List.append_ne_nil_of_right_ne_nil _ hname.ne_nil
  · exact List.append_ne_nil_of_right_ne_nil _ (List.cons_ne_nil _ _)

/-- The steps before the name that a path is joined with. -/
theorem stepsOf_join_stem (left : Path) {segment : Bytes} (hname : Path.IsName segment) :
    stepsOf (left.join ⟨segment⟩) = left.stem.filterMap stepOf? ++ [.name segment] := by
  unfold stepsOf
  rw [if_neg (getLast?_bytes_join hname), Path.segments_join hname, List.filterMap_append,
    List.filterMap_cons_some (stepOf?_of_isName hname), List.filterMap_nil]

/-- The steps of a path are those of its stem, with a slash if it ends in one. -/
theorem stepsOf_eq_stem (path : Path) :
    stepsOf path = path.stem.filterMap stepOf? ∨
      stepsOf path = path.stem.filterMap stepOf? ++ [.slash] := by
  have hidle : [([] : Bytes)].filterMap stepOf? = [] := rfl
  unfold stepsOf Path.stem
  by_cases hslash : path.bytes.getLast? = some Path.slash
  · obtain ⟨front, hfront⟩ := List.getLast?_eq_some_iff.mp hslash
    have hsegments : path.segments = (⟨front⟩ : Path).segments ++ [[]] := by
      show path.bytes.splitOn Path.slash = _
      rw [hfront]
      exact Path.segments_append_slash front []
    rw [if_pos hslash, if_pos (.inr hslash), hsegments, List.dropLast_concat,
      List.filterMap_append, hidle, List.append_nil]
    exact .inr rfl
  · rw [if_neg hslash]
    by_cases hempty : path.bytes = []
    · rw [if_pos (.inl hempty)]
      obtain ⟨bytes⟩ := path
      subst hempty
      exact .inl rfl
    · rw [if_neg (not_or.mpr ⟨hempty, hslash⟩)]
      exact .inl rfl

theorem stepsOf_join {left : Path} {segment : Bytes} (hleft : left.bytes ≠ [])
    (hslash : left.bytes.getLast? ≠ some Path.slash) (hname : Path.IsName segment) :
    stepsOf (left.join ⟨segment⟩) = stepsOf left ++ [.name segment] := by
  have hstem : left.stem = left.segments := by
    unfold Path.stem
    rw [if_neg]
    intro hend
    rcases hend with hempty | hlast
    · exact hleft hempty
    · exact hslash hlast
  rw [stepsOf_join_stem left hname, hstem]
  unfold stepsOf
  rw [if_neg hslash]

theorem isAbsolute_join {left : Path} {segment : Bytes} (hleft : left.bytes ≠ [])
    (hname : Path.IsName segment) : (left.join ⟨segment⟩).isAbsolute = left.isAbsolute := by
  obtain ⟨bytes⟩ := left
  cases bytes with
  | nil => exact absurd rfl hleft
  | cons byte bytes =>
    unfold Path.join
    rw [hname.isAbsolute_eq_false, if_neg Bool.false_ne_true]
    split <;> rfl

theorem startOf_join {left : Path} {segment : Bytes} (hname : Path.IsName segment) :
    startOf directory (left.join ⟨segment⟩) = startOf directory left := by
  unfold startOf
  by_cases hleft : left.bytes = []
  · obtain ⟨bytes⟩ := left
    subst hleft
    have hjoin : (⟨[]⟩ : Path).join ⟨segment⟩ = ⟨segment⟩ := by
      unfold Path.join
      rw [hname.isAbsolute_eq_false, if_neg Bool.false_ne_true, if_pos (.inl rfl), List.nil_append]
    rw [hjoin, hname.isAbsolute_eq_false]
    rfl
  · rw [isAbsolute_join hleft hname]

theorem stepsOf_child_home {text : String} (hmem : text ∈ provider.entryNames) :
    stepsOf ((provider.home root).child text) =
      stepsOf (provider.home root) ++ [.name (Text.encode text)] :=
  stepsOf_join (bytes_join_ne_nil provider.isName_name) (getLast?_bytes_join provider.isName_name)
    (Provider.isName_of_mem_entryNames hmem)

theorem startOf_child_home {text : String} (hmem : text ∈ provider.entryNames) :
    startOf directory ((provider.home root).child text) =
      startOf directory (provider.home root) :=
  startOf_join (Provider.isName_of_mem_entryNames hmem)

/-! ## Trees -/

/-- That every node of a disk lies in a directory. -/
def IsTree (disk : Disk) : Prop :=
  ∀ entry ∈ disk.nodes, disk.node? entry.1.dropLast = some .directory

instance (disk : Disk) : Decidable disk.IsTree :=
  inferInstanceAs (Decidable (∀ entry ∈ disk.nodes, _))

theorem IsTree.node?_above (htree : disk.IsTree) {above : Location} {name : Bytes} {node : Node}
    (hnode : disk.node? (above ++ [name]) = some node) : disk.node? above = some .directory := by
  unfold node? at hnode
  rw [if_neg (List.concat_ne_nil _ _)] at hnode
  obtain ⟨before, after, hnodes, -⟩ := List.lookup_eq_some_iff.mp hnode
  have hmem : (above ++ [name], node) ∈ disk.nodes := by
    rw [hnodes]
    exact List.mem_append_right _ List.mem_cons_self
  have habove := htree _ hmem
  rwa [List.dropLast_concat] at habove

/-! ## At the home -/

/-- That a path names a link, wherever the link leads. -/
def IsLink (disk : Disk) (path : Path) : Prop :=
  ∃ location target, disk.locate .entry path = .ok (.taken location (.link target))

/-- That the home is there, while some of its entries have not had their turn. -/
structure AtHome (start disk : Disk) (home : Path) (location : Location) (pending : List String) :
    Prop where
  larger : start.Extends disk
  leads : ∃ used ≤ maxLinks, Leads disk .look used (startOf start.here home) (stepsOf home)
    (.taken location .directory)
  /-- The home was there at the start, or nothing was. -/
  origin : (∃ used ≤ maxLinks, Leads start .look used (startOf start.here home) (stepsOf home)
    (.taken location .directory)) ∨ start.node? location = none
  pending_eq : ∀ text ∈ pending, disk.node? (location ++ [Text.encode text]) =
    start.node? (location ++ [Text.encode text])

variable {location : Location} {node : Node} {text : String} {pending : List String}

theorem exists_atHome_of_found (hfound : start.isDirectory (provider.home root) = true) :
    ∃ location, AtHome start start (provider.home root) location pending := by
  obtain ⟨location, hlocate⟩ := isDirectory_eq_true_iff.mp hfound
  obtain ⟨-, hleads⟩ := locate_eq_ok_iff.mp hlocate
  exact ⟨location, .refl _, hleads, .inl hleads, fun _ _ => rfl⟩

theorem atHome_of_made (hmakes : start.Makes (.directory (provider.home root)) location node) :
    AtHome start (start.insert location node) (provider.home root) location pending := by
  have hvacant := hmakes.vacant
  have hextends := hmakes.grows.extends
  cases hmakes with
  | directory _ hfree =>
    obtain ⟨-, used, hused, hleads⟩ := locate_eq_ok_iff.mp hfree
    refine ⟨hextends, ⟨used, hused, ?_⟩, .inr hvacant, ?_⟩
    · apply hleads.look_of_made hextends
      rw [node?_insert start (ne_nil_of_vacant hvacant), if_pos rfl]
    · intro text _
      rw [node?_insert start (ne_nil_of_vacant hvacant), if_neg]
      intro heq
      have hlength := congrArg List.length heq
      rw [List.length_append, List.length_singleton] at hlength
      omega

/-- What comes of a walk to an entry of the home is decided at the home. -/
theorem AtHome.exists_leads
    (hathome : AtHome start disk (provider.home root) location pending)
    (hmem : text ∈ provider.entryNames)
    (hlocate : disk.locate purpose ((provider.home root).child text) = .ok place) :
    Walkable ((provider.home root).child text) ∧
      ∃ used, Leads disk purpose used location [.name (Text.encode text)] place := by
  obtain ⟨hpath, used, -, hleads⟩ := locate_eq_ok_iff.mp hlocate
  rw [stepsOf_child_home hmem, startOf_child_home hmem, hathome.larger.here_eq] at hleads
  obtain ⟨before, more, home, -, hbefore, hname⟩ := hleads.exists_of_append
  obtain ⟨_, -, hhome⟩ := hathome.leads
  have hplace := hbefore.unique hhome
  injection hplace with hplace
  subst hplace
  exact ⟨hpath, more, hname⟩

theorem locate_child_home (hmem : text ∈ provider.entryNames)
    (hpath : Walkable ((provider.home root).child text))
    (hhome : ∃ used ≤ maxLinks, Leads disk .look used (startOf disk.here (provider.home root))
      (stepsOf (provider.home root)) (.taken location .directory))
    (hname : Leads disk purpose 0 location [.name (Text.encode text)] place) :
    disk.locate purpose ((provider.home root).child text) = .ok place := by
  obtain ⟨used, hused, hleads⟩ := hhome
  refine locate_eq_ok_iff.mpr ⟨hpath, used, hused, ?_⟩
  rw [stepsOf_child_home hmem, startOf_child_home hmem]
  exact hleads.append hname

/-- A directory that turned up before its turn is a link. -/
theorem AtHome.isLink_of_found (htree : start.IsTree)
    (hathome : AtHome start disk (provider.home root) location (text :: pending))
    (hmem : text ∈ provider.entryNames)
    (hfound : disk.isDirectory ((provider.home root).child text) = true)
    (hmissing : start.isDirectory ((provider.home root).child text) = false) :
    start.IsLink ((provider.home root).child text) := by
  obtain ⟨reached, hlocate⟩ := isDirectory_eq_true_iff.mp hfound
  obtain ⟨hpath, used, hleads⟩ := hathome.exists_leads hmem hlocate
  have hsame := hathome.pending_eq text List.mem_cons_self
  have hthere : ∀ node, start.node? (location ++ [Text.encode text]) = some node →
      ∃ used ≤ maxLinks, Leads start .look used (startOf start.here (provider.home root))
        (stepsOf (provider.home root)) (.taken location .directory) := by
    intro node hnode
    rcases hathome.origin with hhome | hvacant
    · exact hhome
    · rw [htree.node?_above hnode] at hvacant
      cases hvacant
  cases hleads with
  | enter hfits hnode _ =>
    rw [hsame] at hnode
    have hstart := locate_child_home hmem hpath (hthere _ hnode) (.enter hfits hnode .arrive)
    rw [isDirectory_eq_true_iff.mpr ⟨_, hstart⟩] at hmissing
    cases hmissing
  | follow hfits hnode _ _ =>
    rw [hsame] at hnode
    have hentry : Fits .entry (Text.encode text) [] := by
      refine ⟨?_, hfits.2⟩
      intro hboth
      obtain ⟨hwrite, -⟩ := hboth
      cases hwrite
    exact ⟨_, _, locate_child_home hmem hpath (hthere _ hnode) (.link hentry hnode ⟨rfl, rfl⟩)⟩

theorem not_isLink_of_makes {path : Path} (hextends : start.Extends disk)
    (hmakes : disk.Makes (.directory path) location node) : ¬ start.IsLink path := by
  intro hislink
  obtain ⟨reached, target, hlink⟩ := hislink
  cases hmakes with
  | directory _ hfree =>
    rw [hextends.locate hlink] at hfree
    cases hfree

theorem AtHome.of_made {made : Location}
    (hathome : AtHome start disk (provider.home root) location (text :: pending))
    (hmem : text ∈ provider.entryNames) (hfresh : text ∉ pending)
    (hmakes : disk.Makes (.directory ((provider.home root).child text)) made node) :
    AtHome start (disk.insert made node) (provider.home root) location pending := by
  have hvacant := hmakes.vacant
  have hextends := hmakes.grows.extends
  cases hmakes with
  | directory _ hfree =>
    -- The walk ended at the name itself: a link there would have been the entry.
    obtain ⟨-, used, hleads⟩ := hathome.exists_leads hmem hfree
    cases hleads with
    | follow _ _ hgoes _ => exact absurd ⟨rfl, rfl⟩ hgoes
    | enter _ _ hrest => cases hrest
    | free _ _ _ =>
      obtain ⟨used, hused, hhome⟩ := hathome.leads
      refine ⟨hathome.larger.trans hextends, ⟨used, hused, hhome.extend hextends⟩,
        hathome.origin, ?_⟩
      intro other hother
      rw [node?_insert disk (ne_nil_of_vacant hvacant), if_neg]
      · exact hathome.pending_eq other (List.mem_cons_of_mem _ hother)
      · intro heq
        have hname := List.append_cancel_left heq
        injection hname with hbytes
        rw [Text.encode_injective hbytes] at hother
        exact hfresh hother

theorem AtHome.tail (hathome : AtHome start disk (provider.home root) location (text :: pending)) :
    AtHome start disk (provider.home root) location pending where
  larger := hathome.larger
  leads := hathome.leads
  origin := hathome.origin
  pending_eq other hother := hathome.pending_eq other (List.mem_cons_of_mem _ hother)

/-! ## The directories in their order -/

theorem Built.foretold_subdirectories_iff (htree : start.IsTree) {names : List String}
    {entries : List Entry}
    (hathome : AtHome start disk (provider.home root) location names) (hnodup : names.Nodup)
    (hnames : ∀ text ∈ names, text ∈ provider.entryNames)
    (hbuilt : Built ((names.map (provider.home root).child).map .directory) disk entries disk') :
    Foretold start ((names.map (provider.home root).child).map .directory) entries ↔
      ∀ path ∈ names.map (provider.home root).child,
        start.isDirectory path = false → ¬ start.IsLink path := by
  induction names generalizing disk entries with
  | nil =>
    cases hbuilt
    simp [foretold_nil]
  | cons text rest ih =>
    obtain ⟨hfresh, hnodup⟩ := List.nodup_cons.mp hnodup
    obtain ⟨hmem, hnames⟩ := List.forall_mem_cons.mp hnames
    rw [List.map_cons, List.map_cons] at hbuilt ⊢
    rw [List.forall_mem_cons]
    cases hbuilt with
    | found hholds hrest =>
      rw [foretold_found_iff, ih hathome.tail hnodup hnames hrest]
      refine and_congr_left fun _ => ?_
      constructor
      · intro hold hmissing
        rw [show start.isDirectory _ = true from hold] at hmissing
        cases hmissing
      · intro hlink
        by_contra hmissing
        have hmissing := Bool.eq_false_iff.mpr hmissing
        exact hlink hmissing (hathome.isLink_of_found htree hmem hholds hmissing)
    | made hmakes hrest =>
      rw [foretold_made_iff (hathome.larger.missing hmakes.missing),
        ih (hathome.of_made hmem hfresh hmakes) hnodup hnames hrest]
      exact (and_iff_right fun _ => not_isLink_of_makes hathome.larger hmakes).symm

/-- The directories are those of the plan as long as none of them was a link that led nowhere. -/
theorem Built.foretold_directories_iff (htree : start.IsTree) {entries : List Entry}
    (hbuilt : Built ((provider.directories root).map .directory) start entries disk') :
    Foretold start ((provider.directories root).map .directory) entries ↔
      ∀ path ∈ provider.directories root,
        start.isDirectory path = false → ¬ start.IsLink path := by
  have hnodup : subdirectories.Nodup := by decide
  have hnames : ∀ text ∈ subdirectories, text ∈ provider.entryNames :=
    fun text hmem => List.mem_append_left _ hmem
  unfold Provider.directories at hbuilt ⊢
  rw [List.map_cons] at hbuilt ⊢
  rw [List.forall_mem_cons]
  cases hbuilt with
  | found hholds hrest =>
    obtain ⟨location, hathome⟩ := exists_atHome_of_found hholds
    rw [foretold_found_iff, hrest.foretold_subdirectories_iff htree hathome hnodup hnames]
    refine and_congr_left fun _ => iff_of_true hholds ?_
    intro hmissing
    rw [show start.isDirectory _ = true from hholds] at hmissing
    cases hmissing
  | made hmakes hrest =>
    rw [foretold_made_iff hmakes.missing,
      hrest.foretold_subdirectories_iff htree (atHome_of_made hmakes) hnodup hnames]
    exact (and_iff_right fun _ => not_isLink_of_makes (.refl _) hmakes).symm

end Scaffolding.Disk
