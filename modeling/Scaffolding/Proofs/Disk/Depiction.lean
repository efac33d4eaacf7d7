import Scaffolding.Proofs.Disk.Foresight
import Scaffolding.Proofs.Disk.Names
import Scaffolding.Proofs.Store.Source

/-!
# A store in the place of a disk

A store looks paths up in a set, and a disk walks them.  The two agree on
canonical paths as long as the disk has no links below the working
directory.

* `Store.Depicts` relates a store to the disk that it stands for.
* `Depicts.makeDirectory_cases` and `Depicts.write_cases` keep the
  relation, one order at a time.
* `memory_stands_in` is the result, for single calls and for sequences of
  scripts.
-/

namespace Scaffolding

/-! ## The relation -/

namespace Store

/-- That a store holds the directories and the files that a disk has below its working directory,
under their relative paths, and nothing else.  There is no link among them, and each file is a
text. -/
structure Depicts (store : Store) (disk : Disk) : Prop where
  tree : disk.IsTree
  here_eq : disk.node? disk.here = some .directory
  plain : ∀ {names node}, disk.node? (disk.here ++ names) = some node →
    node = .directory ∨ ∃ text, node = .file (Text.encode text)
  isDirectory_iff : ∀ {path}, store.isDirectory path = true ↔
    path ≠ .empty ∧ disk.Shows path .directory
  read?_iff : ∀ {path text}, store.read? path = some text ↔
    disk.Shows path (.file (Text.encode text))

variable {store : Store} {disk : Disk} {path : Path} {names : List Bytes} {name : Bytes}

/-- A store without anything depicts a disk without anything. -/
theorem depicts_fresh : Store.empty.Depicts (Disk.fresh []) := by
  have hnode : ∀ {names : List Bytes} {node : Node},
      (Disk.fresh []).node? ((Disk.fresh []).here ++ names) = some node →
        names = [] ∧ node = .directory := by
    intro names node hsome
    unfold Disk.node? at hsome
    split at hsome
    · next hroot => exact ⟨hroot, (Option.some.inj hsome).symm⟩
    · cases hsome
  constructor
  case tree => decide
  case here_eq => rfl
  case plain => exact fun hsome => .inl (hnode hsome).2
  case isDirectory_iff =>
    intro path
    refine iff_of_false Bool.false_ne_true ?_
    rintro ⟨hempty, names, hnames, hshown⟩
    rw [(hnode hshown).1] at hnames
    exact hempty (Path.components_eq_nil_iff.mp hnames)
  case read?_iff =>
    intro path text
    refine iff_of_false nofun ?_
    rintro ⟨names, -, hshown⟩
    cases (hnode hshown).2

namespace Depicts

theorem not_link (hdepicts : store.Depicts disk) (rest : Location) (target : Bytes) :
    disk.node? (disk.here ++ rest) ≠ some (.link target) := by
  intro hlink
  rcases hdepicts.plain hlink with hnode | ⟨_, hnode⟩ <;> cases hnode

section Look

variable (hdepicts : store.Depicts disk) (hpath : path.IsCanonical)

include hdepicts hpath

theorem isDirectory_iff_node? :
    store.isDirectory path = true ↔
      disk.node? (disk.here ++ path.segments) = some .directory := by
  rw [hdepicts.isDirectory_iff, Disk.shows_iff hpath]
  exact and_iff_right fun hempty => hpath.bytes_ne_nil (congrArg Path.bytes hempty)

theorem isFile_iff_node? :
    store.isFile path = true ↔
      ∃ text, disk.node? (disk.here ++ path.segments) = some (.file (Text.encode text)) := by
  rw [isFile_eq_true_iff]
  simp only [hdepicts.read?_iff, Disk.shows_iff hpath]

theorem isPresent_iff_node? :
    store.isPresent path = true ↔
      ∃ node, disk.node? (disk.here ++ path.segments) = some node := by
  rw [isPresent_eq_true_iff, hdepicts.isFile_iff_node? hpath, hdepicts.isDirectory_iff_node? hpath]
  constructor
  · rintro (⟨text, hnode⟩ | hnode)
    · exact ⟨_, hnode⟩
    · exact ⟨_, hnode⟩
  · rintro ⟨node, hnode⟩
    rcases hdepicts.plain hnode with rfl | ⟨text, rfl⟩
    · exact .inr hnode
    · exact .inl ⟨text, hnode⟩

/-- The parent of a path is there iff all names but the last lead to a directory. -/
theorem isParentMissing_iff_node? (hsegments : path.segments = names ++ [name]) :
    store.isParentMissing path = true ↔
      disk.node? (disk.here ++ names) ≠ some .directory := by
  obtain ⟨parent, hparent, hcomponents⟩ := hpath.exists_parent? hsegments
  have hthere : disk.Shows parent .directory ↔
      disk.node? (disk.here ++ names) = some .directory := by
    unfold Disk.Shows
    rw [hcomponents]
    constructor
    · rintro ⟨others, hnames, hnode⟩
      rwa [Disk.names_inj hnames]
    · exact fun hnode => ⟨names, rfl, hnode⟩
  have hempty : parent = .empty → disk.node? (disk.here ++ names) = some .directory := by
    intro hnil
    rw [← Path.components_eq_nil_iff, hcomponents, List.map_eq_nil_iff] at hnil
    rw [hnil, List.append_nil]
    exact hdepicts.here_eq
  rw [isParentMissing_eq_true_iff]
  constructor
  · rintro ⟨_, hother, hne, hmissing⟩ hnode
    rw [hparent] at hother
    cases hother
    rw [hdepicts.isDirectory_iff.mpr ⟨hne, hthere.mpr hnode⟩] at hmissing
    cases hmissing
  · intro hnode
    refine ⟨parent, hparent, fun hnil => hnode (hempty hnil), ?_⟩
    exact Bool.eq_false_iff.mpr fun hdirectory =>
      hnode (hthere.mp (hdepicts.isDirectory_iff.mp hdirectory).2)

/-- Where something is, the parent is there. -/
theorem above_of_node? {node : Node}
    (hnode : disk.node? (disk.here ++ path.segments) = some node) :
    disk.node? (disk.here ++ path.segments).dropLast = some .directory ∧
      store.isParentMissing path = false := by
  obtain ⟨names, name, hsegments⟩ :=
    (List.eq_nil_or_concat path.segments).resolve_left path.segments_ne_nil
  rw [List.concat_eq_append] at hsegments
  have hparent := hdepicts.isParentMissing_iff_node? hpath hsegments
  rw [hsegments, ← List.append_assoc] at hnode ⊢
  have habove := hdepicts.tree.node?_above hnode
  rw [List.dropLast_concat]
  exact ⟨habove, Bool.eq_false_iff.mpr fun hmissing => hparent.mp hmissing habove⟩

end Look

/-! ## Looks -/

section Call

variable (hdepicts : store.Depicts disk) (hpath : path.IsCanonical)
  (hadmits : Disk.Admits path)

include hdepicts hpath hadmits

/-- The walk of a canonical path ends at a node iff the node is where the names say. -/
theorem locate_eq_taken_iff {purpose : Disk.Purpose} {location : Location} {node : Node} :
    disk.locate purpose path = .ok (.taken location node) ↔
      location = disk.here ++ path.segments ∧ disk.node? location = some node := by
  obtain ⟨names, name, hsegments⟩ :=
    (List.eq_nil_or_concat path.segments).resolve_left path.segments_ne_nil
  rw [List.concat_eq_append] at hsegments
  rw [hsegments, ← List.append_assoc]
  constructor
  · intro hlocate
    have habove := Disk.isDirectory_above_of_locate hpath hsegments hdepicts.not_link
      hdepicts.here_eq hlocate
    rw [Disk.locate_eq_placeAt hpath hsegments hdepicts.not_link hadmits hdepicts.tree habove]
      at hlocate
    injection hlocate with hplace
    cases hnode : disk.node? (disk.here ++ names ++ [name]) with
    | none =>
      rw [Disk.placeAt_of_none hnode] at hplace
      cases hplace
    | some other =>
      rw [Disk.placeAt_of_some hnode] at hplace
      cases hplace
      exact ⟨rfl, hnode⟩
  · rintro ⟨rfl, hnode⟩
    have habove := hdepicts.tree.node?_above hnode
    rw [Disk.locate_eq_placeAt hpath hsegments hdepicts.not_link hadmits hdepicts.tree habove,
      Disk.placeAt_of_some hnode]

theorem isDirectory_eq : store.isDirectory path = disk.isDirectory path := by
  rw [Bool.eq_iff_iff, hdepicts.isDirectory_iff_node? hpath, Disk.isDirectory_eq_true_iff]
  constructor
  · exact fun hnode => ⟨_, (hdepicts.locate_eq_taken_iff hpath hadmits).mpr ⟨rfl, hnode⟩⟩
  · rintro ⟨_, hlocate⟩
    obtain ⟨rfl, hnode⟩ := (hdepicts.locate_eq_taken_iff hpath hadmits).mp hlocate
    exact hnode

theorem isPresent_eq : store.isPresent path = disk.isPresent path := by
  rw [Bool.eq_iff_iff, hdepicts.isPresent_iff_node? hpath, Disk.isPresent_eq_true_iff]
  constructor
  · rintro ⟨_, hnode⟩
    exact ⟨_, _, (hdepicts.locate_eq_taken_iff hpath hadmits).mpr ⟨rfl, hnode⟩⟩
  · rintro ⟨_, _, hlocate⟩
    obtain ⟨rfl, hnode⟩ := (hdepicts.locate_eq_taken_iff hpath hadmits).mp hlocate
    exact ⟨_, hnode⟩

/-- Where nothing is, the walk of a canonical path ends at a free name or fails, as the parent is
there or not. -/
theorem locate_of_vacant (purpose : Disk.Purpose)
    (hvacant : disk.node? (disk.here ++ path.segments) = none) :
    (store.isParentMissing path = false ∧
        disk.node? (disk.here ++ path.segments).dropLast = some .directory ∧
        ∃ above name, above ++ [name] = disk.here ++ path.segments ∧
          disk.locate purpose path = .ok (.free above name)) ∨
      store.isParentMissing path = true ∧ ∃ fault, disk.locate purpose path = .error fault := by
  obtain ⟨names, name, hsegments⟩ :=
    (List.eq_nil_or_concat path.segments).resolve_left path.segments_ne_nil
  rw [List.concat_eq_append] at hsegments
  have hparent := hdepicts.isParentMissing_iff_node? hpath hsegments
  rw [hsegments, ← List.append_assoc] at hvacant ⊢
  by_cases habove : disk.node? (disk.here ++ names) = some .directory
  · refine .inl ⟨?_, ?_, _, _, rfl, ?_⟩
    · exact Bool.eq_false_iff.mpr fun hmissing => hparent.mp hmissing habove
    · rwa [List.dropLast_concat]
    · rw [Disk.locate_eq_placeAt hpath hsegments hdepicts.not_link hadmits hdepicts.tree habove,
        Disk.placeAt_of_none hvacant]
  · refine .inr ⟨hparent.mpr habove, ?_⟩
    cases hlocate : disk.locate purpose path with
    | error fault => exact ⟨fault, rfl⟩
    | ok place =>
      exact absurd (Disk.isDirectory_above_of_locate hpath hsegments hdepicts.not_link
        hdepicts.here_eq hlocate) habove

end Call

/-! ## Orders -/

section Insert

variable (hdepicts : store.Depicts disk) (hpath : path.IsCanonical)
  (habove : disk.node? (disk.here ++ path.segments).dropLast = some .directory)
  (hplace : disk.node? (disk.here ++ path.segments) ≠ some .directory)

include hdepicts hpath habove hplace

/-- A disk with another node at a path is depicted by any store that has that node in its place. -/
theorem insert {store' : Store} {node : Node}
    (hnode : node = .directory ∨ ∃ text, node = .file (Text.encode text))
    (hdirectory : ∀ {other}, store'.isDirectory other = true ↔
      if path ≈ other then node = .directory else store.isDirectory other = true)
    (hread : ∀ {other text}, store'.read? other = some text ↔
      if path ≈ other then node = .file (Text.encode text) else store.read? other = some text) :
    store'.Depicts (disk.insert (disk.here ++ path.segments) node) := by
  have hroot : disk.here ++ path.segments ≠ [] :=
    List.append_ne_nil_of_right_ne_nil _ path.segments_ne_nil
  have hempty : ∀ {other}, path ≈ other → other ≠ .empty := by
    rintro _ hsame rfl
    have hnil := hpath.components_eq.symm.trans hsame
    exact path.segments_ne_nil (List.map_eq_nil_iff.mp hnil)
  constructor
  case tree => exact hdepicts.tree.insert hroot habove hplace
  case here_eq =>
    rw [Disk.here_insert, Disk.node?_insert disk hroot, if_neg]
    · exact hdepicts.here_eq
    · intro hhere
      rw [← hhere] at hplace
      exact hplace hdepicts.here_eq
  case plain =>
    intro names other hother
    rw [Disk.here_insert, Disk.node?_insert disk hroot] at hother
    split at hother
    · rwa [← Option.some.inj hother]
    · exact hdepicts.plain hother
  case isDirectory_iff =>
    intro other
    rw [hdirectory, Disk.shows_insert_iff hpath]
    by_cases hsame : path ≈ other
    · rw [if_pos hsame, if_pos hsame]
      exact (and_iff_right (hempty hsame)).symm
    · rw [if_neg hsame, if_neg hsame, hdepicts.isDirectory_iff]
  case read?_iff =>
    intro other text
    rw [hread, Disk.shows_insert_iff hpath]
    by_cases hsame : path ≈ other
    · rw [if_pos hsame, if_pos hsame]
    · rw [if_neg hsame, if_neg hsame, hdepicts.read?_iff]

theorem insertDirectory (hfree : store.isFile path = false) :
    (store.insertDirectory path).Depicts (disk.insert (disk.here ++ path.segments) .directory) := by
  apply hdepicts.insert hpath habove hplace (.inl rfl)
  · intro other
    rw [isDirectory_insertDirectory, Bool.or_eq_true, decide_eq_true_eq]
    by_cases hsame : path ≈ other
    · simp only [hsame, true_or, if_true]
    · simp only [hsame, false_or, if_false]
  · intro other text
    rw [read?_insertDirectory]
    by_cases hsame : path ≈ other
    · rw [if_pos hsame, ← read?_congr store hsame]
      unfold isFile at hfree
      rw [Option.isSome_eq_false_iff, Option.isNone_iff_eq_none] at hfree
      simp [hfree]
    · rw [if_neg hsame]

theorem insertFile (text : String) :
    (store.insertFile path text).Depicts
      (disk.insert (disk.here ++ path.segments) (.file (Text.encode text))) := by
  apply hdepicts.insert hpath habove hplace (.inr ⟨text, rfl⟩)
  · intro other
    rw [isDirectory_insertFile]
    by_cases hsame : path ≈ other
    · have hmissing : store.isDirectory path ≠ true :=
        fun hthere => hplace ((hdepicts.isDirectory_iff_node? hpath).mp hthere)
      rw [if_pos hsame, ← isDirectory_congr store hsame]
      simp [hmissing]
    · rw [if_neg hsame]
  · intro other other'
    rw [read?_insertFile]
    by_cases hsame : path ≈ other
    · rw [if_pos hsame, if_pos hsame, Option.some.injEq, Node.file.injEq]
      exact ⟨congrArg Text.encode, Text.encode_injective⟩
    · rw [if_neg hsame, if_neg hsame]

end Insert

section Order

variable (hdepicts : store.Depicts disk) (hpath : path.IsCanonical)
  (hadmits : Disk.Admits path)

include hdepicts hpath hadmits

/-- Both make a directory, or have it already, or both refuse. -/
theorem makeDirectory_cases :
    (∃ store' disk', store.makeDirectory path = .ok store' ∧
        disk.ensureDirectory path = (.ok (), disk') ∧ store'.Depicts disk') ∨
      ∃ reason reason', store.makeDirectory path = .error (.filesystem path reason) ∧
        disk.ensureDirectory path = (.error (.filesystem path reason'), disk) := by
  have hlook := hdepicts.isDirectory_eq hpath hadmits
  unfold Store.makeDirectory Disk.ensureDirectory Disk.makeDirectory
  cases hthere : store.isDirectory path with
  | true =>
    rw [← hlook, hthere, if_pos rfl, if_pos rfl]
    exact .inl ⟨store, disk, rfl, rfl, hdepicts⟩
  | false =>
    rw [← hlook, hthere, if_neg Bool.false_ne_true, if_neg Bool.false_ne_true]
    cases hnode : disk.node? (disk.here ++ path.segments) with
    | some node =>
      have hfile : store.isFile path = true := by
        have hpresent := (hdepicts.isPresent_iff_node? hpath).mpr ⟨node, hnode⟩
        unfold isPresent at hpresent
        rwa [hthere, Bool.or_false] at hpresent
      rw [if_pos hfile, (hdepicts.locate_eq_taken_iff hpath hadmits).mpr ⟨rfl, hnode⟩]
      exact .inr ⟨_, _, rfl, rfl⟩
    | none =>
      have hfree : store.isFile path = false := by
        apply Bool.eq_false_iff.mpr
        intro hfile
        obtain ⟨_, hsome⟩ := (hdepicts.isFile_iff_node? hpath).mp hfile
        rw [hnode] at hsome
        cases hsome
      rw [hfree, if_neg Bool.false_ne_true]
      rcases hdepicts.locate_of_vacant hpath hadmits .entry hnode with
        ⟨hparent, habove, above, name, hlocation, hlocate⟩ | ⟨hparent, fault, hlocate⟩
      · rw [hparent, if_neg Bool.false_ne_true, hlocate]
        simp only [hlocation]
        refine .inl ⟨_, _, rfl, rfl, ?_⟩
        exact hdepicts.insertDirectory hpath habove (by rw [hnode]; nofun) hfree
      · rw [if_pos hparent, hlocate]
        exact .inr ⟨_, _, rfl, rfl⟩

/-- Both put a file, over an old one or not, or both refuse. -/
theorem write_cases (text : String) :
    (∃ store' disk', store.write path text = .ok store' ∧
        disk.writeText path text = (.ok (), disk') ∧ store'.Depicts disk') ∨
      ∃ reason reason', store.write path text = .error (.filesystem path reason) ∧
        disk.writeText path text = (.error (.filesystem path reason'), disk) := by
  unfold Store.write Disk.writeText Disk.write
  cases hnode : disk.node? (disk.here ++ path.segments) with
  | none =>
    have hthere : store.isDirectory path = false := by
      apply Bool.eq_false_iff.mpr
      intro hdirectory
      rw [(hdepicts.isDirectory_iff_node? hpath).mp hdirectory] at hnode
      cases hnode
    rcases hdepicts.locate_of_vacant hpath hadmits .write hnode with
      ⟨hparent, habove, above, name, hlocation, hlocate⟩ | ⟨hparent, fault, hlocate⟩
    · rw [hparent, hthere, Bool.or_false, if_neg Bool.false_ne_true, hlocate]
      simp only [hlocation]
      refine .inl ⟨_, _, rfl, rfl, ?_⟩
      exact hdepicts.insertFile hpath habove (by rw [hnode]; nofun) text
    · rw [hparent, Bool.true_or, if_pos rfl, hlocate]
      exact .inr ⟨_, _, rfl, rfl⟩
  | some node =>
    rw [(hdepicts.locate_eq_taken_iff hpath hadmits).mpr ⟨rfl, hnode⟩]
    rcases hdepicts.plain hnode with rfl | ⟨old, rfl⟩
    · rw [(hdepicts.isDirectory_iff_node? hpath).mpr hnode, Bool.or_true, if_pos rfl]
      exact .inr ⟨_, _, rfl, rfl⟩
    · have hthere : store.isDirectory path = false := by
        apply Bool.eq_false_iff.mpr
        intro hdirectory
        rw [(hdepicts.isDirectory_iff_node? hpath).mp hdirectory] at hnode
        cases hnode
      obtain ⟨habove, hparent⟩ := hdepicts.above_of_node? hpath hnode
      rw [hparent, hthere, Bool.or_false, if_neg Bool.false_ne_true]
      refine .inl ⟨_, _, rfl, rfl, ?_⟩
      exact hdepicts.insertFile hpath habove (by rw [hnode]; nofun) text

end Order

end Depicts

end Store

/-! ## A memory in the place of a disk -/

/-- That failures are of one kind and about one path. -/
def Failure.SamePlace (failure failure' : Failure) : Prop :=
  failure = failure' ∨
    ∃ path reason reason', failure = .filesystem path reason ∧ failure' = .filesystem path reason'

namespace Memory

/-- That a memory with sound locks holds what a disk has below its working directory. -/
def Depicts (memory : Memory) (disk : Disk) : Prop :=
  ∃ store shelf, memory = .holding store shelf ∧ store.Depicts disk

/-- That an order about a path came to the same end in a memory and on a disk, and left states that
belong together. -/
def Agrees (path : Path) (inMemory : Except Failure Unit × Memory)
    (onDisk : Except Failure Unit × Disk) : Prop :=
  Alike (fun failure failure' => ∃ reason reason', failure = .filesystem path reason ∧
      failure' = .filesystem path reason') inMemory.1 onDisk.1 ∧
    inMemory.2.Depicts onDisk.2

variable {memory : Memory} {disk : Disk} {path : Path}

section Call

variable (hdepicts : memory.Depicts disk) (hpath : path.IsCanonical)
  (hadmits : Disk.Admits path)

include hdepicts hpath hadmits

theorem Depicts.isDirectory_eq : memory.isDirectory path = disk.isDirectory path := by
  obtain ⟨store, shelf, rfl, hstore⟩ := hdepicts
  exact hstore.isDirectory_eq hpath hadmits

theorem Depicts.isPresent_eq : memory.isPresent path = disk.isPresent path := by
  obtain ⟨store, shelf, rfl, hstore⟩ := hdepicts
  exact hstore.isPresent_eq hpath hadmits

theorem Depicts.makeDirectory_agrees :
    Agrees path (memory.makeDirectory path) (disk.ensureDirectory path) := by
  obtain ⟨store, shelf, rfl, hstore⟩ := hdepicts
  unfold Memory.makeDirectory
  rcases hstore.makeDirectory_cases hpath hadmits with
    ⟨store', disk', hmemory, hdisk, hafter⟩ | ⟨reason, reason', hmemory, hdisk⟩
  · rw [order_holding_ok hmemory, hdisk]
    exact ⟨.ok (), store', shelf, rfl, hafter⟩
  · rw [order_holding_error hmemory, hdisk]
    exact ⟨.error ⟨reason, reason', rfl, rfl⟩, store, shelf, rfl, hstore⟩

theorem Depicts.write_agrees (text : String) :
    Agrees path (memory.write path text) (disk.writeText path text) := by
  obtain ⟨store, shelf, rfl, hstore⟩ := hdepicts
  unfold Memory.write
  rcases hstore.write_cases hpath hadmits text with
    ⟨store', disk', hmemory, hdisk, hafter⟩ | ⟨reason, reason', hmemory, hdisk⟩
  · rw [order_holding_ok hmemory, hdisk]
    exact ⟨.ok (), store', shelf, rfl, hafter⟩
  · rw [order_holding_error hmemory, hdisk]
    exact ⟨.error ⟨reason, reason', rfl, rfl⟩, store, shelf, rfl, hstore⟩

end Call

/-- With the same source of templates, a memory mirrors the disk that it depicts. -/
theorem mirrors_disk {τ : Type} (load : Template → τ → Except Failure String × τ) :
    (surroundingsWith load).Mirrors
      (Disk.surroundingsWith fun template state => load template state.2)
      (fun path => path.IsCanonical ∧ Disk.Admits path) Failure.SamePlace
      (fun inMemory onDisk => inMemory.1.Depicts onDisk.1 ∧ inMemory.2 = onDisk.2) where
  isDirectory := by
    rintro path _ _ ⟨hpath, hadmits⟩ ⟨hdepicts, hsource⟩
    exact ⟨hdepicts.isDirectory_eq hpath hadmits, hdepicts, hsource⟩
  isPresent := by
    rintro path _ _ ⟨hpath, hadmits⟩ ⟨hdepicts, hsource⟩
    exact ⟨hdepicts.isPresent_eq hpath hadmits, hdepicts, hsource⟩
  makeDirectory := by
    rintro path _ _ ⟨hpath, hadmits⟩ ⟨hdepicts, hsource⟩
    obtain ⟨halike, hafter⟩ := hdepicts.makeDirectory_agrees hpath hadmits
    exact ⟨halike.imp fun hsame => .inr ⟨path, hsame⟩, hafter, hsource⟩
  write := by
    rintro path _ _ text ⟨hpath, hadmits⟩ ⟨hdepicts, hsource⟩
    obtain ⟨halike, hafter⟩ := hdepicts.write_agrees hpath hadmits text
    exact ⟨halike.imp fun hsame => .inr ⟨path, hsame⟩, hafter, hsource⟩
  load := by
    rintro ⟨memory, source⟩ ⟨disk, source'⟩ template ⟨hdepicts, hsource⟩
    cases hsource
    refine ⟨?_, hdepicts, rfl⟩
    show Alike _ (load template source).1 (load template source).1
    cases (load template source).1 with
    | error failure => exact .error (.inl rfl)
    | ok text => exact .ok text

end Memory

/-- The paths of a provider are canonical if its output root is, or is empty. -/
theorem Provider.isCanonical_site {provider : Provider} {root : Path}
    (hroot : root = .empty ∨ root.IsCanonical) {site : Site} (hsite : site ∈ provider.sites root) :
    site.path.IsCanonical := by
  have hhome : (provider.home root).IsCanonical := Path.isCanonical_join provider.isName_name hroot
  have hmem := List.mem_map_of_mem (f := Site.path) hsite
  rw [provider.map_path_sites root] at hmem
  rcases List.mem_cons.mp hmem with hpath | hchild
  · rwa [hpath]
  · obtain ⟨text, htext, hpath⟩ := List.mem_map.mp hchild
    rw [← hpath]
    exact Path.isCanonical_join (isName_of_mem_entryNames htext) (.inr hhome)

namespace Script

/-- A memory stands in for the disk that it depicts.  On canonical paths every call comes to the
same end in both, and they still belong together.  So do all scripts, one after another, as long as
they keep to paths that the system takes and have the same source of templates. -/
theorem memory_stands_in {memory : Memory} {disk : Disk} (hdepicts : memory.Depicts disk) :
    (∀ path : Path, path.IsCanonical → Disk.Admits path →
      memory.isDirectory path = disk.isDirectory path ∧
        memory.isPresent path = disk.isPresent path ∧
        Memory.Agrees path (memory.makeDirectory path) (disk.ensureDirectory path) ∧
        ∀ text, Memory.Agrees path (memory.write path text) (disk.writeText path text)) ∧
      ∀ {τ : Type} (load : Template → τ → Except Failure String × τ) (source : τ)
        (tasks : List Task),
        (∀ task ∈ tasks, (task.root = .empty ∨ task.root.IsCanonical) ∧
          ∀ site ∈ task.provider.sites task.root, Disk.Admits site.path) →
        let inMemory := serve (Memory.surroundingsWith load) tasks (memory, source)
        let onDisk := serve (Disk.surroundingsWith fun template state => load template state.2)
          tasks (disk, source)
        List.Forall₂ (Alike Failure.SamePlace) inMemory.1 onDisk.1 ∧
          inMemory.2.1.Depicts onDisk.2.1 := by
  refine ⟨?_, ?_⟩
  · intro path hpath hadmits
    exact ⟨hdepicts.isDirectory_eq hpath hadmits, hdepicts.isPresent_eq hpath hadmits,
      hdepicts.makeDirectory_agrees hpath hadmits,
      fun text => hdepicts.write_agrees hpath hadmits text⟩
  · intro τ load source tasks htasks
    have hkeeps : ∀ task ∈ tasks,
        Keeps (fun path => path.IsCanonical ∧ Disk.Admits path) task.script := by
      intro task htask
      obtain ⟨hroot, hadmits⟩ := htasks task htask
      exact Task.keeps_script fun site hsite =>
        ⟨Provider.isCanonical_site hroot hsite, hadmits site hsite⟩
    have hstart : (memory, source).1.Depicts (disk, source).1 ∧
        (memory, source).2 = (disk, source).2 := ⟨hdepicts, rfl⟩
    obtain ⟨hanswers, hafter, -⟩ := serve_mirrors (Memory.mirrors_disk load) hkeeps hstart
    exact ⟨hanswers, hafter⟩

theorem memory_stands_in_with_directory :
    let out := Path.ofText "out"
    let memory := Memory.holding (Store.empty.insertDirectory out) .empty
    let disk := (Disk.fresh []).insert [Text.encode "out"] .directory
    let tasks : List Task := [.plan shortNamed out, .scaffold shortNamed out,
      .scaffold shortNamed .empty]
    let load (_ : Template) (reads : Nat) : Except Failure String × Nat := (.ok "text", reads + 1)
    memory.Depicts disk ∧ out.IsCanonical ∧ Disk.Admits out ∧
      memory.isDirectory out = disk.isDirectory out ∧
      Memory.Agrees out (memory.makeDirectory out) (disk.ensureDirectory out) ∧
      (∀ task ∈ tasks, (task.root = .empty ∨ task.root.IsCanonical) ∧
        ∀ site ∈ task.provider.sites task.root, Disk.Admits site.path) ∧
      List.Forall₂ (Alike Failure.SamePlace)
        (serve (Memory.surroundingsWith load) tasks (memory, 0)).1
        (serve (Disk.surroundingsWith fun template state => load template state.2)
          tasks (disk, 0)).1 := by
  intro out memory disk tasks load
  have hout : out.IsCanonical := by decide
  have hadmits : Disk.Admits out := by decide
  have hdepicts : memory.Depicts disk := by
    refine ⟨_, _, rfl, ?_⟩
    exact Store.depicts_fresh.insertDirectory hout rfl nofun rfl
  have htasks : ∀ task ∈ tasks, (task.root = .empty ∨ task.root.IsCanonical) ∧
      ∀ site ∈ task.provider.sites task.root, Disk.Admits site.path := by
    decide +kernel
  obtain ⟨hcalls, hserve⟩ := memory_stands_in hdepicts
  obtain ⟨hdirectory, -, hmake, -⟩ := hcalls out hout hadmits
  exact ⟨hdepicts, hout, hadmits, hdirectory, hmake, htasks, (hserve load 0 tasks htasks).1⟩

end Script

end Scaffolding
