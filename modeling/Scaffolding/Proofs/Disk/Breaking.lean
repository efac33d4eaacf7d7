import Scaffolding.Proofs.Disk.Growth

/-!
# Walks that break off

`Breaks` keeps the looks that do not arrive, as `Leads` keeps those that
do: it has one constructor for each thing that can be in the way, and the
fault that it is answered with.

* `breaks_of_walk` and `Breaks.walk_eq` are the way from `Disk.walk` to
  `Breaks` and back.
* `IsBarred` says that something is in the way of a path, and
  `isBarred_iff` that this is every fault but the one for a missing entry.
* `read_eq_iff` says what is read of a path.
-/

namespace Scaffolding.Disk

variable {disk : Disk} {links : Nat} {directory : Location} {steps : List Step}
  {fault : SystemFault} {path : Path}

/-- The looks from a directory that break off, with the links that they may still follow and the
fault that they end with. -/
inductive Breaks (disk : Disk) : Nat → Location → List Step → SystemFault → Prop where
  | here {links : Nat} {directory : Location} {rest : List Step} {fault : SystemFault}
      (hrest : Breaks disk links directory rest fault) :
      Breaks disk links directory (.here :: rest) fault
  | slash {links : Nat} {directory : Location} {rest : List Step} {fault : SystemFault}
      (hrest : Breaks disk links directory rest fault) :
      Breaks disk links directory (.slash :: rest) fault
  | up {links : Nat} {directory : Location} {rest : List Step} {fault : SystemFault}
      (hrest : Breaks disk links directory.dropLast rest fault) :
      Breaks disk links directory (.up :: rest) fault
  | tooLong {links : Nat} {directory : Location} {name : Bytes} {rest : List Step}
      (hlength : maxNameLength < name.length) :
      Breaks disk links directory (.name name :: rest) .nameTooLong
  | lacking {links : Nat} {directory : Location} {name : Bytes} {rest : List Step}
      (hfits : Fits .look name rest) (hnode : disk.node? (directory ++ [name]) = none)
      (hmore : isLast rest = false) :
      Breaks disk links directory (.name name :: rest) .noEntry
  | enter {links : Nat} {directory : Location} {name : Bytes} {rest : List Step}
      {fault : SystemFault} (hfits : Fits .look name rest)
      (hnode : disk.node? (directory ++ [name]) = some .directory)
      (hrest : Breaks disk links (directory ++ [name]) rest fault) :
      Breaks disk links directory (.name name :: rest) fault
  | file {links : Nat} {directory : Location} {name content : Bytes} {rest : List Step}
      (hfits : Fits .look name rest)
      (hnode : disk.node? (directory ++ [name]) = some (.file content)) (hmore : rest ≠ []) :
      Breaks disk links directory (.name name :: rest) .notDirectory
  | exhausted {directory : Location} {name target : Bytes} {rest : List Step}
      (hfits : Fits .look name rest)
      (hnode : disk.node? (directory ++ [name]) = some (.link target)) :
      Breaks disk 0 directory (.name name :: rest) .tooManyLinks
  | follow {links : Nat} {directory : Location} {name target : Bytes} {rest : List Step}
      {fault : SystemFault} (hfits : Fits .look name rest)
      (hnode : disk.node? (directory ++ [name]) = some (.link target))
      (hrest : Breaks disk links (startOf directory ⟨target⟩) (stepsOf ⟨target⟩ ++ rest) fault) :
      Breaks disk (links + 1) directory (.name name :: rest) fault

/-! ## The walk and the relation -/

/-- What a look does at a name that is too long. -/
theorem walkWith_tooLong {follow : Location → List Step → Except SystemFault Place} {name : Bytes}
    {rest : List Step} (hlength : maxNameLength < name.length) :
    walkWith disk .look follow directory (.name name :: rest) = .error .nameTooLong := by
  rw [walkWith, if_neg (by simp), if_pos hlength]

theorem fits_look {name : Bytes} {rest : List Step} (hlength : ¬ maxNameLength < name.length) :
    Fits .look name rest :=
  ⟨nofun, Nat.le_of_not_lt hlength⟩

theorem breaks_of_walkWith {follow : Location → List Step → Except SystemFault Place}
    (hfollow : ∀ directory name target rest fault, Fits .look name rest →
      disk.node? (directory ++ [name]) = some (.link target) →
      follow (startOf directory ⟨target⟩) (stepsOf ⟨target⟩ ++ rest) = .error fault →
      Breaks disk links directory (.name name :: rest) fault)
    (hwalk : walkWith disk .look follow directory steps = .error fault) :
    Breaks disk links directory steps fault := by
  induction steps generalizing directory with
  | nil =>
    rw [walkWith] at hwalk
    cases hwalk
  | cons step rest ih =>
    cases step with
    | here => exact .here (ih hwalk)
    | slash => exact .slash (ih hwalk)
    | up => exact .up (ih hwalk)
    | name name =>
      by_cases hlength : maxNameLength < name.length
      · rw [walkWith_tooLong hlength] at hwalk
        cases hwalk
        exact .tooLong hlength
      have hfits : Fits .look name rest := fits_look hlength
      rw [walkWith_name hfits] at hwalk
      cases hnode : disk.node? (directory ++ [name]) with
      | none =>
        rw [hnode] at hwalk
        cases hlast : isLast rest with
        | true =>
          simp only [hlast, if_true] at hwalk
          cases hwalk
        | false =>
          simp only [hlast, Bool.false_eq_true, if_false] at hwalk
          cases hwalk
          exact .lacking hfits hnode hlast
      | some node =>
        rw [hnode] at hwalk
        cases node with
        | directory => exact .enter hfits hnode (ih hwalk)
        | file content =>
          by_cases hend : rest = [] ∨ Stops .look rest
          · simp only [if_pos hend] at hwalk
            cases hwalk
          · simp only [if_neg hend] at hwalk
            cases hwalk
            exact .file hfits hnode fun hnil => hend (.inl hnil)
        | link target =>
          simp only [if_neg not_stops_look] at hwalk
          exact hfollow directory name target rest fault hfits hnode hwalk

theorem breaks_of_walk (hwalk : disk.walk .look links directory steps = .error fault) :
    Breaks disk links directory steps fault := by
  induction links generalizing directory steps fault with
  | zero =>
    rw [walk_eq_walkWith] at hwalk
    apply breaks_of_walkWith _ hwalk
    intro _ _ _ _ _ hfits hnode hfollow
    cases hfollow
    exact .exhausted hfits hnode
  | succ links ih =>
    rw [walk_eq_walkWith] at hwalk
    apply breaks_of_walkWith _ hwalk
    intro _ _ _ _ _ hfits hnode hfollow
    exact .follow hfits hnode (ih hfollow)

theorem Breaks.walk_eq (hbreaks : Breaks disk links directory steps fault) :
    disk.walk .look links directory steps = .error fault := by
  induction hbreaks with
  | here _ ih | slash _ ih | up _ ih =>
    rw [walk_eq_walkWith, walkWith, ← walk_eq_walkWith]
    exact ih
  | tooLong hlength => rw [walk_eq_walkWith, walkWith_tooLong hlength]
  | lacking hfits hnode hmore =>
    rw [walk_eq_walkWith, walkWith_name hfits, hnode]
    exact if_neg (by rw [hmore]; exact Bool.false_ne_true)
  | enter hfits hnode _ ih =>
    rw [walk_eq_walkWith, walkWith_name hfits, hnode]
    simp only
    rw [← walk_eq_walkWith]
    exact ih
  | file hfits hnode hmore =>
    rw [walk_eq_walkWith, walkWith_name hfits, hnode]
    exact if_neg (not_or_intro hmore not_stops_look)
  | exhausted hfits hnode =>
    rw [walk_eq_walkWith, walkWith_name hfits, hnode]
    exact if_neg not_stops_look
  | follow hfits hnode _ ih =>
    rw [walk_eq_walkWith, walkWith_name hfits, hnode]
    simp only
    rw [if_neg not_stops_look]
    exact ih

theorem locate_of_walkable {purpose : Purpose} (hwalkable : Walkable path) :
    disk.locate purpose path =
      disk.walk purpose maxLinks (startOf disk.here path) (stepsOf path) := by
  obtain ⟨hzero, hempty, hlength⟩ := hwalkable
  unfold locate
  rw [hzero, if_neg Bool.false_ne_true, if_neg hempty, if_neg (Nat.not_le_of_lt hlength)]

/-! ## Paths with something in the way -/

/-- That a look at a path does not get to its end, and not for want of an entry. -/
inductive IsBarred (disk : Disk) (path : Path) : Prop where
  | zeroByte (hzero : path.bytes.contains 0 = true) : IsBarred disk path
  | tooLong (hlength : maxPathLength ≤ path.bytes.length) : IsBarred disk path
  /-- There is a name that is too long, a file, or one link too many. -/
  | underway {fault : SystemFault} (hwalkable : Walkable path)
      (hbreaks : Breaks disk maxLinks (startOf disk.here path) (stepsOf path) fault)
      (hfault : fault ≠ .noEntry) : IsBarred disk path

theorem isBarred_iff :
    disk.IsBarred path ↔ ∃ fault, fault ≠ .noEntry ∧ disk.locate .look path = .error fault := by
  constructor
  · intro hbarred
    cases hbarred with
    | zeroByte hzero =>
      refine ⟨.zeroByte, nofun, ?_⟩
      unfold locate
      rw [if_pos hzero]
    | tooLong hlength =>
      have hempty : path.bytes ≠ [] := by
        intro hnil
        rw [hnil] at hlength
        exact absurd hlength (by decide)
      unfold locate
      by_cases hzero : path.bytes.contains 0 = true
      · exact ⟨.zeroByte, nofun, if_pos hzero⟩
      · refine ⟨.nameTooLong, by decide, ?_⟩
        rw [if_neg hzero, if_neg hempty, if_pos hlength]
    | underway hwalkable hbreaks hfault =>
      exact ⟨_, hfault, (locate_of_walkable hwalkable).trans hbreaks.walk_eq⟩
  · intro hfails
    obtain ⟨fault, hfault, hlocate⟩ := hfails
    by_cases hzero : path.bytes.contains 0 = true
    · exact .zeroByte hzero
    by_cases hlength : maxPathLength ≤ path.bytes.length
    · exact .tooLong hlength
    have hempty : path.bytes ≠ [] := by
      intro hnil
      unfold locate at hlocate
      rw [if_neg hzero, if_pos hnil] at hlocate
      cases hlocate
      exact hfault rfl
    have hwalkable : Walkable path :=
      ⟨Bool.eq_false_iff.mpr hzero, hempty, Nat.lt_of_not_le hlength⟩
    rw [locate_of_walkable hwalkable] at hlocate
    exact .underway hwalkable (breaks_of_walk hlocate) hfault

/-! ## What is read -/

/-- That a path leads to a file with some content. -/
def HasFile (disk : Disk) (path : Path) (content : Bytes) : Prop :=
  ∃ location, disk.locate .look path = .ok (.taken location (.file content))

/-- What is read of a path is the content of the file there.  Reading lacks an entry exactly if
nothing is found at the path and the path is not barred. -/
theorem read_eq_iff :
    (∀ content, disk.read path = .ok content ↔ disk.HasFile path content) ∧
      (disk.read path = .error .noEntry ↔
        disk.isPresent path = false ∧ ¬ disk.IsBarred path) := by
  unfold read HasFile isPresent
  rw [isBarred_iff]
  cases hlocate : disk.locate .look path with
  | error fault =>
    constructor
    · intro content
      exact iff_of_false nofun nofun
    · by_cases hfault : fault = .noEntry
      · subst hfault
        refine iff_of_true rfl ⟨rfl, ?_⟩
        rintro ⟨other, hother, hsame⟩
        cases hsame
        exact hother rfl
      · refine iff_of_false (by simpa using hfault) ?_
        rintro ⟨-, hbarred⟩
        exact hbarred ⟨fault, hfault, rfl⟩
  | ok place =>
    have hbarred : ¬ ∃ fault : SystemFault, fault ≠ .noEntry ∧
        (Except.ok place : Except SystemFault Place) = .error fault := by
      rintro ⟨_, -, hfails⟩
      cases hfails
    cases place with
    | free above name =>
      refine ⟨fun content => iff_of_false nofun nofun, iff_of_true rfl ⟨rfl, hbarred⟩⟩
    | taken location node =>
      cases node with
      | file other =>
        refine ⟨?_, iff_of_false nofun nofun⟩
        intro content
        simp
      | directory | link target =>
        refine ⟨fun content => iff_of_false nofun nofun, iff_of_false nofun nofun⟩

end Scaffolding.Disk
