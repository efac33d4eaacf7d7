import Scaffolding.Disk.Files
import Scaffolding.Proofs.Provider.Layout

/-!
# Walks that arrive

`Disk.walk` has an allowance of links and fails in many ways.  `Leads`
keeps the walks that arrive, with one constructor for each thing that can
stand behind a step and the number of links that were followed, so that a
fact about walks is one induction.

* `locate_eq_ok_iff` is the way from `Disk.locate` to `Leads`, and the only
  place where the allowance matters.
* `Leads.look_of_write` and `Leads.vacant` say what a walk for one purpose
  tells about the others.
* `Leads.append` and `Leads.exists_of_append` put a last step on a walk and
  take it off.
-/

namespace Scaffolding.Disk

variable {disk disk' : Disk} {purpose : Purpose} {links : Nat} {directory : Location}
  {steps : List Step} {place : Place}

/-! ## The relation -/

/-- That a walk may take the step to a name with some steps behind it. -/
def Fits (purpose : Purpose) (name : Bytes) (rest : List Step) : Prop :=
  ¬(purpose = .write ∧ rest = [.slash]) ∧ name.length ≤ maxNameLength

/-- That a walk stops at a link instead of following it. -/
def Stops (purpose : Purpose) (rest : List Step) : Prop :=
  purpose = .entry ∧ isLast rest = true

instance (purpose : Purpose) (rest : List Step) : Decidable (Stops purpose rest) :=
  inferInstanceAs (Decidable (_ ∧ _))

/-- The walks from a directory that end at a place, with the number of links that they follow. -/
inductive Leads (disk : Disk) (purpose : Purpose) :
    Nat → Location → List Step → Place → Prop where
  | arrive {directory : Location} :
      Leads disk purpose 0 directory [] (.taken directory .directory)
  | here {links : Nat} {directory : Location} {rest : List Step} {place : Place}
      (hrest : Leads disk purpose links directory rest place) :
      Leads disk purpose links directory (.here :: rest) place
  | slash {links : Nat} {directory : Location} {rest : List Step} {place : Place}
      (hrest : Leads disk purpose links directory rest place) :
      Leads disk purpose links directory (.slash :: rest) place
  | up {links : Nat} {directory : Location} {rest : List Step} {place : Place}
      (hrest : Leads disk purpose links directory.dropLast rest place) :
      Leads disk purpose links directory (.up :: rest) place
  | free {directory : Location} {name : Bytes} {rest : List Step}
      (hfits : Fits purpose name rest) (hnode : disk.node? (directory ++ [name]) = none)
      (hlast : isLast rest = true) :
      Leads disk purpose 0 directory (.name name :: rest) (.free directory name)
  | enter {links : Nat} {directory : Location} {name : Bytes} {rest : List Step} {place : Place}
      (hfits : Fits purpose name rest)
      (hnode : disk.node? (directory ++ [name]) = some .directory)
      (hrest : Leads disk purpose links (directory ++ [name]) rest place) :
      Leads disk purpose links directory (.name name :: rest) place
  | file {directory : Location} {name content : Bytes} {rest : List Step}
      (hfits : Fits purpose name rest)
      (hnode : disk.node? (directory ++ [name]) = some (.file content))
      (hend : rest = [] ∨ Stops purpose rest) :
      Leads disk purpose 0 directory (.name name :: rest)
        (.taken (directory ++ [name]) (.file content))
  | link {directory : Location} {name target : Bytes} {rest : List Step}
      (hfits : Fits purpose name rest)
      (hnode : disk.node? (directory ++ [name]) = some (.link target))
      (hstops : Stops purpose rest) :
      Leads disk purpose 0 directory (.name name :: rest)
        (.taken (directory ++ [name]) (.link target))
  | follow {links : Nat} {directory : Location} {name target : Bytes} {rest : List Step}
      {place : Place} (hfits : Fits purpose name rest)
      (hnode : disk.node? (directory ++ [name]) = some (.link target))
      (hgoes : ¬ Stops purpose rest)
      (hrest : Leads disk purpose links (startOf directory ⟨target⟩) (stepsOf ⟨target⟩ ++ rest)
        place) :
      Leads disk purpose (links + 1) directory (.name name :: rest) place

/-! ## The walk and the relation -/

/-- What a walk does with a link when it may follow so many. -/
def followUpTo (disk : Disk) (purpose : Purpose) :
    Nat → Location → List Step → Except SystemFault Place
  | 0 => fun _ _ => .error .tooManyLinks
  | links + 1 => walk disk purpose links

theorem walk_eq_walkWith (disk : Disk) (purpose : Purpose) (links : Nat) :
    walk disk purpose links = walkWith disk purpose (followUpTo disk purpose links) := by
  cases links <;> rfl

/-- What a walk does at a name that fits. -/
theorem walkWith_name {follow : Location → List Step → Except SystemFault Place} {name : Bytes}
    {rest : List Step} (hfits : Fits purpose name rest) :
    walkWith disk purpose follow directory (.name name :: rest) =
      match disk.node? (directory ++ [name]) with
      | none => if isLast rest then .ok (.free directory name) else .error .noEntry
      | some .directory => walkWith disk purpose follow (directory ++ [name]) rest
      | some (.file content) =>
        if rest = [] ∨ Stops purpose rest then
          .ok (.taken (directory ++ [name]) (.file content))
        else .error .notDirectory
      | some (.link target) =>
        if Stops purpose rest then .ok (.taken (directory ++ [name]) (.link target))
        else follow (startOf directory ⟨target⟩) (stepsOf ⟨target⟩ ++ rest) := by
  obtain ⟨hwrite, hlength⟩ := hfits
  have hstops : (decide (purpose = .entry) && isLast rest) = decide (Stops purpose rest) := by
    rw [Bool.eq_iff_iff, Bool.and_eq_true, decide_eq_true_eq, decide_eq_true_eq]
    rfl
  rw [walkWith, if_neg (by simpa using hwrite), if_neg (by omega), hstops]
  dsimp only
  cases disk.node? (directory ++ [name]) with
  | none => rfl
  | some node =>
    cases node with
    | directory => rfl
    | file content => simp only [Bool.or_eq_true, decide_eq_true_eq]
    | link target => simp only [decide_eq_true_eq]

theorem fits_of_walkWith {follow : Location → List Step → Except SystemFault Place} {name : Bytes}
    {rest : List Step}
    (hwalk : walkWith disk purpose follow directory (.name name :: rest) = .ok place) :
    Fits purpose name rest := by
  rw [walkWith] at hwalk
  constructor
  · intro hwrite
    rw [if_pos (by simpa using hwrite)] at hwalk
    cases hwalk
  · by_contra hlength
    rw [if_pos (Nat.lt_of_not_le hlength)] at hwalk
    split at hwalk <;> cases hwalk

theorem exists_leads_of_walkWith {follow : Location → List Step → Except SystemFault Place}
    (hfollow : ∀ directory steps place, follow directory steps = .ok place →
      ∃ used < links, Leads disk purpose used directory steps place)
    (hwalk : walkWith disk purpose follow directory steps = .ok place) :
    ∃ used ≤ links, Leads disk purpose used directory steps place := by
  induction steps generalizing directory with
  | nil =>
    rw [walkWith] at hwalk
    cases hwalk
    exact ⟨0, Nat.zero_le _, .arrive⟩
  | cons step rest ih =>
    cases step with
    | here =>
      obtain ⟨used, hused, hrest⟩ := ih hwalk
      exact ⟨used, hused, .here hrest⟩
    | slash =>
      obtain ⟨used, hused, hrest⟩ := ih hwalk
      exact ⟨used, hused, .slash hrest⟩
    | up =>
      obtain ⟨used, hused, hrest⟩ := ih hwalk
      exact ⟨used, hused, .up hrest⟩
    | name name =>
      have hfits := fits_of_walkWith hwalk
      rw [walkWith_name hfits] at hwalk
      cases hnode : disk.node? (directory ++ [name]) with
      | none =>
        rw [hnode] at hwalk
        simp only [ite_eq_iff, reduceCtorEq, and_false, or_false] at hwalk
        obtain ⟨hlast, hplace⟩ := hwalk
        cases hplace
        exact ⟨0, Nat.zero_le _, .free hfits hnode hlast⟩
      | some node =>
        rw [hnode] at hwalk
        cases node with
        | directory =>
          obtain ⟨used, hused, hrest⟩ := ih hwalk
          exact ⟨used, hused, .enter hfits hnode hrest⟩
        | file content =>
          simp only [ite_eq_iff, reduceCtorEq, and_false, or_false] at hwalk
          obtain ⟨hend, hplace⟩ := hwalk
          cases hplace
          exact ⟨0, Nat.zero_le _, .file hfits hnode hend⟩
        | link target =>
          simp only at hwalk
          by_cases hstops : Stops purpose rest
          · rw [if_pos hstops] at hwalk
            cases hwalk
            exact ⟨0, Nat.zero_le _, .link hfits hnode hstops⟩
          · rw [if_neg hstops] at hwalk
            obtain ⟨used, hused, hrest⟩ := hfollow _ _ _ hwalk
            exact ⟨used + 1, hused, .follow hfits hnode hstops hrest⟩

theorem exists_leads_of_walk (hwalk : disk.walk purpose links directory steps = .ok place) :
    ∃ used ≤ links, Leads disk purpose used directory steps place := by
  induction links generalizing directory steps place with
  | zero =>
    rw [walk_eq_walkWith] at hwalk
    apply exists_leads_of_walkWith _ hwalk
    intro _ _ _ hfollow
    cases hfollow
  | succ links ih =>
    rw [walk_eq_walkWith] at hwalk
    apply exists_leads_of_walkWith _ hwalk
    intro _ _ _ hfollow
    obtain ⟨used, hused, hleads⟩ := ih hfollow
    exact ⟨used, Nat.lt_succ_of_le hused, hleads⟩

theorem Leads.walk_eq {used : Nat} (hleads : Leads disk purpose used directory steps place)
    (hused : used ≤ links) : disk.walk purpose links directory steps = .ok place := by
  induction hleads generalizing links with
  | arrive => rw [walk_eq_walkWith, walkWith]
  | here _ ih =>
    rw [walk_eq_walkWith, walkWith, ← walk_eq_walkWith]
    exact ih hused
  | slash _ ih =>
    rw [walk_eq_walkWith, walkWith, ← walk_eq_walkWith]
    exact ih hused
  | up _ ih =>
    rw [walk_eq_walkWith, walkWith, ← walk_eq_walkWith]
    exact ih hused
  | free hfits hnode hlast => rw [walk_eq_walkWith, walkWith_name hfits, hnode]; exact if_pos hlast
  | enter hfits hnode _ ih =>
    rw [walk_eq_walkWith, walkWith_name hfits, hnode]
    simp only
    rw [← walk_eq_walkWith]
    exact ih hused
  | file hfits hnode hend => rw [walk_eq_walkWith, walkWith_name hfits, hnode]; exact if_pos hend
  | link hfits hnode hstops =>
    rw [walk_eq_walkWith, walkWith_name hfits, hnode]
    exact if_pos hstops
  | follow hfits hnode hgoes _ ih =>
    rw [walk_eq_walkWith, walkWith_name hfits, hnode]
    simp only
    rw [if_neg hgoes]
    cases links with
    | zero => exact absurd hused (Nat.not_succ_le_zero _)
    | succ links => exact ih (Nat.le_of_succ_le_succ hused)

/-- That a path can be walked at all. -/
def Walkable (path : Path) : Prop :=
  path.bytes.contains 0 = false ∧ path.bytes ≠ [] ∧ path.bytes.length < maxPathLength

theorem locate_eq_ok_iff {path : Path} :
    disk.locate purpose path = .ok place ↔
      Walkable path ∧ ∃ used ≤ maxLinks,
        Leads disk purpose used (startOf disk.here path) (stepsOf path) place := by
  unfold locate Walkable
  constructor
  · intro hlocate
    by_cases hzero : path.bytes.contains 0 = true
    · rw [if_pos hzero] at hlocate
      cases hlocate
    · by_cases hempty : path.bytes = []
      · rw [if_neg hzero, if_pos hempty] at hlocate
        cases hlocate
      · by_cases hlength : maxPathLength ≤ path.bytes.length
        · rw [if_neg hzero, if_neg hempty, if_pos hlength] at hlocate
          cases hlocate
        · rw [if_neg hzero, if_neg hempty, if_neg hlength] at hlocate
          exact ⟨⟨Bool.eq_false_iff.mpr hzero, hempty, Nat.lt_of_not_le hlength⟩,
            exists_leads_of_walk hlocate⟩
  · intro hwalk
    obtain ⟨⟨hzero, hempty, hlength⟩, used, hused, hleads⟩ := hwalk
    rw [hzero, if_neg Bool.false_ne_true, if_neg hempty, if_neg (Nat.not_le_of_lt hlength)]
    exact hleads.walk_eq hused

/-! ## One walk, other purposes -/

theorem not_stops_look {rest : List Step} : ¬ Stops .look rest := by
  intro hstops
  cases hstops.1

theorem not_stops_write {rest : List Step} : ¬ Stops .write rest := by
  intro hstops
  cases hstops.1

theorem Fits.look {name : Bytes} {rest rest' : List Step} (hfits : Fits purpose name rest) :
    Fits .look name rest' := by
  refine ⟨?_, hfits.2⟩
  intro hboth
  obtain ⟨hwrite, -⟩ := hboth
  cases hwrite

/-- What can be written to can be looked at. -/
theorem Leads.look_of_write (hleads : Leads disk .write links directory steps place) :
    Leads disk .look links directory steps place := by
  induction hleads with
  | arrive => exact .arrive
  | here _ ih => exact .here ih
  | slash _ ih => exact .slash ih
  | up _ ih => exact .up ih
  | free hfits hnode hlast => exact .free hfits.look hnode hlast
  | enter hfits hnode _ ih => exact .enter hfits.look hnode ih
  | file hfits hnode hend =>
    rcases hend with hend | hstops
    · exact .file hfits.look hnode (.inl hend)
    · cases hstops.1
  | link _ _ hstops => cases hstops.1
  | follow hfits hnode _ _ ih => exact .follow hfits.look hnode not_stops_look ih

/-- There is nothing where a walk ends at a free name. -/
theorem Leads.vacant {above : Location} {name : Bytes}
    (hleads : Leads disk purpose links directory steps (.free above name)) :
    disk.node? (above ++ [name]) = none := by
  generalize hplace : Place.free above name = place at hleads
  induction hleads with
  | arrive => cases hplace
  | here _ ih => exact ih hplace
  | slash _ ih => exact ih hplace
  | up _ ih => exact ih hplace
  | free _ hnode _ =>
    cases hplace
    exact hnode
  | enter _ _ _ ih => exact ih hplace
  | file => cases hplace
  | link => cases hplace
  | follow _ _ _ _ ih => exact ih hplace

theorem Leads.unique {links' : Nat} {place' : Place}
    (hleads : Leads disk purpose links directory steps place)
    (hleads' : Leads disk purpose links' directory steps place') : place = place' := by
  have hwalk := hleads.walk_eq (Nat.le_max_left links links')
  rw [hleads'.walk_eq (Nat.le_max_right links links')] at hwalk
  injection hwalk with hplace
  exact hplace.symm

/-! ## The last step of a walk -/

theorem isLast_concat_name {name : Bytes} : isLast (steps ++ [.name name]) = false := by
  unfold isLast
  cases steps with
  | nil => rfl
  | cons step rest => cases rest <;> simp

theorem not_stops_concat_name {name : Bytes} : ¬ Stops purpose (steps ++ [.name name]) := by
  intro hstops
  obtain ⟨-, hlast⟩ := hstops
  rw [isLast_concat_name] at hlast
  cases hlast

/-- A walk to a directory goes on with a step to a name. -/
theorem Leads.append {name : Bytes} {home : Location} {more : Nat}
    (hleads : Leads disk .look links directory steps (.taken home .directory))
    (hname : Leads disk purpose more home [.name name] place) :
    Leads disk purpose (links + more) directory (steps ++ [.name name]) place := by
  have hfits : ∀ {other : Bytes} {rest : List Step}, Fits .look other rest →
      Fits purpose other (rest ++ [.name name]) := by
    intro other rest hfits
    refine ⟨fun hwrite => ?_, hfits.2⟩
    have hlast : isLast (rest ++ [.name name]) = true := by rw [hwrite.2]; rfl
    rw [isLast_concat_name] at hlast
    cases hlast
  generalize hplace : Place.taken home .directory = reached at hleads
  induction hleads with
  | arrive =>
    cases hplace
    rw [Nat.zero_add]
    exact hname
  | here _ ih => exact .here (ih hplace)
  | slash _ ih => exact .slash (ih hplace)
  | up _ ih => exact .up (ih hplace)
  | free => cases hplace
  | enter hother hnode _ ih => exact .enter (hfits hother) hnode (ih hplace)
  | file => cases hplace
  | link => cases hplace
  | follow hother hnode _ _ ih =>
    rw [Nat.add_right_comm]
    have hrest := ih hplace
    rw [List.append_assoc] at hrest
    exact .follow (hfits hother) hnode not_stops_concat_name hrest

/-- A walk with a name at its end has come to a directory before it. -/
theorem Leads.exists_of_append {name : Bytes}
    (hleads : Leads disk purpose links directory (steps ++ [.name name]) place) :
    ∃ before more home, links = before + more ∧
      Leads disk .look before directory steps (.taken home .directory) ∧
      Leads disk purpose more home [.name name] place := by
  generalize hsteps : steps ++ [Step.name name] = whole at hleads
  induction hleads generalizing steps with
  | arrive => simp at hsteps
  | here hrest ih =>
    cases steps with
    | nil => cases hsteps
    | cons step rest =>
      rw [List.cons_append] at hsteps
      injection hsteps with hstep hsteps
      subst hstep
      obtain ⟨before, more, home, hlinks, hbefore, hname⟩ := ih hsteps
      exact ⟨before, more, home, hlinks, .here hbefore, hname⟩
  | slash hrest ih =>
    cases steps with
    | nil => cases hsteps
    | cons step rest =>
      rw [List.cons_append] at hsteps
      injection hsteps with hstep hsteps
      subst hstep
      obtain ⟨before, more, home, hlinks, hbefore, hname⟩ := ih hsteps
      exact ⟨before, more, home, hlinks, .slash hbefore, hname⟩
  | up hrest ih =>
    cases steps with
    | nil => cases hsteps
    | cons step rest =>
      rw [List.cons_append] at hsteps
      injection hsteps with hstep hsteps
      subst hstep
      obtain ⟨before, more, home, hlinks, hbefore, hname⟩ := ih hsteps
      exact ⟨before, more, home, hlinks, .up hbefore, hname⟩
  | free hfits hnode hlast =>
    cases steps with
    | nil =>
      cases hsteps
      exact ⟨0, 0, _, rfl, .arrive, .free hfits hnode hlast⟩
    | cons step rest =>
      rw [List.cons_append] at hsteps
      injection hsteps with hstep hsteps
      rw [← hsteps, isLast_concat_name] at hlast
      cases hlast
  | enter hfits hnode hrest ih =>
    cases steps with
    | nil =>
      cases hsteps
      exact ⟨0, _, _, (Nat.zero_add _).symm, .arrive, .enter hfits hnode hrest⟩
    | cons step rest =>
      rw [List.cons_append] at hsteps
      injection hsteps with hstep hsteps
      subst hstep
      obtain ⟨before, more, home, hlinks, hbefore, hname⟩ := ih hsteps
      exact ⟨before, more, home, hlinks, .enter hfits.look hnode hbefore, hname⟩
  | file hfits hnode hend =>
    cases steps with
    | nil =>
      cases hsteps
      exact ⟨0, 0, _, rfl, .arrive, .file hfits hnode hend⟩
    | cons step rest =>
      rw [List.cons_append] at hsteps
      injection hsteps with hstep hsteps
      rcases hend with hend | hstops
      · rw [hend] at hsteps
        exact absurd hsteps (List.concat_ne_nil _ _)
      · rw [← hsteps] at hstops
        exact absurd hstops not_stops_concat_name
  | link hfits hnode hstops =>
    cases steps with
    | nil =>
      cases hsteps
      exact ⟨0, 0, _, rfl, .arrive, .link hfits hnode hstops⟩
    | cons step rest =>
      rw [List.cons_append] at hsteps
      injection hsteps with hstep hsteps
      rw [← hsteps] at hstops
      exact absurd hstops not_stops_concat_name
  | follow hfits hnode hgoes hrest ih =>
    cases steps with
    | nil =>
      cases hsteps
      exact ⟨0, _, _, (Nat.zero_add _).symm, .arrive, .follow hfits hnode hgoes hrest⟩
    | cons step rest =>
      rw [List.cons_append] at hsteps
      injection hsteps with hstep hsteps
      subst hstep
      obtain ⟨before, more, home, hlinks, hbefore, hname⟩ :=
        ih ((List.append_assoc _ _ _).trans (congrArg _ hsteps))
      refine ⟨before + 1, more, home, ?_, .follow hfits.look hnode not_stops_look hbefore, hname⟩
      rw [hlinks, Nat.add_right_comm]

end Scaffolding.Disk
