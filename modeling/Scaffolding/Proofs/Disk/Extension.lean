import Scaffolding.Proofs.Disk.Walk

/-!
# Walks on a disk that grows

What a disk has does not depend on what else it has: a walk that ends at a
node ends there on every disk that `Extends` the first.  A walk that finds
nothing may end somewhere else once a file is put where it went, and only
then.

* `Leads.extend` and `Leads.of_free` go from a disk to a larger one.
* `Leads.look_of_insert_file` and `Leads.write_of_insert_file` go back over
  one new file.
-/

namespace Scaffolding.Disk

variable {disk disk' : Disk} {purpose : Purpose} {links : Nat} {directory : Location}
  {steps : List Step} {place : Place}

/-! ## Larger disks -/

/-- That a disk still has all that another had. -/
structure Extends (disk disk' : Disk) : Prop where
  here_eq : disk'.here = disk.here
  node?_eq : ∀ {location node}, disk.node? location = some node → disk'.node? location = some node

theorem Extends.refl (disk : Disk) : Extends disk disk := ⟨rfl, id⟩

theorem Extends.trans {disk'' : Disk} (hfirst : Extends disk disk')
    (hsecond : Extends disk' disk'') : Extends disk disk'' where
  here_eq := hsecond.here_eq.trans hfirst.here_eq
  node?_eq hnode := hsecond.node?_eq (hfirst.node?_eq hnode)

theorem ne_nil_of_vacant {location : Location} (hvacant : disk.node? location = none) :
    location ≠ [] := by
  rintro rfl
  cases hvacant

theorem Extends.insert {location : Location} (node : Node)
    (hvacant : disk.node? location = none) : Extends disk (disk.insert location node) where
  here_eq := rfl
  node?_eq := by
    intro other old hold
    rw [node?_insert disk (ne_nil_of_vacant hvacant), if_neg]
    · exact hold
    · rintro rfl
      rw [hvacant] at hold
      cases hold

/-- A walk that ends at a node still ends there when nothing is gone. -/
theorem Leads.extend {location : Location} {node : Node}
    (hleads : Leads disk purpose links directory steps (.taken location node))
    (hextends : Extends disk disk') :
    Leads disk' purpose links directory steps (.taken location node) := by
  generalize hplace : Place.taken location node = place at hleads
  induction hleads with
  | arrive => exact .arrive
  | here _ ih => exact .here (ih hplace)
  | slash _ ih => exact .slash (ih hplace)
  | up _ ih => exact .up (ih hplace)
  | free => cases hplace
  | enter hfits hnode _ ih => exact .enter hfits (hextends.node?_eq hnode) (ih hplace)
  | file hfits hnode hend => exact .file hfits (hextends.node?_eq hnode) hend
  | link hfits hnode hstops => exact .link hfits (hextends.node?_eq hnode) hstops
  | follow hfits hnode hgoes _ ih =>
    exact .follow hfits (hextends.node?_eq hnode) hgoes (ih hplace)

theorem Extends.locate (hextends : Extends disk disk') {path : Path} {location : Location}
    {node : Node} (hlocate : disk.locate purpose path = .ok (.taken location node)) :
    disk'.locate purpose path = .ok (.taken location node) := by
  obtain ⟨hpath, used, hused, hleads⟩ := locate_eq_ok_iff.mp hlocate
  rw [← hextends.here_eq] at hleads
  exact locate_eq_ok_iff.mpr ⟨hpath, used, hused, hleads.extend hextends⟩

/-- A walk to a free name meets no file.  It goes the same way on a disk with the same directories
and links and for another purpose, and what comes of it is decided at the name. -/
theorem Leads.of_free {purpose' : Purpose} {above : Location} {name : Bytes} {place' : Place}
    (hleads : Leads disk purpose links directory steps (.free above name))
    (hkeep : ∀ {location node}, (∀ content, node ≠ .file content) →
      disk.node? location = some node → disk'.node? location = some node)
    (hmay : ∀ {other rest}, Fits purpose other rest → Fits purpose' other rest)
    (hgo : ∀ {rest}, ¬ Stops purpose rest → ¬ Stops purpose' rest)
    (hend : ∀ {rest}, Fits purpose name rest → isLast rest = true →
      Leads disk' purpose' 0 above (.name name :: rest) place') :
    Leads disk' purpose' links directory steps place' := by
  generalize hplace : Place.free above name = place at hleads
  induction hleads with
  | arrive => cases hplace
  | here _ ih => exact .here (ih hplace)
  | slash _ ih => exact .slash (ih hplace)
  | up _ ih => exact .up (ih hplace)
  | free hfits _ hlast =>
    cases hplace
    exact hend hfits hlast
  | enter hfits hnode _ ih => exact .enter (hmay hfits) (hkeep nofun hnode) (ih hplace)
  | file => cases hplace
  | link => cases hplace
  | follow hfits hnode hgoes _ ih =>
    exact .follow (hmay hfits) (hkeep nofun hnode) (hgo hgoes) (ih hplace)

/-- A name stays free as long as nothing is put there. -/
theorem Leads.extend_free {above : Location} {name : Bytes}
    (hleads : Leads disk purpose links directory steps (.free above name))
    (hextends : Extends disk disk') (hvacant : disk'.node? (above ++ [name]) = none) :
    Leads disk' purpose links directory steps (.free above name) := by
  apply hleads.of_free (fun _ => hextends.node?_eq) id id
  intro rest hfits hlast
  exact .free hfits hvacant hlast

/-- A directory is found where a walk for a new entry ended at a free name. -/
theorem Leads.look_of_made {above : Location} {name : Bytes}
    (hleads : Leads disk .entry links directory steps (.free above name))
    (hextends : Extends disk disk') (hmade : disk'.node? (above ++ [name]) = some .directory) :
    Leads disk' .look links directory steps (.taken (above ++ [name]) .directory) := by
  apply hleads.of_free (fun _ => hextends.node?_eq) Fits.look fun _ => not_stops_look
  intro rest hfits hlast
  unfold isLast at hlast
  rcases (Bool.or_eq_true _ _).mp hlast with hnil | hslash
  · rw [of_decide_eq_true hnil]
    exact .enter hfits.look hmade .arrive
  · rw [of_decide_eq_true hslash]
    exact .enter hfits.look hmade (.slash .arrive)

/-! ## A file more -/

theorem getLast?_cons_ne_slash {step : Step} {rest : List Step} (hstep : step ≠ .slash)
    (hrest : rest.getLast? ≠ some .slash) : (step :: rest).getLast? ≠ some .slash := by
  cases rest with
  | nil =>
    intro hlast
    exact hstep (Option.some.inj hlast)
  | cons next rest =>
    rw [List.getLast?_cons_cons]
    exact hrest

theorem getLast?_ne_slash_of_append {before rest : List Step}
    (hlast : (before ++ rest).getLast? ≠ some .slash) : rest.getLast? ≠ some .slash := by
  intro hrest
  apply hlast
  rw [List.getLast?_append, hrest]
  rfl

theorem eq_nil_of_isLast {name : Bytes} {rest : List Step} (hfits : Fits .write name rest)
    (hlast : isLast rest = true) : rest = [] := by
  unfold isLast at hlast
  rcases (Bool.or_eq_true _ _).mp hlast with hnil | hslash
  · exact of_decide_eq_true hnil
  · exact absurd ⟨rfl, of_decide_eq_true hslash⟩ hfits.1

/-- A walk for writing that ends at a free name has no slash at its end. -/
theorem Leads.ne_slash_of_write {above : Location} {name : Bytes}
    (hleads : Leads disk .write links directory steps (.free above name)) :
    steps.getLast? ≠ some .slash := by
  generalize hplace : Place.free above name = place at hleads
  induction hleads with
  | arrive => cases hplace
  | here _ ih => exact getLast?_cons_ne_slash (by simp) (ih hplace)
  | @slash _ _ rest _ hrest ih =>
    cases rest with
    | nil =>
      subst hplace
      cases hrest
    | cons next rest =>
      rw [List.getLast?_cons_cons]
      exact ih hplace
  | up _ ih => exact getLast?_cons_ne_slash (by simp) (ih hplace)
  | free hfits _ hlast =>
    rw [eq_nil_of_isLast hfits hlast]
    exact getLast?_cons_ne_slash (by simp) (by simp)
  | enter _ _ _ ih => exact getLast?_cons_ne_slash (by simp) (ih hplace)
  | file => cases hplace
  | link => cases hplace
  | follow _ _ _ _ ih =>
    exact getLast?_cons_ne_slash (by simp) (getLast?_ne_slash_of_append (ih hplace))

theorem Fits.write {name : Bytes} {rest : List Step} (hfits : Fits .look name rest)
    (hrest : rest.getLast? ≠ some .slash) : Fits .write name rest := by
  refine ⟨?_, hfits.2⟩
  intro hboth
  obtain ⟨-, rfl⟩ := hboth
  exact hrest rfl

/-- A file is found where a walk for writing ended at a free name. -/
theorem Leads.look_of_filled {above : Location} {name content : Bytes}
    (hleads : Leads disk .write links directory steps (.free above name))
    (hextends : Extends disk disk')
    (hfilled : disk'.node? (above ++ [name]) = some (.file content)) :
    Leads disk' .look links directory steps (.taken (above ++ [name]) (.file content)) := by
  apply hleads.of_free (fun _ => hextends.node?_eq) Fits.look fun _ => not_stops_look
  intro rest hfits hlast
  exact .file hfits.look hfilled (.inl (eq_nil_of_isLast hfits hlast))

section Insert

variable {location : Location} {content : Bytes}

theorem node?_of_insert_file {other : Location} {node : Node}
    (hvacant : disk.node? location = none)
    (hnode : (disk.insert location (.file content)).node? other = some node) :
    disk.node? other = some node ∨ other = location ∧ node = .file content := by
  rw [node?_insert disk (ne_nil_of_vacant hvacant)] at hnode
  split at hnode
  · exact .inr ⟨‹_›, (Option.some.inj hnode).symm⟩
  · exact .inl hnode

/-- With one file more, a walk ends where it did, or at the new file, and then it could have been
written there. -/
theorem Leads.look_of_insert_file {reached : Location} {node : Node}
    (hvacant : disk.node? location = none)
    (hleads : Leads (disk.insert location (.file content)) .look links directory steps
      (.taken reached node)) :
    Leads disk .look links directory steps (.taken reached node) ∨
      ∃ above name, above ++ [name] = location ∧
        Leads disk .write links directory steps (.free above name) := by
  generalize hplace : Place.taken reached node = place at hleads
  induction hleads with
  | arrive => exact .inl .arrive
  | here _ ih =>
    rcases ih hplace with hold | ⟨above, name, hnew, hwrite⟩
    · exact .inl (.here hold)
    · exact .inr ⟨above, name, hnew, .here hwrite⟩
  | slash _ ih =>
    rcases ih hplace with hold | ⟨above, name, hnew, hwrite⟩
    · exact .inl (.slash hold)
    · exact .inr ⟨above, name, hnew, .slash hwrite⟩
  | up _ ih =>
    rcases ih hplace with hold | ⟨above, name, hnew, hwrite⟩
    · exact .inl (.up hold)
    · exact .inr ⟨above, name, hnew, .up hwrite⟩
  | free => cases hplace
  | enter hfits hnode _ ih =>
    rcases node?_of_insert_file hvacant hnode with hnode | ⟨-, hfile⟩
    · rcases ih hplace with hold | ⟨above, name, hnew, hwrite⟩
      · exact .inl (.enter hfits hnode hold)
      · have hfits := hfits.write hwrite.ne_slash_of_write
        exact .inr ⟨above, name, hnew, .enter hfits hnode hwrite⟩
    · cases hfile
  | file hfits hnode hend =>
    rcases hend with hend | hstops
    · rcases node?_of_insert_file hvacant hnode with hnode | ⟨hhere, -⟩
      · exact .inl (.file hfits hnode (.inl hend))
      · subst hend
        have hfits := hfits.write (by simp)
        exact .inr ⟨_, _, hhere, .free hfits (hhere ▸ hvacant) rfl⟩
    · exact absurd hstops not_stops_look
  | link _ _ hstops => exact absurd hstops not_stops_look
  | follow hfits hnode hgoes _ ih =>
    rcases node?_of_insert_file hvacant hnode with hnode | ⟨-, hfile⟩
    · rcases ih hplace with hold | ⟨above, name, hnew, hwrite⟩
      · exact .inl (.follow hfits hnode hgoes hold)
      · have hfits := hfits.write (getLast?_ne_slash_of_append hwrite.ne_slash_of_write)
        exact .inr ⟨above, name, hnew, .follow hfits hnode not_stops_write hwrite⟩
    · cases hfile

theorem Leads.write_of_insert_file {above : Location} {name : Bytes}
    (hvacant : disk.node? location = none)
    (hleads : Leads (disk.insert location (.file content)) .write links directory steps
      (.free above name)) :
    Leads disk .write links directory steps (.free above name) := by
  have hfree : disk.node? (above ++ [name]) = none := by
    have hnone := hleads.vacant
    rw [node?_insert disk (ne_nil_of_vacant hvacant)] at hnone
    split at hnone
    · cases hnone
    · exact hnone
  have hkeep : ∀ {other node}, (∀ content, node ≠ .file content) →
      (disk.insert location (.file content)).node? other = some node →
        disk.node? other = some node := by
    intro other node hplain hnode
    rcases node?_of_insert_file hvacant hnode with hold | ⟨-, hfile⟩
    · exact hold
    · exact absurd hfile (hplain content)
  apply hleads.of_free hkeep id id
  intro rest hfits hlast
  exact .free hfits hfree hlast

end Insert

end Scaffolding.Disk
