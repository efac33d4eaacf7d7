import Scaffolding.Proofs.Disk.Stop
import Scaffolding.Proofs.Script.Chronicle
import Scaffolding.Proofs.Text.Encoding

/-!
# What a scaffold has written

A text that was written is the content of a file, and no later order of
the scaffold takes it away or changes it.  So the size that an event tells
of a file is the size of what is there in the end.

* `read_of_writeText` is the order, `Visit.read_of_write` and
  `Tour.read_of_write` follow it to the end of a run.
* `read_scaffold` is the result.
-/

namespace Scaffolding

open Report (Entry)

namespace Disk

variable {disk disk' : Disk} {path : Path} {text : String}

theorem Extends.read (hextends : disk.Extends disk') {content : Bytes}
    (hread : disk.read path = .ok content) : disk'.read path = .ok content := by
  unfold Disk.read at hread ⊢
  split at hread
  · rename_i location found hlocate
    cases hread
    rw [hextends.locate hlocate]
  all_goals cases hread

/-- What was written where nothing was found can be read. -/
theorem read_of_writeText (hmissing : disk.isPresent path = false)
    (hwrite : disk.writeText path text = (.ok (), disk')) :
    disk'.read path = .ok (Text.encode text) := by
  have hhere : ∀ above name, disk.locate .write path = .ok (.free above name) →
      (disk.insert (above ++ [name]) (.file (Text.encode text))).read path =
        .ok (Text.encode text) := by
    intro above name hfree
    have hmakes : disk.Makes (.file .header path) (above ++ [name]) (.file (Text.encode text)) :=
      .file hmissing hfree
    have hraised : Raised disk _ (.file .header path) _ _ :=
      ⟨[], disk, .refl _, hmakes, .refl _⟩
    have hlocate : Disk.locate _ .look path = _ := hraised.locate_eq
    unfold Disk.read
    rw [hlocate]
  unfold writeText Disk.write at hwrite
  cases hlocate : disk.locate .write path with
  | error fault =>
    rw [hlocate] at hwrite
    cases hwrite
  | ok place =>
    rw [hlocate] at hwrite
    cases place with
    | free above name =>
      cases hwrite
      exact hhere above name hlocate
    | taken location node =>
      have hfound : disk.isPresent path = true :=
        isPresent_eq_true_iff.mpr ⟨_, _, locate_look_of_write hlocate⟩
      rw [hmissing] at hfound
      cases hfound

end Disk

namespace Script

variable {templates : Path} {provider : Provider} {disk disk' : Disk} {acts : List Act}
  {path : Path} {text : String}

theorem Visit.read_of_write {site : Site} {result : Except Failure Entry}
    (hvisit : Visit (Disk.surroundings templates) provider site disk acts result disk')
    (hwrite : .write path text (.ok ()) ∈ acts) : disk'.read path = .ok (Text.encode text) := by
  cases hvisit with
  | directoryFound | directoryMade | directoryRefused | fileFound | templateRefused
    | fileRefused => simp at hwrite
  | fileMade hlook hload hwritten =>
    obtain ⟨hmissing, rfl⟩ := Prod.mk.inj hlook
    obtain ⟨-, rfl⟩ := Prod.mk.inj hload
    obtain ⟨rfl, rfl⟩ : path = _ ∧ text = _ := by simpa using hwrite
    exact Disk.read_of_writeText hmissing hwritten

theorem Tour.read_of_write {sites : List Site} {result : Except Failure (List Entry)}
    (htour : Tour (Disk.surroundings templates) provider sites disk acts result disk')
    (hwrite : .write path text (.ok ()) ∈ acts) : disk'.read path = .ok (Text.encode text) := by
  induction htour with
  | done => cases hwrite
  | stop hvisit => exact hvisit.read_of_write hwrite
  | go hvisit htour ih =>
    rcases List.mem_append.mp hwrite with hfirst | hrest
    · obtain ⟨_, hgrows, -⟩ := htour.on_disk (Disk.liesOn_surroundings templates)
      exact hgrows.extends.read (hvisit.read_of_write hfirst)
    · exact ih hrest

/-- What a scaffold on a disk has written is there when it ends, whether it fails or not. -/
theorem read_scaffold (templates : Path) (provider : Provider) (root : Path) (disk : Disk) :
    let run := (scaffold provider root).exec (Disk.surroundings templates) disk
    ∀ path text, .write path text (.ok ()) ∈ run.acts →
      run.state.read path = .ok (Text.encode text) := by
  intro run path text hwrite
  obtain ⟨acts, result, disk', htour, hexec⟩ :=
    @exec_scaffold _ (Disk.surroundings templates) provider root disk
  have hrun : run = _ := hexec
  rw [hrun] at hwrite ⊢
  cases result with
  | ok entries =>
    have hacts : .write path text (.ok ()) ∈ acts := by simpa using hwrite
    exact htour.read_of_write hacts
  | error failure => exact htour.read_of_write hwrite

end Script

end Scaffolding
