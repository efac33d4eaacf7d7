import Scaffolding.Proofs.Disk.Stop
import Scaffolding.Proofs.Script.Invariant

/-!
# What is found on a disk stays found

Neither orders nor scripts take anything off a disk.  A file may get another
text, but it stays a file, and no walk reads the text of a file.  So a walk
that ends at a node ends there for ever.

* `Keeps` is what lasts, and `Leads.keep` says so of walks.
* `keeps_ensureDirectory` and `keeps_writeText` are the two orders, and
  `keeps_history` is any sequence of orders and scripts.
* `repeated_scaffold` is the result: once a scaffold has succeeded, it has
  nothing left to do, whatever is done in between.
-/

namespace Scaffolding

namespace Disk

variable {disk disk' disk'' : Disk} {purpose : Purpose} {links : Nat}
  {directory location : Location} {steps : List Step} {path : Path}

/-! ## Files with other texts -/

/-- That a disk still has all that another had, but perhaps other texts in its files. -/
structure Keeps (disk disk' : Disk) : Prop where
  here_eq : disk'.here = disk.here
  directory : ∀ {location}, disk.node? location = some .directory →
    disk'.node? location = some .directory
  link : ∀ {location target}, disk.node? location = some (.link target) →
    disk'.node? location = some (.link target)
  file : ∀ {location content}, disk.node? location = some (.file content) →
    ∃ content', disk'.node? location = some (.file content')

theorem Extends.keeps (hextends : disk.Extends disk') : disk.Keeps disk' where
  here_eq := hextends.here_eq
  directory := hextends.node?_eq
  link := hextends.node?_eq
  file hnode := ⟨_, hextends.node?_eq hnode⟩

theorem Keeps.refl (disk : Disk) : disk.Keeps disk :=
  (Extends.refl disk).keeps

theorem Keeps.trans (hfirst : disk.Keeps disk') (hsecond : disk'.Keeps disk'') :
    disk.Keeps disk'' where
  here_eq := hsecond.here_eq.trans hfirst.here_eq
  directory hnode := hsecond.directory (hfirst.directory hnode)
  link hnode := hsecond.link (hfirst.link hnode)
  file hnode := by
    obtain ⟨content, hnode⟩ := hfirst.file hnode
    exact hsecond.file hnode

/-- Another text is put into a file. -/
theorem Keeps.rewrite {content : Bytes} (content' : Bytes)
    (hfile : disk.node? location = some (.file content)) :
    disk.Keeps (disk.insert location (.file content')) := by
  have hroot : location ≠ [] := by
    rintro rfl
    cases hfile
  have hother : ∀ {other node}, disk.node? other = some node → node ≠ .file content →
      (disk.insert location (.file content')).node? other = some node := by
    intro other node hnode hplain
    rw [node?_insert disk hroot, if_neg]
    · exact hnode
    · rintro rfl
      exact hplain (Option.some.inj (hnode.symm.trans hfile))
  refine ⟨rfl, fun hnode => hother hnode nofun, fun hnode => hother hnode nofun, ?_⟩
  intro other text hnode
  rw [node?_insert disk hroot]
  split
  · exact ⟨content', rfl⟩
  · exact ⟨text, hnode⟩

/-! ## Walks -/

/-- A walk that ends at a node ends there whatever the files hold. -/
theorem Leads.keep {node : Node}
    (hleads : Leads disk purpose links directory steps (.taken location node))
    (hkeeps : disk.Keeps disk') :
    ∃ node', Leads disk' purpose links directory steps (.taken location node') ∧
      (node = .directory → node' = .directory) := by
  generalize hplace : Place.taken location node = place at hleads
  induction hleads with
  | arrive =>
    cases hplace
    exact ⟨_, .arrive, id⟩
  | here _ ih =>
    obtain ⟨node', hleads, hsame⟩ := ih hplace
    exact ⟨node', .here hleads, hsame⟩
  | slash _ ih =>
    obtain ⟨node', hleads, hsame⟩ := ih hplace
    exact ⟨node', .slash hleads, hsame⟩
  | up _ ih =>
    obtain ⟨node', hleads, hsame⟩ := ih hplace
    exact ⟨node', .up hleads, hsame⟩
  | free => cases hplace
  | enter hfits hnode _ ih =>
    obtain ⟨node', hleads, hsame⟩ := ih hplace
    exact ⟨node', .enter hfits (hkeeps.directory hnode) hleads, hsame⟩
  | file hfits hnode hend =>
    cases hplace
    obtain ⟨content', hnode'⟩ := hkeeps.file hnode
    exact ⟨_, .file hfits hnode' hend, nofun⟩
  | link hfits hnode hstops =>
    cases hplace
    exact ⟨_, .link hfits (hkeeps.link hnode) hstops, id⟩
  | follow hfits hnode hgoes _ ih =>
    obtain ⟨node', hleads, hsame⟩ := ih hplace
    exact ⟨node', .follow hfits (hkeeps.link hnode) hgoes hleads, hsame⟩

theorem Keeps.locate {node : Node} (hkeeps : disk.Keeps disk')
    (hlocate : disk.locate purpose path = .ok (.taken location node)) :
    ∃ node', disk'.locate purpose path = .ok (.taken location node') ∧
      (node = .directory → node' = .directory) := by
  obtain ⟨hpath, used, hused, hleads⟩ := locate_eq_ok_iff.mp hlocate
  rw [← hkeeps.here_eq] at hleads
  obtain ⟨node', hleads, hsame⟩ := hleads.keep hkeeps
  exact ⟨node', locate_eq_ok_iff.mpr ⟨hpath, used, hused, hleads⟩, hsame⟩

/-- A site that is found stays found. -/
theorem Keeps.holds {site : Site} (hkeeps : disk.Keeps disk') (hholds : disk.holds site = true) :
    disk'.holds site = true := by
  cases site with
  | directory path =>
    obtain ⟨location, hlocate⟩ := isDirectory_eq_true_iff.mp hholds
    obtain ⟨node', hlocate, hsame⟩ := hkeeps.locate hlocate
    rw [hsame rfl] at hlocate
    exact isDirectory_eq_true_iff.mpr ⟨location, hlocate⟩
  | file template path =>
    obtain ⟨location, node, hlocate⟩ := isPresent_eq_true_iff.mp hholds
    obtain ⟨node', hlocate, -⟩ := hkeeps.locate hlocate
    exact isPresent_eq_true_iff.mpr ⟨location, node', hlocate⟩

theorem Leads.node?_of_file {content : Bytes}
    (hleads : Leads disk purpose links directory steps (.taken location (.file content))) :
    disk.node? location = some (.file content) := by
  generalize hplace : Place.taken location (.file content) = place at hleads
  induction hleads with
  | arrive | free | link => cases hplace
  | here _ ih | slash _ ih | up _ ih => exact ih hplace
  | enter _ _ _ ih => exact ih hplace
  | follow _ _ _ _ ih => exact ih hplace
  | file _ hnode _ =>
    cases hplace
    exact hnode

/-! ## Orders and scripts -/

theorem keeps_ensureDirectory (disk : Disk) (path : Path) :
    disk.Keeps (disk.ensureDirectory path).2 := by
  cases hlook : disk.isDirectory path with
  | true =>
    have hfound : disk.ensureDirectory path = (.ok (), disk) := if_pos hlook
    rw [hfound]
    exact .refl disk
  | false =>
    rcases ensureDirectory_cases hlook with ⟨location, node, hmakes, hdone⟩ | ⟨_, hrefused⟩
    · rw [hdone]
      exact hmakes.grows.extends.keeps
    · rw [hrefused]
      exact .refl disk

/-- A text is put where nothing was, or in the place of another. -/
theorem keeps_writeText (disk : Disk) (path : Path) (text : String) :
    disk.Keeps (disk.writeText path text).2 := by
  unfold writeText write
  cases hlocate : disk.locate .write path with
  | error fault => exact .refl disk
  | ok place =>
    cases place with
    | free above name => exact (Extends.insert _ (vacant_of_locate hlocate)).keeps
    | taken location node =>
      cases node with
      | directory | link target => exact .refl disk
      | file content =>
        obtain ⟨-, _, -, hleads⟩ := locate_eq_ok_iff.mp hlocate
        exact .rewrite _ hleads.node?_of_file

theorem preserves_keeps {τ : Type} (load : Template → Disk × τ → Except Failure String × τ)
    (start : Disk) : (surroundingsWith load).Preserves fun state => start.Keeps state.1 where
  isDirectory _ hkeeps := hkeeps
  isPresent _ hkeeps := hkeeps
  makeDirectory path hkeeps := hkeeps.trans (keeps_ensureDirectory _ path)
  write path text hkeeps := hkeeps.trans (keeps_writeText _ path text)
  load _ hkeeps := hkeeps

/-- Something that is done to a disk.  A script brings its own source of templates. -/
inductive Operation : Type 1 where
  | makeDirectory (path : Path)
  | write (path : Path) (text : String)
  | run {τ : Type} (load : Template → Disk × τ → Except Failure String × τ) (source : τ)
      (task : Script.Task)

/-- The disk after an operation, whether it succeeds or not. -/
def Operation.perform : Operation → Disk → Disk
  | makeDirectory path, disk => (disk.ensureDirectory path).2
  | write path text, disk => (disk.writeText path text).2
  | run load source task, disk => (task.script.exec (surroundingsWith load) (disk, source)).state.1

/-- The disk after some operations. -/
def history (operations : List Operation) (disk : Disk) : Disk :=
  operations.foldl (fun disk operation => operation.perform disk) disk

theorem keeps_perform (operation : Operation) (disk : Disk) :
    disk.Keeps (operation.perform disk) := by
  cases operation with
  | makeDirectory path => exact keeps_ensureDirectory disk path
  | write path text => exact keeps_writeText disk path text
  | run load source task =>
    exact Script.exec_preserves (preserves_keeps load disk) task.script (Keeps.refl disk)

theorem keeps_history (operations : List Operation) (disk : Disk) :
    disk.Keeps (history operations disk) := by
  induction operations generalizing disk with
  | nil => exact .refl disk
  | cons operation rest ih => exact (keeps_perform operation disk).trans (ih _)

end Disk

namespace Script

variable {τ τ' : Type}

/-- Once a scaffold has succeeded, there is nothing left to make: whatever else is done to the disk,
and wherever templates come from, the same scaffold finds all of its sites.  It asks for nothing but
these seven, so it loads no template, and it leaves the disk and the source as they are. -/
theorem repeated_scaffold (load : Template → Disk × τ → Except Failure String × τ)
    (load' : Template → Disk × τ' → Except Failure String × τ') (provider : Provider) (root : Path)
    (disk : Disk) (source : τ) (source' : τ') (operations : List Disk.Operation) {report : Report}
    (hrun : ((scaffold provider root).exec (Disk.surroundingsWith load) (disk, source)).answer =
      .ok report) :
    let first := (scaffold provider root).exec (Disk.surroundingsWith load) (disk, source)
    let later := Disk.history operations first.state.1
    let again := (scaffold provider root).exec (Disk.surroundingsWith load') (later, source')
    again.answer = .ok ⟨provider, provider.home root,
        (provider.sites root).map fun site => site.entry .alreadyExists⟩ ∧
      again.state = (later, source') ∧
      Act.calls again.acts = (provider.sites root).map Site.sighting ∧
      ∀ template answer, .load template answer ∉ again.acts := by
  intro first later again
  obtain ⟨_, result, htour, hanswer, -⟩ :=
    exists_tour (Disk.surroundingsWith load) provider root (disk, source)
  obtain ⟨entries, rfl, -⟩ := exists_of_map_eq_ok (hanswer.symm.trans hrun)
  have hbuilt : Disk.Built (provider.sites root) disk entries first.state.1 :=
    htour.built (Disk.liesOn_surroundingsWith load)
  have hlook : ∀ site ∈ provider.sites root,
      (Disk.surroundingsWith load').look (later, source') site = (true, (later, source')) := by
    intro site hsite
    have hholds : later.holds site = true :=
      (Disk.keeps_history operations first.state.1).holds (hbuilt.holds hsite)
    cases site with
    | directory path | file template path => exact Prod.ext hholds rfl
  obtain ⟨acts, result, htour, hanswer, hcalls⟩ :=
    exists_tour (Disk.surroundingsWith load') provider root (later, source')
  obtain ⟨rfl, hstate, hsightings⟩ := htour.of_found hlook
  refine ⟨hanswer, hstate, hcalls.trans hsightings, ?_⟩
  intro template answer hmem
  have hcall : .load template answer ∈ Act.calls again.acts := List.mem_filter.mpr ⟨hmem, rfl⟩
  rw [hcalls.trans hsightings] at hcall
  obtain ⟨site, -, hsighting⟩ := List.mem_map.mp hcall
  cases site <;> cases hsighting

section Sample

/-- A source that refuses every template. -/
def noTemplates (_ : Template) (_ : Disk × Unit) : Except Failure String × Unit :=
  (.error .lockPoisoned, ())

/-- The header's name is a link to the source's name.  The link is written through, a directory is
made and another scaffold fails, and then the scaffold is repeated without templates. -/
theorem repeated_scaffold_tangled :
    let first := (scaffold shortNamed .empty).exec (Disk.surroundingsWith emptyTemplates)
      (tangled, ())
    let later := Disk.history
      [.write (.ofText "X/X.h") "text", .makeDirectory (.ofText "Y"),
        .run noTemplates () (.scaffold shortNamed (.ofText "Y"))] first.state.1
    let again := (scaffold shortNamed .empty).exec (Disk.surroundingsWith noTemplates) (later, ())
    first.answer = .ok (reported [.alreadyExists, .created, .created, .created, .alreadyExists,
        .created, .created]) ∧
      again.answer = .ok (reported (List.replicate 7 .alreadyExists)) ∧
      again.state = (later, ()) ∧
      Act.calls again.acts = (shortNamed.sites .empty).map Site.sighting ∧
      ∀ template answer, .load template answer ∉ again.acts := by
  intro first later again
  have hrun : first.answer = .ok (reported [.alreadyExists, .created, .created, .created,
      .alreadyExists, .created, .created]) := by
    decide +kernel
  exact ⟨hrun, repeated_scaffold emptyTemplates noTemplates shortNamed .empty tangled () ()
    [.write (.ofText "X/X.h") "text", .makeDirectory (.ofText "Y"),
      .run noTemplates () (.scaffold shortNamed (.ofText "Y"))] hrun⟩

end Sample

end Script

end Scaffolding
