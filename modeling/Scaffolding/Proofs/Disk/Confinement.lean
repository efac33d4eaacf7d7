import Scaffolding.Proofs.Disk.Foresight

/-!
# Where a scaffold puts what it makes

A directory is made where its path says, since a walk for a new entry does
not follow a link at its end.  A file is written where its path leads, and
a link that leads nowhere yet can lead out of the home.  So the nodes that
a scaffold adds lie in the home, but for files behind such links.

* `Disk.ResolvesTo` is the start of every walk to the home, and
  `ResolvesTo.exists_leads_home` and `ResolvesTo.exists_leads_child` go on
  to the home and to its entries.
* `Raised` keeps for each new node the site that it was made for.
* `confined_scaffold` is the result, for every run, and
  `strays_on_forwarding` shows a file that lies elsewhere.
-/

namespace Scaffolding

open Report (Entry)

namespace Disk

variable {start disk disk' : Disk} {purpose : Purpose} {links : Nat} {directory : Location}
  {steps : List Step} {place : Place} {provider : Provider} {root : Path} {location : Location}
  {node : Node} {site : Site} {sites : List Site} {entries : List Entry}

/-! ## The walk to the home -/

/-- That an output root leads to a directory.  The empty path stands for the working directory. -/
def ResolvesTo (disk : Disk) (root : Path) (location : Location) : Prop :=
  root = .empty ∧ location = disk.here ∨ disk.locate .look root = .ok (.taken location .directory)

/-- The location of a provider's home in a directory. -/
def homeIn (location : Location) (provider : Provider) : Location :=
  location ++ [Text.encode provider.name]

/-- A slash at the end asks for a directory, and does not lead on from it. -/
theorem Leads.of_concat_slash
    (hleads : Leads disk .look links directory (steps ++ [.slash]) (.taken location .directory)) :
    Leads disk .look links directory steps (.taken location .directory) := by
  generalize hsteps : steps ++ [Step.slash] = whole at hleads
  generalize hplace : Place.taken location .directory = place at hleads
  induction hleads generalizing steps with
  | arrive => exact absurd hsteps (List.concat_ne_nil _ _)
  | here _ ih =>
    cases steps with
    | nil => cases hsteps
    | cons step rest =>
      obtain ⟨rfl, hrest⟩ := List.cons.inj hsteps
      exact .here (ih hrest hplace)
  | slash hrest ih =>
    cases steps with
    | nil =>
      obtain ⟨-, rfl⟩ := List.cons.inj hsteps
      exact hrest
    | cons step rest =>
      obtain ⟨rfl, hrest⟩ := List.cons.inj hsteps
      exact .slash (ih hrest hplace)
  | up _ ih =>
    cases steps with
    | nil => cases hsteps
    | cons step rest =>
      obtain ⟨rfl, hrest⟩ := List.cons.inj hsteps
      exact .up (ih hrest hplace)
  | free => cases hplace
  | enter hfits hnode _ ih =>
    cases steps with
    | nil => cases hsteps
    | cons step rest =>
      obtain ⟨rfl, hrest⟩ := List.cons.inj hsteps
      exact .enter hfits.look hnode (ih hrest hplace)
  | file => cases hplace
  | link => cases hplace
  | follow hfits hnode _ _ ih =>
    cases steps with
    | nil => cases hsteps
    | cons step rest =>
      obtain ⟨rfl, hrest⟩ := List.cons.inj hsteps
      subst hrest
      exact .follow hfits.look hnode not_stops_look (ih (List.append_assoc _ _ _) hplace)

theorem ResolvesTo.exists_leads (hroot : disk.ResolvesTo root location) :
    ∃ used, Leads disk .look used (startOf disk.here root) (root.stem.filterMap stepOf?)
      (.taken location .directory) := by
  rcases hroot with ⟨rfl, rfl⟩ | hlocate
  · exact ⟨0, .arrive⟩
  · obtain ⟨-, used, -, hleads⟩ := locate_eq_ok_iff.mp hlocate
    refine ⟨used, ?_⟩
    rcases stepsOf_eq_stem root with hsteps | hsteps
    · rwa [hsteps] at hleads
    · rw [hsteps] at hleads
      exact hleads.of_concat_slash

theorem ResolvesTo.extend (hroot : start.ResolvesTo root location)
    (hextends : start.Extends disk) : disk.ResolvesTo root location := by
  rcases hroot with ⟨rfl, rfl⟩ | hlocate
  · exact .inl ⟨rfl, hextends.here_eq.symm⟩
  · exact .inr (hextends.locate hlocate)

/-- A walk to the home ends with the step from the output root. -/
theorem ResolvesTo.exists_leads_home (hroot : disk.ResolvesTo root location)
    (hlocate : disk.locate purpose (provider.home root) = .ok place) :
    ∃ used, Leads disk purpose used location [.name (Text.encode provider.name)] place := by
  obtain ⟨-, used, -, hleads⟩ := locate_eq_ok_iff.mp hlocate
  have hsteps : stepsOf (provider.home root) = _ := stepsOf_join_stem root provider.isName_name
  have hstart : startOf disk.here (provider.home root) = _ := startOf_join provider.isName_name
  rw [hsteps, hstart] at hleads
  obtain ⟨_, more, reached, -, hbefore, hname⟩ := hleads.exists_of_append
  obtain ⟨_, hthere⟩ := hroot.exists_leads
  have hplace := hbefore.unique hthere
  injection hplace with hplace
  subst hplace
  exact ⟨more, hname⟩

/-- A walk to an entry of the home ends with the step from the home, unless the home is a link. -/
theorem ResolvesTo.exists_leads_child {text : String} (hroot : disk.ResolvesTo root location)
    (hhome : ∀ target, disk.node? (homeIn location provider) ≠ some (.link target))
    (hmem : text ∈ provider.entryNames)
    (hlocate : disk.locate purpose ((provider.home root).child text) = .ok place) :
    ∃ used,
      Leads disk purpose used (homeIn location provider) [.name (Text.encode text)] place := by
  obtain ⟨hpath, used, hused, hleads⟩ := locate_eq_ok_iff.mp hlocate
  rw [stepsOf_child_home hmem, startOf_child_home hmem] at hleads
  obtain ⟨before, more, reached, hlinks, hbefore, hname⟩ := hleads.exists_of_append
  have hsteps : stepsOf (provider.home root) = _ := stepsOf_join_stem root provider.isName_name
  have hstart : startOf disk.here (provider.home root) = _ := startOf_join provider.isName_name
  rw [hsteps, hstart] at hbefore
  obtain ⟨_, _, above, -, habove, hlast⟩ := hbefore.exists_of_append
  obtain ⟨_, hthere⟩ := hroot.exists_leads
  have hplace := habove.unique hthere
  injection hplace with hplace
  subst hplace
  cases hlast with
  | enter _ _ hrest =>
    cases hrest
    exact ⟨more, hname⟩
  | follow _ hnode _ _ => exact absurd hnode (hhome _)

/-- A name is free where it stands, or it is a link that the walk follows. -/
theorem Leads.free_or_link {above : Location} {name other : Bytes}
    (hleads : Leads disk purpose links directory [.name name] (.free above other)) :
    above ++ [other] = directory ++ [name] ∨
      purpose ≠ .entry ∧ ∃ target, disk.node? (directory ++ [name]) = some (.link target) := by
  cases hleads with
  | free => exact .inl rfl
  | enter _ _ hrest => cases hrest
  | follow _ hnode hgoes _ =>
    refine .inr ⟨?_, _, hnode⟩
    intro hentry
    exact hgoes ⟨hentry, rfl⟩

theorem Grows.link_of_link {added : List (Location × Node)} {target : Bytes}
    (hgrows : start.Grows added disk) (hlink : disk.node? location = some (.link target)) :
    start.node? location = some (.link target) := by
  rcases (hgrows.node?_iff _ _).mp hlink with hold | hnew
  · exact hold
  · rcases hgrows.plain _ hnew with hplain | ⟨_, hplain⟩
    · cases hplain
    · cases hplain

/-! ## Where one node comes to lie -/

section Lodge

variable {added : List (Location × Node)} {reached : Location}

/-- What is made for a site of a provider lies in the home, but for a file behind a link. -/
theorem Makes.lodged (hgrows : start.Grows added disk) (hroot : start.ResolvesTo root location)
    (hhome : ∀ target, start.node? (homeIn location provider) ≠ some (.link target))
    (hsite : site ∈ provider.sites root) (hmakes : disk.Makes site reached node) :
    homeIn location provider <+: reached ∨
      ∃ template target content, site = .file template (provider.file root template) ∧
        start.node? (homeIn location provider ++ [Text.encode (template.target provider)]) =
          some (.link target) ∧ node = .file content := by
  have hroot' := hroot.extend hgrows.extends
  have hhome' : ∀ target, disk.node? (homeIn location provider) ≠ some (.link target) :=
    fun target hlink => hhome target (hgrows.link_of_link hlink)
  cases hmakes with
  | @directory path above name _ hfree =>
    have hpath : path ∈ provider.directories root := by simpa [Provider.sites] using hsite
    rcases List.mem_cons.mp hpath with rfl | hsub
    · obtain ⟨_, hleads⟩ := hroot'.exists_leads_home hfree
      rcases hleads.free_or_link with hhere | ⟨hentry, -⟩
      · rw [hhere]
        exact .inl (List.prefix_refl _)
      · exact absurd rfl hentry
    · obtain ⟨text, htext, rfl⟩ := List.mem_map.mp hsub
      obtain ⟨_, hleads⟩ :=
        hroot'.exists_leads_child hhome' (List.mem_append_left _ htext) hfree
      rcases hleads.free_or_link with hhere | ⟨hentry, -⟩
      · rw [hhere]
        exact .inl (List.prefix_append _ _)
      · exact absurd rfl hentry
  | @file template path above name content _ hfree =>
    obtain ⟨-, rfl⟩ : template ∈ Template.all ∧ provider.file root template = path := by
      simpa [Provider.sites] using hsite
    have hmem : template.target provider ∈ provider.entryNames :=
      List.mem_append_right _ (List.mem_map_of_mem template.mem_all)
    obtain ⟨_, hleads⟩ := hroot'.exists_leads_child hhome' hmem hfree
    rcases hleads.free_or_link with hhere | ⟨-, target, hlink⟩
    · rw [hhere]
      exact .inl (List.prefix_append _ _)
    · exact .inr ⟨template, target, content, rfl, hgrows.link_of_link hlink, rfl⟩

end Lodge

/-! ## What the new nodes were made for -/

/-- That a node was made for a site on the way from one disk to another. -/
def Raised (start disk : Disk) (site : Site) (reached : Location) (node : Node) : Prop :=
  ∃ added middle, start.Grows added middle ∧ middle.Makes site reached node ∧
    (middle.insert reached node).Extends disk

/-- Afterwards the path of the site leads to the node. -/
theorem Raised.locate_eq {reached : Location} (hraised : start.Raised disk site reached node) :
    disk.locate .look site.path = .ok (.taken reached node) := by
  obtain ⟨added, middle, -, hmakes, hextends⟩ := hraised
  have hgrows := hmakes.grows.extends
  have hthere : (middle.insert reached node).node? reached = some node := by
    rw [node?_insert middle (ne_nil_of_vacant hmakes.vacant), if_pos rfl]
  apply hextends.locate
  cases hmakes with
  | directory _ hfree =>
    obtain ⟨hpath, used, hused, hleads⟩ := locate_eq_ok_iff.mp hfree
    exact locate_eq_ok_iff.mpr ⟨hpath, used, hused, hleads.look_of_made hgrows hthere⟩
  | file _ hfree =>
    obtain ⟨hpath, used, hused, hleads⟩ := locate_eq_ok_iff.mp hfree
    exact locate_eq_ok_iff.mpr ⟨hpath, used, hused, hleads.look_of_filled hgrows hthere⟩

theorem Raised.of_insert {reached reached' : Location} {node' : Node} {site' : Site}
    (hmakes : start.Makes site reached node)
    (hraised : (start.insert reached node).Raised disk site' reached' node') :
    start.Raised disk site' reached' node' := by
  obtain ⟨added, middle, hgrows, hmade, hextends⟩ := hraised
  exact ⟨added ++ [(reached, node)], middle, hmakes.grows.trans hgrows, hmade, hextends⟩

/-- Along a chain of disks, the new nodes and the entries that tell of something made belong
together. -/
theorem Built.exists_raised (hbuilt : Built sites disk entries disk') :
    ∃ added, disk.Grows added disk' ∧
      (∀ new ∈ added, ∃ site ∈ sites, site.entry .created ∈ entries ∧
        disk.Raised disk' site new.1 new.2) ∧
      ∀ entry ∈ entries, entry.outcome = .created →
        ∃ site new, new ∈ added ∧ entry = site.entry .created ∧
          disk.Raised disk' site new.1 new.2 := by
  induction hbuilt with
  | done => exact ⟨[], .refl _, by simp, by simp⟩
  | @found site _ _ _ _ _ _ ih =>
    obtain ⟨added, hgrows, hnew, hentry⟩ := ih
    refine ⟨added, hgrows, ?_, ?_⟩
    · intro new hmem
      obtain ⟨other, hother, hcreated, hraised⟩ := hnew new hmem
      exact ⟨other, List.mem_cons_of_mem _ hother, List.mem_cons_of_mem _ hcreated, hraised⟩
    · intro entry hmem houtcome
      rcases List.mem_cons.mp hmem with rfl | hmem
      · cases houtcome
      · exact hentry entry hmem houtcome
  | @made site _ _ _ _ location node hmakes hrest ih =>
    obtain ⟨added, hgrows, hnew, hentry⟩ := ih
    have hhere : Raised _ _ site location node := ⟨[], _, .refl _, hmakes, hrest.extends⟩
    refine ⟨added ++ [(location, node)], hmakes.grows.trans hgrows, ?_, ?_⟩
    · intro new hmem
      rcases List.mem_append.mp hmem with hmem | hmem
      · obtain ⟨other, hother, hcreated, hraised⟩ := hnew new hmem
        exact ⟨other, List.mem_cons_of_mem _ hother, List.mem_cons_of_mem _ hcreated,
          hraised.of_insert hmakes⟩
      · rw [List.mem_singleton.mp hmem]
        exact ⟨site, List.mem_cons_self, List.mem_cons_self, hhere⟩
    · intro entry hmem houtcome
      rcases List.mem_cons.mp hmem with rfl | hmem
      · exact ⟨site, _, List.mem_append_right _ List.mem_cons_self, rfl, hhere⟩
      · obtain ⟨other, new, hmem, heq, hraised⟩ := hentry entry hmem houtcome
        exact ⟨other, new, List.mem_append_left _ hmem, heq, hraised.of_insert hmakes⟩

end Disk

namespace Script

/-! ## Every run on a disk -/

/-- All that a scaffold adds lies in the home, but for files behind links that stand at the targets,
as long as the home is no link itself.  A scaffold that succeeds has added what the paths lead to
that it reports as made. -/
theorem confined_scaffold {τ : Type} (load : Template → Disk × τ → Except Failure String × τ)
    (provider : Provider) {root : Path} {disk : Disk} (source : τ) {location : Location}
    (hroot : disk.ResolvesTo root location)
    (hhome : ∀ target, disk.node? (Disk.homeIn location provider) ≠ some (.link target)) :
    let run := (scaffold provider root).exec (Disk.surroundingsWith load) (disk, source)
    ∃ added, disk.Grows added run.state.1 ∧
      (∀ new ∈ added, Disk.homeIn location provider <+: new.1 ∨
        ∃ template target content,
          disk.node? (Disk.homeIn location provider ++
            [Text.encode (template.target provider)]) = some (.link target) ∧
          new.2 = .file content ∧
          run.state.1.locate .look (provider.file root template) = .ok (.taken new.1 new.2)) ∧
      ∀ report, run.answer = .ok report → ∀ new,
        new ∈ added ↔ ∃ entry ∈ report.entries, entry.outcome = .created ∧
          run.state.1.locate .look entry.path = .ok (.taken new.1 new.2) := by
  intro run
  obtain ⟨acts, result, htour, hanswer, -⟩ :=
    exists_tour (Disk.surroundingsWith load) provider root (disk, source)
  obtain ⟨visited, entries, hvisited, hbuilt, hend⟩ :=
    htour.exists_built (Disk.liesOn_surroundingsWith load)
  obtain ⟨added, hgrows, hnew, hentry⟩ := hbuilt.exists_raised
  refine ⟨added, hgrows, ?_, ?_⟩
  · intro new hmem
    obtain ⟨site, hsite, -, hraised⟩ := hnew new hmem
    have hlocate := hraised.locate_eq
    obtain ⟨before, middle, hbefore, hmakes, -⟩ := hraised
    rcases hmakes.lodged hbefore hroot hhome (hvisited.subset hsite) with hinside |
      ⟨template, target, content, rfl, hlink, hfile⟩
    · exact .inl hinside
    · exact .inr ⟨template, target, content, hlink, hfile, hlocate⟩
  · intro report hreport new
    obtain ⟨all, hall, rfl⟩ := exists_of_map_eq_ok (hanswer.symm.trans hreport)
    obtain ⟨rfl, rfl⟩ := hend all hall
    constructor
    · intro hmem
      obtain ⟨site, -, hcreated, hraised⟩ := hnew new hmem
      exact ⟨_, hcreated, rfl, hraised.locate_eq⟩
    · intro hmade
      obtain ⟨entry, hmem, houtcome, hlocate⟩ := hmade
      obtain ⟨site, other, hother, rfl, hraised⟩ := hentry entry hmem houtcome
      have hsame := hraised.locate_eq.symm.trans hlocate
      injection hsame with hsame
      injection hsame with hlocation hnode
      rwa [Prod.ext hlocation.symm hnode.symm]

section Sample

/-- A home in which the header's name is a link to a file beside the home, which is not there. -/
def forwarding : Disk where
  nodes := [([Text.encode "X"], .directory),
    ([Text.encode "X", Text.encode "X.h"], .link (Text.encode "../Y.h"))]
  here := []

theorem confined_scaffold_forwarding :
    forwarding.ResolvesTo .empty [] ∧
      (∀ target, forwarding.node? (Disk.homeIn [] shortNamed) ≠ some (.link target)) ∧
      let run := (scaffold shortNamed .empty).exec (Disk.surroundingsWith emptyTemplates)
        (forwarding, ())
      ∃ added, forwarding.Grows added run.state.1 ∧
        (∀ new ∈ added, Disk.homeIn [] shortNamed <+: new.1 ∨
          ∃ template target content,
            forwarding.node? (Disk.homeIn [] shortNamed ++
              [Text.encode (template.target shortNamed)]) = some (.link target) ∧
            new.2 = .file content ∧
            run.state.1.locate .look (shortNamed.file .empty template) =
              .ok (.taken new.1 new.2)) ∧
        ∀ report, run.answer = .ok report → ∀ new,
          new ∈ added ↔ ∃ entry ∈ report.entries, entry.outcome = .created ∧
            run.state.1.locate .look entry.path = .ok (.taken new.1 new.2) := by
  have hroot : forwarding.ResolvesTo .empty [] := .inl ⟨rfl, rfl⟩
  have hhome : ∀ target, forwarding.node? (Disk.homeIn [] shortNamed) ≠ some (.link target) := by
    have hdirectory : forwarding.node? (Disk.homeIn [] shortNamed) = some .directory := by decide
    rw [hdirectory]
    nofun
  exact ⟨hroot, hhome, confined_scaffold emptyTemplates shortNamed () hroot hhome⟩

/-- The header is written through the link, beside the home and not in it. -/
theorem strays_on_forwarding :
    forwarding.ResolvesTo .empty [] ∧
      forwarding.node? (Disk.homeIn [] shortNamed) = some .directory ∧
      let run := (scaffold shortNamed .empty).exec (Disk.surroundingsWith emptyTemplates)
        (forwarding, ())
      run.answer = .ok (reported (.alreadyExists :: List.replicate 6 .created)) ∧
        forwarding.node? [Text.encode "Y.h"] = none ∧
        run.state.1.node? [Text.encode "Y.h"] = some (.file []) ∧
        ¬ Disk.homeIn [] shortNamed <+: [Text.encode "Y.h"] := by
  refine ⟨.inl ⟨rfl, rfl⟩, by decide, ?_, by decide, ?_, by decide⟩
  · decide +kernel
  · decide +kernel

end Sample

end Script

end Scaffolding
