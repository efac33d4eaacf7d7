import Scaffolding.Proofs.Script.Mirror
import Scaffolding.Proofs.Script.Turns
import Scaffolding.Proofs.Store.Shared

/-!
# Scaffolds that share a memory

Scaffolds below one root that take turns in one memory do not get in each
other's way.  Each ends as it would alone, and the store is in the end as
if they had run one after another.

Two of the same name can both miss a path and both make it.  That does no
harm, as the second makes what is there already.

* `Ready` is what holds of a script between two of its turns, and
  `ready_scaffold` is where it starts.
* `Sound.advance` is one turn of one thread: the thread stays sound, and
  the store stays `GrownBy` the threads.
* `consistent_takeTurns` carries that through a schedule.
* `converged_scaffolds` is the result.
-/

namespace Scaffolding

open Report (Entry)

namespace Script

variable {store current current' : Store} {shelf : Shelf} {provider : Provider} {root : Path}
  {maker : Provider → Path → Prop} {visited : List Site} {made : List Path} {script : Script Report}

/-! ## Between two turns -/

/-- That a site is the next of a provider's, and no site before it is refused. -/
structure Turn (store : Store) (shelf : Shelf) (provider : Provider) (root : Path)
    (visited : List Site) (site : Site) : Prop where
  exists_sites : ∃ after, provider.sites root = visited ++ site :: after
  unrefused : ∀ other ∈ visited, store.refusal? shelf (provider.home root) other = none

theorem Turn.mem {site : Site} (hturn : Turn store shelf provider root visited site) :
    site ∈ provider.sites root := by
  obtain ⟨after, hsites⟩ := hturn.exists_sites
  exact Provider.mem_of_sites_eq hsites

/-- What is left of a scaffold that has visited some sites and made some paths, and what it knows
of the store at the start. -/
inductive Ready (store : Store) (shelf : Shelf) (provider : Provider) (root : Path) :
    List Site → List Path → Script Report → Prop where
  | isDirectory {visited : List Site} {made : List Path} {path : Path} {next : Bool → Script Report}
      (hturn : Turn store shelf provider root visited (.directory path))
      (hfound : store.refusal? shelf (provider.home root) (.directory path) = none →
        Ready store shelf provider root (visited ++ [.directory path]) made (next true))
      (hmissing : Ready store shelf provider root visited made (next false)) :
      Ready store shelf provider root visited made (.isDirectory path next)
  | makeDirectory {visited : List Site} {made : List Path} {path : Path} {next : Script Report}
      (hturn : Turn store shelf provider root visited (.directory path))
      (hnext : store.refusal? shelf (provider.home root) (.directory path) = none →
        Ready store shelf provider root (visited ++ [.directory path]) (made ++ [path]) next) :
      Ready store shelf provider root visited made (.makeDirectory path next)
  | isPresent {visited : List Site} {made : List Path} {template : Template} {path : Path}
      {next : Bool → Script Report}
      (hturn : Turn store shelf provider root visited (.file template path))
      (hfound : store.refusal? shelf (provider.home root) (.file template path) = none →
        Ready store shelf provider root (visited ++ [.file template path]) made (next true))
      (hmissing : store.isPresent path = false →
        Ready store shelf provider root visited made (next false)) :
      Ready store shelf provider root visited made (.isPresent path next)
  | load {visited : List Site} {made : List Path} {template : Template} {path : Path}
      {next : String → Script Report}
      (hturn : Turn store shelf provider root visited (.file template path))
      (hvacant : store.isPresent path = false)
      (hnext : ∀ source, shelf.text? template = some source →
        Ready store shelf provider root visited made (next source)) :
      Ready store shelf provider root visited made (.load template next)
  | write {visited : List Site} {made : List Path} {template : Template} {path : Path}
      {source : String} {next : Script Report}
      (hturn : Turn store shelf provider root visited (.file template path))
      (hvacant : store.isPresent path = false) (hsource : shelf.text? template = some source)
      (hnext : Ready store shelf provider root (visited ++ [.file template path])
        (made ++ [path]) next) :
      Ready store shelf provider root visited made
        (.write path (instantiate source provider) next)
  | note {visited : List Site} {made : List Path} {event : Event} {next : Script Report}
      (hnext : Ready store shelf provider root visited made next) :
      Ready store shelf provider root visited made (.note event next)
  | done {report : Report}
      (hall : ∀ site ∈ provider.sites root,
        store.refusal? shelf (provider.home root) site = none) :
      Ready store shelf provider root (provider.sites root) report.created (.done report)

theorem refusal?_file_of_text {template : Template} {path : Path} {source : String}
    (htext : shelf.text? template = some source) :
    store.refusal? shelf (provider.home root) (.file template path) = none := by
  rw [Store.refusal?, Shelf.load_eq_ok_iff.mpr htext]
  split <;> rfl

theorem ready_through {sites : List Site} {next : List Entry → Script Report}
    (hsites : provider.sites root = visited ++ sites)
    (hvisited : ∀ other ∈ visited, store.refusal? shelf (provider.home root) other = none)
    (hnext : (∀ site ∈ provider.sites root,
        store.refusal? shelf (provider.home root) site = none) → ∀ entries,
      Ready store shelf provider root (provider.sites root) (made ++ Report.createdIn entries)
        (next entries)) :
    Ready store shelf provider root visited made (through (visit provider) sites next) := by
  induction sites generalizing visited made next with
  | nil =>
    rw [List.append_nil] at hsites
    have hready := hnext (by rwa [hsites]) []
    rw [hsites] at hready
    have hmade : made ++ Report.createdIn [] = made := List.append_nil made
    rwa [hmade] at hready
  | cons site rest ih =>
    have hturn : Turn store shelf provider root visited site := ⟨⟨rest, hsites⟩, hvisited⟩
    have hgo : store.refusal? shelf (provider.home root) site = none → ∀ entry,
        Ready store shelf provider root (visited ++ [site]) (made ++ Report.createdIn [entry])
          (through (visit provider) rest fun entries => next (entry :: entries)) := by
      intro hrefusal entry
      apply ih
      · rw [hsites, List.append_assoc, List.singleton_append]
      · exact List.forall_mem_append.mpr ⟨hvisited, List.forall_mem_singleton.mpr hrefusal⟩
      · intro hall entries
        rw [List.append_assoc, ← Report.createdIn_cons]
        exact hnext hall (entry :: entries)
    have hfound : ∀ entry, Report.createdIn [entry] = [] →
        store.refusal? shelf (provider.home root) site = none →
        Ready store shelf provider root (visited ++ [site]) made
          (through (visit provider) rest fun entries => next (entry :: entries)) := by
      intro entry hold hrefusal
      have hready := hgo hrefusal entry
      rwa [hold, List.append_nil] at hready
    cases site with
    | directory path =>
      refine .isDirectory hturn (fun hrefusal => .note (hfound _ rfl hrefusal)) ?_
      exact .makeDirectory hturn fun hrefusal => .note (hgo hrefusal ⟨path, .directory, .created⟩)
    | file template path =>
      refine .isPresent hturn (fun hrefusal => .note (hfound _ rfl hrefusal)) ?_
      intro hvacant
      refine .note (.load hturn hvacant fun source hsource => ?_)
      have hrefusal : store.refusal? shelf (provider.home root) (.file template path) = none :=
        refusal?_file_of_text hsource
      exact .write hturn hvacant hsource (.note (hgo hrefusal ⟨path, .file, .created⟩))

/-- A scaffold that has not begun is ready. -/
theorem ready_scaffold (store : Store) (shelf : Shelf) (provider : Provider) (root : Path) :
    Ready store shelf provider root [] [] (scaffold provider root) :=
  ready_through rfl (fun _ hmem => absurd hmem List.not_mem_nil) fun hall entries =>
    .note (@Ready.done _ _ _ _ ⟨provider, provider.home root, entries⟩ hall)

/-! ## One turn -/

/-- What holds of a thread that shares a store: the sites that it has visited are there, and what is
left of it is ready, or the next site is refused. -/
def Sound (store : Store) (shelf : Shelf) (provider : Provider) (root : Path) (current : Store)
    (thread : Thread Report) : Prop :=
  ∃ visited, (∀ site ∈ visited, current.holds site = true) ∧
    match thread.rest with
    | .ok script => Ready store shelf provider root visited (Act.made thread.acts) script
    | .error failure => ∃ site, Turn store shelf provider root visited site ∧
        store.refusal? shelf (provider.home root) site = some failure

theorem Sound.of_keeps {thread : Thread Report}
    (hsound : Sound store shelf provider root current thread) (hkeeps : current.Keeps current') :
    Sound store shelf provider root current' thread := by
  obtain ⟨visited, hheld, hrest⟩ := hsound
  exact ⟨visited, fun site hmem => hkeeps site (hheld site hmem), hrest⟩

section Turn

variable {acts : List Act} {act : Act} {site : Site}
  (hheld : ∀ other ∈ visited, current.holds other = true)

include hheld

theorem sound_of_ready {made : Option Path} (hact : act.made? = made)
    (hready : Ready store shelf provider root visited (Act.made acts ++ made.toList) script) :
    Sound store shelf provider root current ⟨acts ++ [act], .ok script⟩ := by
  refine ⟨visited, hheld, ?_⟩
  have hmade : Act.made (acts ++ [act]) = Act.made acts ++ made.toList := by
    rw [Act.made_append]
    unfold Act.made
    rw [List.filterMap_cons, hact]
    cases made <;> rfl
  show Ready store shelf provider root visited (Act.made (acts ++ [act])) script
  rwa [hmade]

theorem sound_of_idle (hact : act.made? = none)
    (hready : Ready store shelf provider root visited (Act.made acts) script) :
    Sound store shelf provider root current ⟨acts ++ [act], .ok script⟩ := by
  apply sound_of_ready hheld hact
  rwa [Option.toList_none, List.append_nil]

theorem forall_holds_concat (hholds : current.holds site = true) :
    ∀ other ∈ visited ++ [site], current.holds other = true :=
  List.forall_mem_append.mpr ⟨hheld, List.forall_mem_singleton.mpr hholds⟩

end Turn

/-- What a turn of a provider's thread comes to: the store gains at most what the thread made, and
the thread is sound. -/
def GoesOn (store : Store) (shelf : Shelf) (provider : Provider) (root : Path)
    (maker : Provider → Path → Prop) (current : Store) (after : Thread Report × Memory) : Prop :=
  ∃ current', after.2 = .holding current' shelf ∧ current.Keeps current' ∧
    store.GrownBy shelf root
      (fun other path => maker other path ∨ other = provider ∧ path ∈ Act.made after.1.acts)
      current' ∧
    Sound store shelf provider root current' after.1

/-- Most turns leave the store as it is. -/
theorem goesOn_of_sound (hgrown : store.GrownBy shelf root maker current) {thread : Thread Report}
    (hsound : Sound store shelf provider root current thread) :
    GoesOn store shelf provider root maker current (thread, .holding current shelf) :=
  ⟨current, rfl, fun _ => id, hgrown.mono fun _ _ => .inl, hsound⟩

theorem mem_made_concat {acts : List Act} {act : Act} {path : Path}
    (hact : act.made? = some path) : path ∈ Act.made (acts ++ [act]) :=
  List.mem_filterMap.mpr ⟨act, List.mem_append_right _ List.mem_cons_self, hact⟩

section Order

variable {acts : List Act} {path : Path}
  (hgrown : store.GrownBy shelf root maker current)
  (hheld : ∀ site ∈ visited, current.holds site = true)

include hgrown hheld

/-- A directory is made, or is refused as at the start. -/
theorem goesOn_makeDirectory {next : Script Report}
    (hturn : Turn store shelf provider root visited (.directory path))
    (hnext : store.refusal? shelf (provider.home root) (.directory path) = none →
      Ready store shelf provider root (visited ++ [.directory path]) (Act.made acts ++ [path]) next) :
    GoesOn store shelf provider root maker current
      ((⟨acts, .ok (.makeDirectory path next)⟩ : Thread Report).advance Memory.surroundings
        (.holding current shelf)) := by
  obtain ⟨after, hsites⟩ := hturn.exists_sites
  have horder := hgrown.makeDirectory_eq hsites hheld
  rw [Thread.advance_makeDirectory]
  cases hrefusal : store.refusal? shelf (provider.home root) (.directory path) with
  | some failure =>
    rw [hrefusal] at horder
    have hanswer : Memory.surroundings.makeDirectory path (.holding current shelf) = _ :=
      Memory.order_holding_error horder
    rw [hanswer]
    exact goesOn_of_sound hgrown ⟨visited, hheld, .directory path, hturn, hrefusal⟩
  | none =>
    rw [hrefusal] at horder
    have hanswer : Memory.surroundings.makeDirectory path (.holding current shelf) = _ :=
      Memory.order_holding_ok horder
    rw [hanswer]
    have hkeeps : current.Keeps _ := Store.keeps_insertDirectory path
    have hmem := Store.mem_feasible_of_turn hsites hturn.unrefused hrefusal
    have hvisited := forall_holds_concat (fun site hsite => hkeeps site (hheld site hsite))
      (Store.holds_insertDirectory path)
    refine ⟨_, rfl, hkeeps, ?_, sound_of_ready hvisited rfl (hnext hrefusal)⟩
    exact (hgrown.mono fun _ _ => .inl).insertDirectory (.inr ⟨rfl, mem_made_concat rfl⟩) hmem

/-- A file is always written. -/
theorem goesOn_write {template : Template} {source : String} {next : Script Report}
    (hturn : Turn store shelf provider root visited (.file template path))
    (hvacant : store.isPresent path = false) (hsource : shelf.text? template = some source)
    (hnext : Ready store shelf provider root (visited ++ [.file template path])
      (Act.made acts ++ [path]) next) :
    GoesOn store shelf provider root maker current
      ((⟨acts, .ok (.write path (instantiate source provider) next)⟩ : Thread Report).advance
        Memory.surroundings (.holding current shelf)) := by
  obtain ⟨after, hsites⟩ := hturn.exists_sites
  have horder := hgrown.write_eq (instantiate source provider) hsites hheld hvacant
  have hanswer : Memory.surroundings.write path (instantiate source provider)
      (.holding current shelf) = _ := Memory.order_holding_ok horder
  rw [Thread.advance_write, hanswer]
  have hkeeps : current.Keeps _ := Store.keeps_insertFile path (instantiate source provider)
  have hmem := Store.mem_feasible_of_turn hsites hturn.unrefused (refusal?_file_of_text hsource)
  have hvisited := forall_holds_concat (fun site hsite => hkeeps site (hheld site hsite))
    (Store.holds_insertFile template path (instantiate source provider))
  refine ⟨_, rfl, hkeeps, ?_, sound_of_ready hvisited rfl hnext⟩
  exact (hgrown.mono fun _ _ => .inl).insertFile (.inr ⟨rfl, mem_made_concat rfl⟩) hmem hvacant
    hsource

end Order

/-- A turn of a thread leaves it sound, and adds to the store what it makes. -/
theorem Sound.advance {thread : Thread Report}
    (hgrown : store.GrownBy shelf root maker current)
    (hsound : Sound store shelf provider root current thread) :
    GoesOn store shelf provider root maker current
      (thread.advance Memory.surroundings (.holding current shelf)) := by
  obtain ⟨visited, hheld, hrest⟩ := hsound
  obtain ⟨acts, rest⟩ := thread
  cases rest with
  | error failure => exact goesOn_of_sound hgrown ⟨visited, hheld, hrest⟩
  | ok script =>
    change Ready store shelf provider root visited (Act.made acts) script at hrest
    -- A script that is done has made just what its report says, so the split is on any paths.
    generalize hmade : Act.made acts = made at hrest
    cases hrest with
    | done hall =>
      refine goesOn_of_sound hgrown ⟨_, hheld, ?_⟩
      show Ready store shelf provider root _ (Act.made acts) _
      rw [hmade]
      exact .done hall
    | note hnext =>
      subst hmade
      rw [Thread.advance_note]
      exact goesOn_of_sound hgrown (sound_of_idle hheld rfl hnext)
    | @isDirectory _ _ path next hturn hfound hmissing =>
      subst hmade
      rw [Thread.advance_isDirectory]
      apply goesOn_of_sound hgrown
      show Sound store shelf provider root current
        ⟨acts ++ [.isDirectory path (current.isDirectory path)],
          .ok (next (current.isDirectory path))⟩
      cases hthere : current.isDirectory path with
      | true =>
        have hholds : current.holds (.directory path) = true := hthere
        have hrefusal := hgrown.refusal?_of_holds hturn.mem hholds
        exact sound_of_idle (forall_holds_concat hheld hholds) rfl (hfound hrefusal)
      | false => exact sound_of_idle hheld rfl hmissing
    | @isPresent _ _ template path next hturn hfound hmissing =>
      subst hmade
      rw [Thread.advance_isPresent]
      apply goesOn_of_sound hgrown
      show Sound store shelf provider root current
        ⟨acts ++ [.isPresent path (current.isPresent path)],
          .ok (next (current.isPresent path))⟩
      cases hthere : current.isPresent path with
      | true =>
        have hholds : current.holds (.file template path) = true := hthere
        have hrefusal := hgrown.refusal?_of_holds hturn.mem hholds
        exact sound_of_idle (forall_holds_concat hheld hholds) rfl (hfound hrefusal)
      | false =>
        have hvacant : store.isPresent path = false :=
          Bool.eq_false_iff.mpr fun hold =>
            Bool.eq_false_iff.mp hthere (hgrown.isPresent_of_start hold)
        exact sound_of_idle hheld rfl (hmissing hvacant)
    | @load _ _ template path next hturn hvacant hnext =>
      subst hmade
      rw [Thread.advance_load]
      apply goesOn_of_sound hgrown
      show Sound store shelf provider root current
        ⟨acts ++ [.load template (shelf.load template)], (shelf.load template).map next⟩
      cases hload : shelf.load template with
      | ok source => exact sound_of_idle hheld rfl (hnext source (Shelf.load_eq_ok_iff.mp hload))
      | error failure =>
        refine ⟨visited, hheld, .file template path, hturn, ?_⟩
        rw [Store.refusal?, hvacant, if_neg Bool.false_ne_true, hload]
    | makeDirectory hturn hnext =>
      subst hmade
      exact goesOn_makeDirectory hgrown hheld hturn hnext
    | write hturn hvacant hsource hnext =>
      subst hmade
      exact goesOn_write hgrown hheld hturn hvacant hsource hnext

/-- A thread that came to its end got as far as it could, and ended accordingly. -/
theorem Sound.of_answer? {thread : Thread Report} {answer : Except Failure Report}
    (hsound : Sound store shelf provider root current thread)
    (hanswer : thread.answer? = some answer) :
    (∀ site ∈ store.feasible shelf provider root, current.holds site = true) ∧
      match store.obstacle? shelf provider root with
      | none => ∃ report, answer = .ok report ∧ report.created = Act.made thread.acts
      | some failure => answer = .error failure := by
  obtain ⟨visited, hheld, hrest⟩ := hsound
  obtain ⟨acts, rest⟩ := thread
  cases rest with
  | error failure =>
    obtain ⟨site, ⟨⟨after, hsites⟩, hunrefused⟩, hrefusal⟩ := hrest
    rw [Store.feasible_of_refused hsites hunrefused hrefusal,
      Store.obstacle?_of_refused hsites hunrefused hrefusal]
    exact ⟨hheld, (Option.some.inj hanswer).symm⟩
  | ok script =>
    change Ready store shelf provider root visited (Act.made acts) script at hrest
    generalize hmade : Act.made acts = made at hrest
    cases hrest with
    | @done report hall =>
      have hnone : store.obstacle? shelf provider root = none :=
        List.findSome?_eq_none_iff.mpr hall
      rw [Store.feasible_of_unrefused hall, hnone]
      exact ⟨hheld, report, (Option.some.inj hanswer).symm, rfl⟩
    | _ => cases hanswer

/-- It ended as it would have alone. -/
theorem Sound.answer_eq {thread : Thread Report} {answer : Except Failure Report}
    (hsound : Sound store shelf provider root current thread)
    (hanswer : thread.answer? = some answer) :
    answer.map (fun _ => ()) =
      ((scaffold provider root).exec Memory.surroundings (.holding store shelf)).answer.map
        fun _ => () := by
  obtain ⟨-, hend⟩ := hsound.of_answer? hanswer
  obtain ⟨-, -, halone⟩ := exec_in_memory store shelf provider root
  generalize ((scaffold provider root).exec Memory.surroundings _).answer = alone at halone ⊢
  cases hobstacle : store.obstacle? shelf provider root with
  | none =>
    rw [hobstacle] at hend halone
    obtain ⟨report, rfl, -⟩ := hend
    obtain ⟨report', rfl, -⟩ := halone
    rfl
  | some failure =>
    rw [hobstacle] at hend halone
    rw [hend, halone]

/-- Its report, if there is one, tells all that it made. -/
theorem Sound.created_eq {thread : Thread Report} {report : Report}
    (hsound : Sound store shelf provider root current thread)
    (hanswer : thread.answer? = some (.ok report)) : report.created = Act.made thread.acts := by
  obtain ⟨-, hend⟩ := hsound.of_answer? hanswer
  cases hobstacle : store.obstacle? shelf provider root with
  | none =>
    rw [hobstacle] at hend
    obtain ⟨_, ⟨⟩, hcreated⟩ := hend
    exact hcreated
  | some failure =>
    rw [hobstacle] at hend
    cases hend

/-! ## A schedule -/

section Schedule

variable {ι : Type} {providers : ι → Provider} {threads : ι → Thread Report} {start : Store}
  {memory : Memory}

/-- What holds of threads that share a memory, besides which others may have made something. -/
def Consistent (store : Store) (shelf : Shelf) (root : Path) (maker : Provider → Path → Prop)
    (providers : ι → Provider) (start : Store) (threads : ι → Thread Report) (memory : Memory) :
    Prop :=
  ∃ current, memory = .holding current shelf ∧ start.Keeps current ∧
    store.GrownBy shelf root
      (fun provider path => maker provider path ∨
        ∃ i, providers i = provider ∧ path ∈ Act.made (threads i).acts)
      current ∧
    ∀ i, Sound store shelf (providers i) root current (threads i)

theorem consistent_start (hgrown : store.GrownBy shelf root maker start) :
    Consistent store shelf root maker providers start
      (fun i => .start (scaffold (providers i) root)) (.holding start shelf) := by
  refine ⟨start, rfl, fun _ => id, hgrown.mono fun _ _ => .inl, fun i => ⟨[], ?_, ?_⟩⟩
  · exact fun _ hmem => absurd hmem List.not_mem_nil
  · exact ready_scaffold store shelf (providers i) root

theorem Consistent.turn [DecidableEq ι] {turn : ι}
    (hconsistent : Consistent store shelf root maker providers start threads memory) :
    let after := (threads turn).advance Memory.surroundings memory
    Consistent store shelf root maker providers start (Function.update threads turn after.1)
      after.2 := by
  obtain ⟨current, rfl, hkeeps, hgrown, hsound⟩ := hconsistent
  have hacts : (threads turn).acts <+: ((threads turn).advance Memory.surroundings
    (.holding current shelf)).1.acts := Thread.acts_isPrefix_advance
  obtain ⟨current', hmemory, hkeeps', hgrown', hsound'⟩ := (hsound turn).advance hgrown
  generalize (threads turn).advance Memory.surroundings (.holding current shelf) = after
    at hacts hmemory hgrown' hsound'
  refine ⟨current', hmemory, hkeeps.trans hkeeps', hgrown'.mono ?_, ?_⟩
  · rintro provider path ((hmade | ⟨i, hprovider, hmade⟩) | ⟨hprovider, hmade⟩)
    · exact .inl hmade
    · refine .inr ⟨i, hprovider, ?_⟩
      by_cases hi : i = turn
      · subst hi
        rw [Function.update_self]
        exact (hacts.sublist.filterMap Act.made?).mem hmade
      · rwa [Function.update_of_ne hi]
    · refine .inr ⟨turn, hprovider.symm, ?_⟩
      rwa [Function.update_self]
  · intro i
    by_cases hi : i = turn
    · subst hi
      rwa [Function.update_self]
    · rw [Function.update_of_ne hi]
      exact (hsound i).of_keeps hkeeps'

theorem consistent_takeTurns [DecidableEq ι] (schedule : List ι)
    (hconsistent : Consistent store shelf root maker providers start threads memory) :
    Consistent store shelf root maker providers start
      (takeTurns Memory.surroundings schedule threads memory).1
      (takeTurns Memory.surroundings schedule threads memory).2 :=
  takeTurns_induction (fun _ _ _ => Consistent.turn) schedule hconsistent

end Schedule

/-! ## One after another -/

section Serve

variable {start : Store} (hgrown : store.GrownBy shelf root maker start)

include hgrown

/-- A scaffold that has the memory for itself, when others may have been there before. -/
theorem exec_in_shared (provider : Provider) :
    ∃ current, ((scaffold provider root).exec Memory.surroundings (.holding start shelf)).state =
        .holding current shelf ∧
      start.Keeps current ∧
      store.GrownBy shelf root (fun other path => maker other path ∨ other = provider) current ∧
      ∀ site ∈ store.feasible shelf provider root, current.holds site = true := by
  have hconsistent := consistent_takeTurns (List.replicate 30 ())
    (@consistent_start store shelf root maker Unit (fun _ => provider) start hgrown)
  have hturns := @takeTurns_replicate _ _ Unit Memory.surroundings _
    (fun _ => .start (scaffold provider root)) (.holding start shelf) 30 () [] _ rfl
    (endsWithin_scaffold provider root)
  rw [hturns] at hconsistent
  obtain ⟨current, hmemory, hkeeps, hgrown', hsound⟩ := hconsistent
  have hend := (hsound ()).of_answer? (Run.answer?_thread _)
  refine ⟨current, hmemory, hkeeps, hgrown'.mono ?_, hend.1⟩
  rintro other path (hmade | ⟨_, hprovider, -⟩)
  · exact .inl hmade
  · exact .inr hprovider.symm

theorem serve_in_shared (order : List Provider) :
    ∃ current, (serve Memory.surroundings (order.map fun provider => .scaffold provider root)
        (.holding start shelf)).2 = .holding current shelf ∧
      start.Keeps current ∧
      store.GrownBy shelf root (fun provider path => maker provider path ∨ provider ∈ order)
        current ∧
      ∀ provider ∈ order, ∀ site ∈ store.feasible shelf provider root,
        current.holds site = true := by
  induction order generalizing start maker with
  | nil => exact ⟨start, rfl, fun _ => id, hgrown.mono fun _ _ => .inl, nofun⟩
  | cons provider rest ih =>
    obtain ⟨next, hstate, hkeeps, hgrown', hheld⟩ := exec_in_shared hgrown provider
    obtain ⟨current, hmemory, hkeeps', hgrown'', hheld'⟩ := ih hgrown'
    refine ⟨current, ?_, hkeeps.trans hkeeps', hgrown''.mono ?_, ?_⟩
    · rw [← hmemory, ← hstate]
      rfl
    · rintro other path ((hmade | rfl) | hmem)
      · exact .inl hmade
      · exact .inr List.mem_cons_self
      · exact .inr (List.mem_cons_of_mem _ hmem)
    · intro other hmem site hsite
      rcases List.mem_cons.mp hmem with rfl | hmem
      · exact hkeeps' site (hheld site hsite)
      · exact hheld' other hmem site hsite

end Serve

/-! ## Every schedule -/

/-- What comes of scaffolds that shared a memory. -/
structure Converged {ι : Type} [DecidableEq ι] (store : Store) (shelf : Shelf) (root : Path)
    (providers : ι → Provider) (schedule : List ι) (threads : ι → Thread Report)
    (memory : Memory) : Prop where
  /-- Nobody keeps a scaffold that has its turns from coming to its end. -/
  finishes : ∀ i, 30 ≤ schedule.count i → ∃ answer, (threads i).answer? = some answer
  ends_as_alone : ∀ i answer, (threads i).answer? = some answer →
    answer.map (fun _ => ()) =
      ((scaffold (providers i) root).exec Memory.surroundings (.holding store shelf)).answer.map
        fun _ => ()
  leaves_as_in_order : (∀ i, ∃ answer, (threads i).answer? = some answer) →
    ∀ order : List Provider, (∀ provider, provider ∈ order ↔ ∃ i, providers i = provider) →
      ∃ together apart, memory = .holding together shelf ∧
        (serve Memory.surroundings (order.map fun provider => .scaffold provider root)
          (.holding store shelf)).2 = .holding apart shelf ∧
        ∀ path, together.read? path = apart.read? path ∧
          together.isDirectory path = apart.isDirectory path
  /-- Whatever is new was made by a scaffold, and is told in its report if it has one. -/
  made_by_some : ∃ current, memory = .holding current shelf ∧
    ∀ path, store.isFile path = false ∧ current.isFile path = true ∨
        store.isDirectory path = false ∧ current.isDirectory path = true →
      ∃ i, ∃ made ∈ Act.made (threads i).acts, made ≈ path ∧
        ∀ report, (threads i).answer? = some (.ok report) → made ∈ report.created

/-- Scaffolds below one root can share a memory and take turns as they like. -/
theorem converged_scaffolds {ι : Type} [DecidableEq ι] (store : Store) (shelf : Shelf)
    (root : Path) (providers : ι → Provider) (schedule : List ι) :
    let after := takeTurns Memory.surroundings schedule
      (fun i => .start (scaffold (providers i) root)) (.holding store shelf)
    Converged store shelf root providers schedule after.1 after.2 := by
  intro after
  have hconsistent := consistent_takeTurns schedule
    (@consistent_start store shelf root _ _ providers store (.refl store shelf root fun _ _ => False))
  obtain ⟨current, hmemory, -, hgrown, hsound⟩ := hconsistent
  have hgrown := hgrown.mono fun _ _ hmade => hmade.resolve_left id
  constructor
  case finishes =>
    intro i hcount
    have hends : Thread.EndsWithin 30 (Thread.start (scaffold (providers i) root)) := by
      rintro _ ⟨⟩
      exact endsWithin_scaffold (providers i) root
    exact Option.isSome_iff_exists.mp (isSome_answer?_of_count hends hcount)
  case ends_as_alone => exact fun i answer hanswer => (hsound i).answer_eq hanswer
  case leaves_as_in_order =>
    intro hfinished order horder
    obtain ⟨apart, hstate, -, hgrown', hheld'⟩ :=
      serve_in_shared (.refl store shelf root fun _ _ => False) order
    have hgrown' := hgrown'.mono fun _ _ hmade => hmade.resolve_left id
    have hheld : ∀ provider ∈ order, ∀ site ∈ store.feasible shelf provider root,
        current.holds site = true := by
      intro provider hmem
      obtain ⟨i, rfl⟩ := (horder provider).mp hmem
      obtain ⟨answer, hanswer⟩ := hfinished i
      exact ((hsound i).of_answer? hanswer).1
    obtain ⟨hdirectory, hread⟩ := hgrown.read?_of_held hgrown' fun provider _ ⟨i, hprovider, _⟩ =>
      hheld' provider ((horder provider).mpr ⟨i, hprovider⟩)
    obtain ⟨hdirectory', hread'⟩ := hgrown'.read?_of_held hgrown fun provider _ => hheld provider
    refine ⟨current, apart, hmemory, hstate, fun path => ⟨?_, ?_⟩⟩
    · exact Option.ext fun text => ⟨hread path text, hread' path text⟩
    · exact Bool.eq_iff_iff.mpr ⟨hdirectory path, hdirectory' path⟩
  case made_by_some =>
    refine ⟨current, hmemory, ?_⟩
    intro path hnew
    obtain ⟨provider, made, ⟨i, -, hmem⟩, hsame⟩ := hgrown.exists_maker hnew
    refine ⟨i, made, hmem, hsame, ?_⟩
    intro report hanswer
    rwa [(hsound i).created_eq hanswer]

/-- Two of one name and one of another take their turns in step, and no template is lacking.  All of
them come to a report, and leave what the names leave one after another. -/
theorem converged_scaffolds_alternating :
    let other : Provider := ⟨"Y", by decide, by simp [isNameCharacter]⟩
    let providers : Fin 3 → Provider := fun i => if i = 2 then other else shortNamed
    let shelf : Shelf := ⟨fun _ => some "NewProvider"⟩
    let schedule := (List.replicate 30 [0, 1, 2]).flatten
    let after := takeTurns Memory.surroundings schedule
      (fun i => .start (scaffold (providers i) .empty)) (.holding .empty shelf)
    (∀ i, ∃ report, (after.1 i).answer? = some (.ok report)) ∧
      ∃ together apart, after.2 = .holding together shelf ∧
        (serve Memory.surroundings [.scaffold other .empty, .scaffold shortNamed .empty]
          (.holding .empty shelf)).2 = .holding apart shelf ∧
        ∀ path, together.read? path = apart.read? path ∧
          together.isDirectory path = apart.isDirectory path := by
  intro other providers shelf schedule after
  have hcount : ∀ i, 30 ≤ schedule.count i := by decide
  have halone : ∀ i, ((scaffold (providers i) .empty).exec Memory.surroundings
      (.holding .empty shelf)).answer.map (fun _ => ()) = .ok () := by
    decide +kernel
  have horder : ∀ provider, provider ∈ [other, shortNamed] ↔ ∃ i, providers i = provider := by
    intro provider
    rw [List.mem_pair]
    constructor
    · rintro (rfl | rfl)
      · exact ⟨2, rfl⟩
      · exact ⟨0, rfl⟩
    · rintro ⟨i, rfl⟩
      by_cases htwo : i = 2
      · exact .inl (if_pos htwo)
      · exact .inr (if_neg htwo)
  obtain ⟨hfinishes, hends, hleaves, -⟩ :
      Converged .empty shelf .empty providers schedule after.1 after.2 :=
    converged_scaffolds .empty shelf .empty providers schedule
  refine ⟨fun i => ?_, hleaves (fun i => hfinishes i (hcount i)) [other, shortNamed] horder⟩
  obtain ⟨answer, hanswer⟩ := hfinishes i (hcount i)
  have hend := (hends i answer hanswer).trans (halone i)
  cases answer with
  | error failure => cases hend
  | ok report => exact ⟨report, hanswer⟩

/-- Two of one name that take their turns in step both miss every path, and both make it. -/
example :
    let after := takeTurns Memory.surroundings (List.replicate 30 [false, true]).flatten
      (fun _ => .start (scaffold shortNamed .empty)) (.holding .empty ⟨fun _ => some ""⟩)
    ∀ i, Act.made (after.1 i).acts = (shortNamed.sites .empty).map Site.path := by
  decide +kernel

end Script

end Scaffolding
