import Mathlib.Data.List.TakeWhile
import Scaffolding.Environment.File
import Scaffolding.Proofs.Text.Encoding

/-!
# Which value wins

A variable that has a text keeps it, and of several lines in a file of
assignments that give a value to the same name the first one counts.

* `isName_of_read`: a name in a file is not empty and has no equals sign,
  so its string is not taken for that of another name.
* `assign_cases` is what can come of one assignment, and
  `text?_foldlM_assign` what comes of several.
* `assignments` are those that some lines make, and lines that can be loaded
  make them one after another (`foldlM_assignments_of_loadLines`).
* `text?_of_load` is the result.
-/

namespace Scaffolding

theorem exists_of_bind_eq_ok {ε α β : Type} {answer : Except ε α} {next : α → Except ε β}
    {result : β} (hbind : answer >>= next = .ok result) :
    ∃ value, answer = .ok value ∧ next value = .ok result := by
  cases answer with
  | error failure => cases hbind
  | ok value => exact ⟨value, rfl, hbind⟩

theorem bind_eq_ok_iff {ε α β : Type} {answer : Except ε α} {next : α → Except ε β}
    {result : β} :
    answer >>= next = .ok result ↔ ∃ value, answer = .ok value ∧ next value = .ok result := by
  refine ⟨exists_of_bind_eq_ok, ?_⟩
  rintro ⟨value, rfl, hnext⟩
  exact hnext

namespace Environment

variable {environment : Environment} {name other : String}

/-! ## Names -/

/-- A name that ends where its string has the first equals sign. -/
structure IsName (name : String) : Prop where
  ne_empty : name ≠ ""
  equals_not_mem : 0x3D ∉ Text.encode name

namespace Assignment

theorem isName_ofList {characters : List Char} (hne : characters ≠ [])
    (hparts : ∀ c ∈ characters, isNamePart c = true) : IsName (String.ofList characters) where
  ne_empty := by
    intro hempty
    rw [← String.toList_inj, String.toList_ofList] at hempty
    exact hne hempty
  equals_not_mem := by
    intro hmem
    have hequals : '=' ∈ (String.ofList characters).toList :=
      Text.mem_of_mem_encode (by decide) (by decide) hmem
    rw [String.toList_ofList] at hequals
    exact absurd (hparts '=' hequals) (by decide)

theorem isNamePart_of_isNameStart {c : Char} (hstart : isNameStart c = true) :
    isNamePart c = true := by
  unfold isNameStart at hstart
  unfold isNamePart Char.isAlphanum
  rw [Bool.or_eq_true] at hstart
  rcases hstart with halpha | hline
  · rw [halpha, Bool.true_or, Bool.true_or, Bool.true_or]
  · rw [hline, Bool.or_true, Bool.true_or]

theorem isName_of_name {cursor next : Cursor} (hname : cursor.name = .ok (name, next)) :
    IsName name := by
  unfold Cursor.name at hname
  split at hname
  · cases hname
  · rename_i c rest hrest
    split at hname
    · rename_i hstart
      cases hname
      refine isName_ofList ?_ fun _ hmem => List.mem_takeWhile_imp hmem
      rw [hrest, List.takeWhile_cons_of_pos (isNamePart_of_isNameStart hstart)]
      exact List.cons_ne_nil _ _
    · cases hname

theorem isName_of_target {cursor next : Cursor} (htarget : cursor.target = .ok (name, next)) :
    IsName name := by
  obtain ⟨⟨first, behind⟩, hfirst, hrest⟩ := exists_of_bind_eq_ok htarget
  simp only at hrest
  split at hrest
  · split at hrest
    · cases hrest
      exact isName_of_name hfirst
    · obtain ⟨⟨second, behind'⟩, hsecond, hrest⟩ := exists_of_bind_eq_ok hrest
      obtain ⟨_, -, hrest⟩ := exists_of_bind_eq_ok hrest
      cases hrest
      exact isName_of_name hsecond
  · obtain ⟨_, -, hrest⟩ := exists_of_bind_eq_ok hrest
    cases hrest
    exact isName_of_name hfirst

theorem isName_of_read {lookup : String → String} {line : List Char} {assignment : Assignment}
    (hread : read lookup line = .ok (some assignment)) : IsName assignment.name := by
  unfold read at hread
  simp only at hread
  split at hread
  · cases hread
  · split at hread
    · cases hread
    · rename_i name cursor htarget
      split at hread
      · cases hread
        exact isName_of_target htarget
      · cases hvalue : Value.read lookup cursor.skipBlanks.rest with
        | error fault =>
          rw [hvalue] at hread
          cases hread
        | ok value =>
          rw [hvalue] at hread
          cases hread
          exact isName_of_target htarget

end Assignment

/-! ## One assignment -/

/-- An assignment leaves a variable with a text as it is.  To one without it gives its value, or
breaks off. -/
theorem assign_cases (environment : Environment) (assignment : Assignment) :
    ((environment.text? assignment.name).isSome = true ∧
        environment.assign assignment = .ok environment) ∨
      (environment.text? assignment.name = none ∧ isUnfit assignment.value = true ∧
        environment.assign assignment = .error assignment.crash) ∨
      (environment.text? assignment.name = none ∧ isUnfit assignment.value = false ∧
        environment.assign assignment =
          .ok (environment.set assignment.name (Text.encode assignment.value))) := by
  unfold assign
  cases htext : environment.text? assignment.name with
  | some text => exact .inl ⟨rfl, rfl⟩
  | none =>
    cases hunfit : isUnfit assignment.value with
    | true => exact .inr (.inl ⟨rfl, rfl, rfl⟩)
    | false => exact .inr (.inr ⟨rfl, rfl, rfl⟩)

theorem text?_set (environment : Environment) (hname : IsName name) (hother : IsName other)
    (value : String) :
    (environment.set name (Text.encode value)).text? other =
      if name = other then some value else environment.text? other := by
  unfold text?
  split
  · rename_i hsame
    rw [← hsame, get?_set environment hname.ne_empty]
    exact Text.decode?_encode value
  · rename_i hne
    rw [get?_set_of_ne environment hne hname.equals_not_mem hother.equals_not_mem]

section Assign

variable {next : Environment} {assignment : Assignment}
  (hassign : environment.assign assignment = .ok next) (hassignment : IsName assignment.name)

include hassign hassignment

/-- A variable that has no text yet gets that of an assignment to it. -/
theorem text?_assign (hname : IsName name) :
    next.text? name = (environment.text? name).or
      (if assignment.name = name then some assignment.value else none) := by
  rcases environment.assign_cases assignment with
    ⟨hset, hkept⟩ | ⟨-, -, hcrash⟩ | ⟨hunset, -, hmade⟩
  · obtain rfl : environment = next := Except.ok.inj (hkept.symm.trans hassign)
    split
    · rename_i hsame
      rw [hsame] at hset
      rw [Option.or_of_isSome hset]
    · rw [Option.or_none]
  · rw [hcrash] at hassign
    cases hassign
  · obtain rfl := Except.ok.inj (hmade.symm.trans hassign)
    rw [text?_set environment hassignment hname]
    split
    · rename_i hsame
      rw [← hsame, hunset, Option.none_or]
    · rw [Option.or_none]

theorem isSome_text?_assign : (next.text? assignment.name).isSome = true := by
  rw [text?_assign hassign hassignment hassignment, if_pos rfl, Option.isSome_or,
    Option.isSome_some, Bool.or_true]

theorem text?_assign_of_ne (hname : IsName name) (hne : assignment.name ≠ name) :
    next.text? name = environment.text? name := by
  rw [text?_assign hassign hassignment hname, if_neg hne, Option.or_none]

end Assign

/-! ## Several assignments -/

section Assignments

variable {assignments : List Assignment}
  (hassignments : ∀ assignment ∈ assignments, IsName assignment.name)

include hassignments

theorem text?_foldlM_assign {loaded : Environment}
    (hfold : assignments.foldlM assign environment = .ok loaded) (hname : IsName name) :
    loaded.text? name =
      (environment.text? name).or ((assignments.find? (·.name = name)).map (·.value)) := by
  induction assignments generalizing environment with
  | nil =>
    cases hfold
    rw [List.find?_nil, Option.map_none, Option.or_none]
  | cons assignment rest ih =>
    obtain ⟨hassignment, hrest⟩ := List.forall_mem_cons.mp hassignments
    rw [List.foldlM_cons] at hfold
    obtain ⟨next, hassign, hfold⟩ := exists_of_bind_eq_ok hfold
    rw [ih hrest hfold, text?_assign hassign hassignment hname, Option.or_assoc]
    congr 1
    by_cases hsame : assignment.name = name
    · rw [if_pos hsame, List.find?_cons_of_pos (by simpa using hsame)]
      rfl
    · rw [if_neg hsame, List.find?_cons_of_neg (by simpa using hsame), Option.none_or]

end Assignments

/-! ## Lines -/

/-- The assignments that some lines make, up to the first fault or crash; `earlier` has those of the
lines before, the latest first.  The one that breaks off is the last. -/
def assignments (environment : Environment) (earlier : List Assignment) :
    List (Except Fault (List Char)) → List Assignment
  | [] => []
  | .error _ :: _ => []
  | .ok line :: lines =>
    match Assignment.read (environment.refer earlier) line with
    | .error _ => []
    | .ok none => environment.assignments earlier lines
    | .ok (some assignment) =>
      assignment ::
        match environment.assign assignment with
        | .error _ => []
        | .ok environment => environment.assignments (assignment :: earlier) lines

/-- Loading lines to their end makes their assignments one after another. -/
theorem foldlM_assignments_of_loadLines {loaded : Environment} {earlier : List Assignment}
    {lines : List (Except Fault (List Char))}
    (hload : environment.loadLines earlier lines = .ok loaded) :
    (environment.assignments earlier lines).foldlM assign environment = .ok loaded := by
  induction lines generalizing environment earlier with
  | nil =>
    cases hload
    rfl
  | cons line lines ih =>
    cases line with
    | error fault => cases hload
    | ok line =>
      unfold loadLines at hload
      unfold assignments
      cases hread : Assignment.read (environment.refer earlier) line with
      | error fault =>
        rw [hread] at hload
        cases hload
      | ok read =>
        rw [hread] at hload
        cases read with
        | none => exact ih hload
        | some assignment =>
          simp only [List.foldlM_cons]
          cases hassign : environment.assign assignment with
          | error crash =>
            simp only [hassign] at hload
            cases hload
          | ok next =>
            simp only [hassign] at hload
            exact ih hload

theorem isName_of_mem_assignments {earlier : List Assignment}
    {lines : List (Except Fault (List Char))} {assignment : Assignment}
    (hmem : assignment ∈ environment.assignments earlier lines) : IsName assignment.name := by
  induction lines generalizing environment earlier with
  | nil => cases hmem
  | cons line lines ih =>
    cases line with
    | error fault => cases hmem
    | ok line =>
      unfold assignments at hmem
      split at hmem
      · cases hmem
      · exact ih hmem
      · rename_i hread
        rcases List.mem_cons.mp hmem with rfl | hmem
        · exact Assignment.isName_of_read hread
        · split at hmem
          · cases hmem
          · exact ih hmem

/-- The value that a file of assignments gives to a variable. -/
def valueInFile? (environment : Environment) (content : Bytes) (name : String) : Option String :=
  ((environment.assignments [] (logicalLines content)).find? (·.name = name)).map (·.value)

/-- A variable has the text that it had, or else the value that the file gives it. -/
theorem text?_of_load {loaded : Environment} {content : Bytes}
    (hload : environment.load content = .ok loaded) (hname : IsName name) :
    loaded.text? name = (environment.text? name).or (environment.valueInFile? content name) :=
  text?_foldlM_assign (fun _ => isName_of_mem_assignments)
    (foldlM_assignments_of_loadLines hload) hname

end Environment

end Scaffolding
