import Scaffolding.Proofs.Environment.Precedence

/-!
# Where loading breaks off

No variable can have a NUL in its value.  A line that gives one such a value
makes loading break off, but only if the value is needed: a variable that
has a text keeps it, and nobody looks at what the line says.

* `BreaksOff` says so of some assignments.  What one of them decides and what
  it leaves to the others is `breaksOff_cons_iff`.
* `exists_crash_load_iff` is the result for a file.
-/

namespace Scaffolding.Environment

variable {environment next : Environment} {assignment : Assignment}
  {assignments : List Assignment}

theorem isUnfit_iff {value : String} : isUnfit value = true ↔ '\x00' ∈ value.toList := by
  unfold isUnfit
  exact List.contains_iff_mem

/-- That the first assignment to some variable without a text gives it an unfit value. -/
def BreaksOff (environment : Environment) (assignments : List Assignment) : Prop :=
  ∃ name assignment, environment.text? name = none ∧
    assignments.find? (·.name = name) = some assignment ∧ isUnfit assignment.value = true

theorem breaksOff_of_unfit (hunset : environment.text? assignment.name = none)
    (hunfit : isUnfit assignment.value = true) :
    environment.BreaksOff (assignment :: assignments) :=
  ⟨_, _, hunset, List.find?_cons_of_pos (decide_eq_true rfl), hunfit⟩

/-- An assignment that can be made decides about no other variable. -/
theorem breaksOff_cons_iff (hassign : environment.assign assignment = .ok next)
    (hassignment : IsName assignment.name)
    (hassignments : ∀ assignment ∈ assignments, IsName assignment.name) :
    environment.BreaksOff (assignment :: assignments) ↔ next.BreaksOff assignments := by
  have hset := isSome_text?_assign hassign hassignment
  constructor
  · rintro ⟨name, later, hunset, hfind, hunfit⟩
    by_cases hsame : assignment.name = name
    · rw [List.find?_cons_of_pos (by simpa using hsame)] at hfind
      obtain rfl : assignment = later := Option.some.inj hfind
      rcases environment.assign_cases assignment with ⟨hset, -⟩ | ⟨-, -, hcrash⟩ | ⟨-, hfit, -⟩
      · rw [hsame, hunset] at hset
        cases hset
      · rw [hcrash] at hassign
        cases hassign
      · rw [hfit] at hunfit
        cases hunfit
    · rw [List.find?_cons_of_neg (by simpa using hsame)] at hfind
      have hname : later.name = name := by simpa using List.find?_some hfind
      have hlater := hassignments later (List.mem_of_find?_eq_some hfind)
      refine ⟨name, later, ?_, hfind, hunfit⟩
      rw [text?_assign_of_ne hassign hassignment (hname ▸ hlater) hsame, hunset]
  · rintro ⟨name, later, hunset, hfind, hunfit⟩
    have hname : later.name = name := by simpa using List.find?_some hfind
    have hlater := hassignments later (List.mem_of_find?_eq_some hfind)
    have hne : assignment.name ≠ name := by
      rintro rfl
      rw [hunset] at hset
      cases hset
    refine ⟨name, later, ?_, ?_, hunfit⟩
    · rw [← text?_assign_of_ne hassign hassignment (hname ▸ hlater) hne, hunset]
    · rw [List.find?_cons_of_neg (by simpa using hne), hfind]

/-- Loading lines breaks off exactly if their assignments do. -/
theorem exists_crash_loadLines_iff {earlier : List Assignment}
    {lines : List (Except Fault (List Char))} :
    (∃ crash, environment.loadLines earlier lines = .error (.crash crash)) ↔
      environment.BreaksOff (environment.assignments earlier lines) := by
  have hnil : ∀ environment : Environment, ¬ environment.BreaksOff [] := by
    rintro environment ⟨_, _, -, hfind, -⟩
    cases hfind
  have hfault : ∀ fault,
      ¬ ∃ crash, (.error (.fault fault) : Except Halt Environment) = .error (.crash crash) := by
    rintro fault ⟨crash, hload⟩
    cases hload
  induction lines generalizing environment earlier with
  | nil =>
    refine iff_of_false ?_ (hnil environment)
    rintro ⟨crash, hload⟩
    cases hload
  | cons line lines ih =>
    cases line with
    | error fault => exact iff_of_false (hfault fault) (hnil environment)
    | ok line =>
      unfold loadLines Environment.assignments
      cases hread : Assignment.read (environment.refer earlier) line with
      | error fault => exact iff_of_false (hfault fault) (hnil environment)
      | ok read =>
        cases read with
        | none => exact ih
        | some assignment =>
          cases hassign : environment.assign assignment with
          | error crash =>
            rcases environment.assign_cases assignment with
              ⟨-, hkept⟩ | ⟨hunset, hunfit, -⟩ | ⟨-, -, hmade⟩
            · rw [hkept] at hassign
              cases hassign
            · simp only [hassign]
              exact iff_of_true ⟨crash, rfl⟩ (breaksOff_of_unfit hunset hunfit)
            · rw [hmade] at hassign
              cases hassign
          | ok next =>
            simp only [hassign]
            rw [breaksOff_cons_iff hassign (Assignment.isName_of_read hread)
              fun _ => isName_of_mem_assignments]
            exact ih

/-- Loading a file breaks off exactly if the file gives a variable without a text a value with a
NUL. -/
theorem exists_crash_load_iff {content : Bytes} :
    (∃ crash, environment.load content = .error (.crash crash)) ↔
      ∃ name value, environment.text? name = none ∧
        environment.valueInFile? content name = some value ∧ '\x00' ∈ value.toList := by
  refine exists_crash_loadLines_iff.trans ⟨?_, ?_⟩
  · rintro ⟨name, assignment, hunset, hfind, hunfit⟩
    refine ⟨name, assignment.value, hunset, ?_, isUnfit_iff.mp hunfit⟩
    unfold valueInFile?
    rw [hfind, Option.map_some]
  · rintro ⟨name, value, hunset, hvalue, hmem⟩
    obtain ⟨assignment, hfind, rfl⟩ := Option.map_eq_some_iff.mp hvalue
    exact ⟨name, assignment, hunset, hfind, isUnfit_iff.mpr hmem⟩

end Scaffolding.Environment
