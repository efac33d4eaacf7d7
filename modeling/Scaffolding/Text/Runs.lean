/-!
# The runs of a text

Some characters separate, and a text consists of runs between them: one more than there are
separators, and any of them may be empty.  The lines of a text are its runs between line ends.
-/

namespace Scaffolding.Text

/-- The runs of a text between separators. -/
def runs (isSeparator : Char → Bool) (text : String) : List String :=
  (text.toList.splitOnP isSeparator).map String.ofList

/-- The lines of a text.  What stands behind the last line end is a line too. -/
def lines (text : String) : List String := runs (· == '\n') text

/-- A separator ends one run and begins another. -/
theorem runs_append_singleton_append {isSeparator : Char → Bool} {c : Char}
    (hseparator : isSeparator c = true) (before after : String) :
    runs isSeparator (before ++ String.singleton c ++ after) =
      runs isSeparator before ++ runs isSeparator after := by
  unfold runs
  rw [String.toList_append, String.toList_append, String.toList_singleton, List.append_assoc,
    List.singleton_append, List.splitOnP_append_cons _ _ hseparator, List.map_append]

/-- A text without separators is one run. -/
theorem runs_of_forall {isSeparator : Char → Bool} {text : String}
    (hrun : ∀ c ∈ text.toList, isSeparator c = false) : runs isSeparator text = [text] := by
  unfold runs
  rw [List.splitOnP_eq_singleton hrun, List.map_singleton, String.ofList_toList]

/-- A text is empty or has a first character. -/
theorem eq_empty_or_singleton_append (text : String) :
    text = "" ∨ ∃ c rest, text = String.singleton c ++ rest := by
  cases htext : text.toList with
  | nil => exact .inl (String.toList_inj.mp htext)
  | cons c rest =>
    refine .inr ⟨c, String.ofList rest, String.toList_inj.mp ?_⟩
    rw [htext, String.toList_append, String.toList_singleton, String.toList_ofList]
    rfl

/-- A text is empty or has a last character. -/
theorem eq_empty_or_append_singleton (text : String) :
    text = "" ∨ ∃ rest c, text = rest ++ String.singleton c := by
  induction text using String.push_induction with
  | empty => exact .inl rfl
  | push rest c _ => exact .inr ⟨rest, c, String.push_eq_append c⟩

end Scaffolding.Text
