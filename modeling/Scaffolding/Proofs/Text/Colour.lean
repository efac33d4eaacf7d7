import Mathlib.Data.List.TakeWhile
import Scaffolding.Text.Colour

/-!
# What colour adds to a text

Colour adds control sequences to a text.  Without them the text is as it
was, provided that it has no escape characters of its own.

* `IsPrinted` says that a text has no control characters.
* `StripsTo` relates a text to what is left of it without its control
  sequences, whatever stands behind it.  So it is kept when texts are put
  one behind the other, and `strip` is the case of nothing behind.
* `StripsTo.paint` and `StripsTo.bold` are about colour and weight.
-/

namespace Scaffolding.Text

variable {text other plain : String}

/-! ## Control characters -/

/-- The character that every control sequence starts with. -/
def escape : Char := '\x1b'

/-- That a text has no control characters. -/
def IsPrinted (text : String) : Prop := ∀ c ∈ text.toList, ' ' ≤ c

-- Of the characters of the text only: to look for one that is not among them, all there are would
-- be gone through.
instance (text : String) : Decidable (IsPrinted text) :=
  List.decidableBAll _ text.toList

theorem isPrinted_append_iff :
    IsPrinted (text ++ other) ↔ IsPrinted text ∧ IsPrinted other := by
  unfold IsPrinted
  rw [String.toList_append]
  exact List.forall_mem_append

theorem IsPrinted.escape_not_mem (hprinted : IsPrinted text) : escape ∉ text.toList :=
  fun hmem => absurd (hprinted escape hmem) (by decide)

/-! ## Control sequences -/

theorem stripFrom_append_of_not_mem {front : List Char} (hfront : escape ∉ front)
    (rest : List Char) : stripFrom 0 (front ++ rest) = front ++ stripFrom 0 rest := by
  induction front with
  | nil => rfl
  | cons c front ih =>
    rw [List.mem_cons, not_or] at hfront
    have hcontrol : afterControl? (c :: (front ++ rest)) = none := by
      unfold afterControl?
      split
      · rename_i hescape
        exact absurd (List.cons.inj hescape).1.symm hfront.1
      · rfl
    rw [List.cons_append, stripFrom, hcontrol]
    exact congrArg (c :: ·) (ih hfront.2)

/-- What belongs to a control sequence is skipped. -/
theorem stripFrom_length_append (front rest : List Char) :
    stripFrom front.length (front ++ rest) = stripFrom 0 rest := by
  induction front with
  | nil => rfl
  | cons c front ih => exact ih

/-- A control sequence with a number leaves nothing. -/
theorem stripFrom_control {code : String} (hcode : code.toList.all Char.isDigit = true)
    (rest : List Char) : stripFrom 0 ((control code).toList ++ rest) = stripFrom 0 rest := by
  have hlist : (control code).toList ++ rest =
      escape :: (('[' :: code.toList ++ ['m']) ++ rest) := by
    simp [control, escape]
  have hbehind : afterControl? (escape :: (('[' :: code.toList ++ ['m']) ++ rest)) = some rest := by
    have hdigits : ∀ c ∈ code.toList, (c.isDigit || decide (c = ';')) = true := by
      intro c hc
      rw [List.all_eq_true.mp hcode c hc, Bool.true_or]
    have hdrop : (code.toList ++ 'm' :: rest).dropWhile (fun c => c.isDigit || decide (c = ';')) =
        'm' :: rest := by
      rw [List.dropWhile_append_of_pos hdigits]
      rfl
    simp [afterControl?, escape, hdrop]
  rw [hlist, stripFrom, hbehind]
  simp only
  rw [List.length_append, Nat.add_sub_cancel]
  exact stripFrom_length_append _ rest

/-! ## What is left -/

/-- That a text without its control sequences is another, whatever stands behind it. -/
def StripsTo (text plain : String) : Prop :=
  ∀ rest, stripFrom 0 (text.toList ++ rest) = plain.toList ++ stripFrom 0 rest

theorem strip_eq_of_stripsTo (hstrips : StripsTo text plain) : strip text = plain := by
  have hnone := hstrips []
  rw [List.append_nil, stripFrom, List.append_nil] at hnone
  rw [strip, hnone, String.ofList_toList]

namespace StripsTo

theorem of_isPrinted (hprinted : IsPrinted text) : StripsTo text text :=
  stripFrom_append_of_not_mem hprinted.escape_not_mem

theorem append {plain' : String} (hfirst : StripsTo text plain) (hsecond : StripsTo other plain') :
    StripsTo (text ++ other) (plain ++ plain') := by
  intro rest
  rw [String.toList_append, String.toList_append, List.append_assoc, hfirst, hsecond,
    List.append_assoc]

theorem control {code : String} (hcode : code.toList.all Char.isDigit = true) :
    StripsTo (Text.control code) "" :=
  stripFrom_control hcode

/-- A text between two control sequences. -/
theorem between {on off : String} (hon : on.toList.all Char.isDigit = true)
    (hoff : off.toList.all Char.isDigit = true) (hstrips : StripsTo text plain) :
    StripsTo (Text.control on ++ text ++ Text.control off) plain := by
  have hall := ((control hon).append hstrips).append (control hoff)
  rwa [String.empty_append, String.append_empty] at hall

theorem paint (colour : Colour) (hstrips : StripsTo text plain) :
    StripsTo (Text.paint colour text) plain :=
  between (by cases colour <;> decide) (by decide) hstrips

theorem bold (hstrips : StripsTo text plain) : StripsTo (Text.bold text) plain :=
  between (by decide) (by decide) hstrips

/-- Texts that are written line by line. -/
theorem join {α : Type} {shown plain : α → String} {items : List α}
    (hitems : ∀ item ∈ items, StripsTo (shown item) (plain item)) :
    StripsTo (String.join (items.map fun item => shown item ++ "\n"))
      (String.join (items.map fun item => plain item ++ "\n")) := by
  induction items with
  | nil => exact fun _ => rfl
  | cons item rest ih =>
    obtain ⟨hitem, hrest⟩ := List.forall_mem_cons.mp hitems
    have hbreak : StripsTo "\n" "\n" := stripFrom_append_of_not_mem (by decide)
    rw [List.map_cons, List.map_cons, String.join_cons, String.join_cons]
    exact (hitem.append hbreak).append (ih hrest)

end StripsTo

end Scaffolding.Text
