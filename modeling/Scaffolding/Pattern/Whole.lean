import Scaffolding.Pattern.Search

/-!
# Patterns for whole texts

The pattern `^[…]+$` asks that a text has a character at least, and none that is not of the set
between the brackets.  It is looked for from every place of a text, as any other pattern is, but
found from the start only and only up to the end.

- `Pattern.isFoundIn` says whether a pattern is found in a text;
- `Pattern.ofSet` is the pattern for the characters of a set, and `isFoundIn_ofSet_iff` says where
  it is found.
-/

namespace Scaffolding.Pattern

/-- Whether a pattern is found anywhere in a text. -/
def isFoundIn (pattern : Pattern) (text : List Char) : Bool :=
  (pattern.graph.search? none text).isSome

/-- The pattern for texts of the characters of a set, with at least one of them. -/
def ofSet (set : CharSet) : Pattern :=
  sequence [here .start, repeated .atLeastOne true (one set), here .stop]

/-- Where no match ends at the start of a text, what is found is found behind the first
character. -/
theorem Graph.behind?_cons {graph : Graph} {starts reached : List Nat} {before : Option Char}
    {c : Char} (hreach : graph.reach ⟨before, some c⟩ starts = reached)
    (hopen : graph.length ∉ reached) (rest : List Char) :
    graph.behind? starts before (c :: rest) =
      graph.behind? (reached.filterMap (graph.take? c)) (some c) rest := by
  have hpreferred : reached.takeWhile (· ≠ graph.length) = reached := by
    clear hreach
    induction reached with
    | nil => rfl
    | cons node nodes ih =>
      rw [List.mem_cons, not_or] at hopen
      obtain ⟨hnode, hnodes⟩ := hopen
      rw [List.takeWhile_cons, if_pos (by simpa using Ne.symm hnode), ih hnodes]
  have hdone : reached.contains graph.length = false := by
    simpa using hopen
  simp only [behind?, hreach, hpreferred, hdone, Bool.false_eq_true, if_false]
  split
  · rename_i left hleft
    exact hleft.symm
  · rename_i hnone
    exact hnone.symm

section OfSet

variable (set : CharSet)

/-- The start is asked for, a character is taken, another round or none is chosen, and the end is
asked for. -/
theorem graph_ofSet :
    (ofSet set).graph = [.ask .start 1, .take set 2, .split [1, 3], .ask .stop 4] := rfl

/-- Behind a character of the set there may be further ones, up to the end. -/
theorem behind?_round (c : Char) (text : List Char) :
    (ofSet set).graph.behind? [2] (some c) text =
      if text.all set.contains = true then some [] else none := by
  induction text generalizing c with
  | nil => rfl
  | cons d rest ih =>
    have hreach : (ofSet set).graph.reach ⟨some c, some d⟩ [2] = [1, 3] := rfl
    have htake : [1, 3].filterMap ((ofSet set).graph.take? d) =
        if set.contains d then [2] else [] := by
      have hset : (ofSet set).graph.take? d 1 = if set.contains d then some 2 else none := rfl
      have hask : (ofSet set).graph.take? d 3 = none := rfl
      cases hcontains : set.contains d <;> simp [hset, hask, hcontains]
    rw [Graph.behind?_cons hreach (by simp [graph_ofSet]), htake]
    cases hcontains : set.contains d with
    | true => simp [ih, hcontains]
    | false => simp [Graph.behind?_nil, hcontains]

/-- From the start of a text the pattern takes all of it, or is not found. -/
theorem behind?_start (text : List Char) :
    (ofSet set).graph.behind? [0] none text =
      if text ≠ [] ∧ text.all set.contains = true then some [] else none := by
  cases text with
  | nil => rfl
  | cons c rest =>
    have hreach : (ofSet set).graph.reach ⟨none, some c⟩ [0] = [0, 1] := rfl
    have htake : [0, 1].filterMap ((ofSet set).graph.take? c) =
        if set.contains c then [2] else [] := by
      have hset : (ofSet set).graph.take? c 1 = if set.contains c then some 2 else none := rfl
      have hask : (ofSet set).graph.take? c 0 = none := rfl
      cases hcontains : set.contains c <;> simp [hset, hask, hcontains]
    rw [Graph.behind?_cons hreach (by simp [graph_ofSet]), htake]
    cases hcontains : set.contains c with
    | true => simp [behind?_round, hcontains]
    | false => simp [Graph.behind?_nil, hcontains]

/-- From no other place of a text the pattern is found. -/
theorem search?_inside (c : Char) (text : List Char) :
    (ofSet set).graph.search? (some c) text = none := by
  have hbehind : ∀ (c : Char) (text : List Char),
      (ofSet set).graph.behind? [0] (some c) text = none := by
    intro c text
    cases text with
    | nil => rfl
    | cons d rest =>
      have hreach : (ofSet set).graph.reach ⟨some c, some d⟩ [0] = [0] := rfl
      rw [Graph.behind?_cons hreach (by simp [graph_ofSet])]
      exact Graph.behind?_nil _ _ rest
  induction text generalizing c with
  | nil => exact hbehind c []
  | cons d rest ih => rw [Graph.search?, hbehind, ih]

end OfSet

/-- The pattern is found in the texts of the characters of the set, apart from the empty one. -/
theorem isFoundIn_ofSet_iff {set : CharSet} {text : List Char} :
    (ofSet set).isFoundIn text = true ↔ text ≠ [] ∧ ∀ c ∈ text, set.contains c = true := by
  have hsearch : (ofSet set).graph.search? none text = (ofSet set).graph.behind? [0] none text := by
    cases text with
    | nil => rfl
    | cons c rest =>
      rw [Graph.search?, search?_inside]
      split
      · rename_i left hleft
        exact hleft.symm
      · rename_i hnone
        exact hnone.symm
  rw [isFoundIn, hsearch, behind?_start, ← List.all_eq_true]
  split
  · rename_i hall
    exact iff_of_true rfl hall
  · rename_i hnot
    exact iff_of_false Bool.false_ne_true hnot

end Scaffolding.Pattern
