import Scaffolding.Pattern.Graph

/-!
# Searches

A match of a pattern may start anywhere in a text.  Of all matches the leftmost is found, and of
those that start at the same place the preferred one.  A text is accepted when this match takes all
that is behind its start.  So `a|ab` does not accept `ab`, since it prefers to stop behind the `a`;
and `a` does not accept `aa`, since it finds the first `a`.

All ways through the graph of a pattern are followed at once, in the order of preference, and those
behind one that has come to its end are given up.

- `Graph.behind?` gives what a match leaves of a text;
- `Pattern.accepts` says whether a text is accepted.
-/

namespace Scaffolding.Pattern

namespace Graph

/-! ## Nodes -/

/-- The nodes that were seen before, and those that are reached from one more node without a
character, in the order of preference.  Fuel is for the nodes that are not seen yet, since there is
one more of those seen at each step on the way. -/
def visit (graph : Graph) (holds : Look → Bool) : Nat → List Nat → Nat → List Nat
  | 0, seen, _ => seen
  | fuel + 1, seen, node =>
    if seen.contains node then seen
    else
      match graph[node]? with
      | some (.ask look next) =>
        if holds look then visit graph holds fuel (seen ++ [node]) next else seen ++ [node]
      | some (.split nexts) => nexts.foldl (visit graph holds fuel) (seen ++ [node])
      | _ => seen ++ [node]

/-- The nodes that are reached from some nodes without a character.  One more may be seen than there
are nodes, the one where a match ends. -/
def visitAll (graph : Graph) (holds : Look → Bool) (starts : List Nat) : List Nat :=
  starts.foldl (graph.visit holds (graph.length + 1)) []

/-- Whether a node takes nothing wherever it is reached. -/
def isSplit (graph : Graph) (node : Nat) : Bool :=
  match graph[node]? with
  | some (.split _) => true
  | _ => false

/-- Whether a node asks for a place that this is, as only the character behind it tells. -/
def opens (graph : Graph) (place : Place) (node : Nat) : Bool :=
  match graph[node]? with
  | some (.ask look _) => look.holds place && !look.holdsBehind place.before
  | _ => false

/-- The nodes that are reached from some nodes at a place.  They are looked for as soon as the
character before the place is known, and once more from where that led to if the character behind it
opens a way. -/
def reach (graph : Graph) (place : Place) (starts : List Nat) : List Nat :=
  let early := (graph.visitAll (Look.holdsBehind place.before) starts).filter (!graph.isSplit ·)
  if early.any (graph.opens place) then graph.visitAll (Look.holds place) early else early

/-- The node behind one that takes a character. -/
def take? (graph : Graph) (c : Char) (node : Nat) : Option Nat :=
  match graph[node]? with
  | some (.take set next) => if set.contains c then some next else none
  | _ => none

/-! ## Matches -/

/-- What the preferred match leaves of a text, where the nodes to start from are in the order of
preference and `before` is the character before the text. -/
def behind? (graph : Graph) (starts : List Nat) (before : Option Char) :
    List Char → Option (List Char)
  | [] => if (graph.reach ⟨before, none⟩ starts).contains graph.length then some [] else none
  | c :: rest =>
    let reached := graph.reach ⟨before, some c⟩ starts
    let preferred := reached.takeWhile (· ≠ graph.length)
    match graph.behind? (preferred.filterMap (graph.take? c)) (some c) rest with
    | some left => some left
    | none => if reached.contains graph.length then some (c :: rest) else none

/-- Nothing is found from nowhere. -/
theorem behind?_nil (graph : Graph) (before : Option Char) (text : List Char) :
    graph.behind? [] before text = none := by
  induction text generalizing before with
  | nil => rfl
  | cons c rest ih =>
    have hreach : graph.reach ⟨before, some c⟩ [] = [] := rfl
    simp [behind?, hreach, ih]

/-- What the leftmost match leaves of a text. -/
def search? (graph : Graph) (before : Option Char) : List Char → Option (List Char)
  | [] => graph.behind? [0] before []
  | c :: rest =>
    match graph.behind? [0] before (c :: rest) with
    | some left => some left
    | none => graph.search? (some c) rest

end Graph

/-- Whether a pattern accepts a text. -/
def accepts (pattern : Pattern) (text : List Char) : Bool :=
  pattern.graph.search? none text = some []

end Scaffolding.Pattern
