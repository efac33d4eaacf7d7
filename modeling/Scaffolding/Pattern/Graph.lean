import Scaffolding.Pattern.Basic

/-!
# Graphs

A pattern is followed through a text as a graph.  Its nodes have numbers from zero on, and a match
ends at the number behind the last one.  Where there are several ways on they are in the order of
preference: of two alternatives the first, and of another round and no other round the one that the
repetition asks for.  `Pattern.graph` gives the graph of a pattern.
-/

namespace Scaffolding.Pattern

/-- A node of a graph, with the numbers of the nodes behind it. -/
inductive Node where
  /-- Takes one character of a set. -/
  | take (set : CharSet) (next : Nat)
  /-- Takes nothing, at a place of a kind. -/
  | ask (look : Look) (next : Nat)
  /-- Takes nothing, and the first way on is the preferred one. -/
  | split (nexts : List Nat)
  deriving DecidableEq, Repr

/-- Nodes by their numbers. -/
abbrev Graph := List Node

/-- A choice between another round and no other round. -/
def fork (greedy : Bool) (again stop : Nat) : Node :=
  .split (if greedy then [again, stop] else [stop, again])

/-- How many nodes stand for a pattern. -/
def size : Pattern → Nat
  | empty => 1
  | one _ => 1
  | here _ => 1
  | seq first second => first.size + second.size
  | either first second => first.size + second.size + 1
  | repeated .any _ body => if body.isNullable then body.size + 2 else body.size + 1
  | repeated _ _ body => body.size + 1
  | group _ body => body.size

/-- The nodes that stand for a pattern, the first of which has the number `start`; behind the
pattern it goes on with the node `stop`.  Where a round may take nothing there are two forks, one
before the first round and one behind each: so an empty round leads out of the repetition, in its
place in the order of preference, and not back to where the first round was preferred to none. -/
def nodes (start stop : Nat) : Pattern → List Node
  | empty => [.split [stop]]
  | one set => [.take set stop]
  | here look => [.ask look stop]
  | seq first second =>
    let middle := start + first.size
    first.nodes start middle ++ second.nodes middle stop
  | either first second =>
    let other := start + 1 + first.size
    .split [start + 1, other] :: (first.nodes (start + 1) stop ++ second.nodes other stop)
  | repeated .atMostOne greedy body =>
    fork greedy (start + 1) stop :: body.nodes (start + 1) stop
  | repeated .atLeastOne greedy body =>
    body.nodes start (start + body.size) ++ [fork greedy start stop]
  | repeated .any greedy body =>
    if body.isNullable then
      let again := start + 1 + body.size
      fork greedy (start + 1) stop
        :: (body.nodes (start + 1) again ++ [fork greedy (start + 1) stop])
    else fork greedy (start + 1) stop :: body.nodes (start + 1) start
  | group _ body => body.nodes start stop

/-- The graph of a pattern. -/
def graph (pattern : Pattern) : Graph := pattern.nodes 0 pattern.size

end Scaffolding.Pattern
