import Scaffolding.Text.Utf8.RoundTrip

/-!
# The environment

A run of a command inherits variables.  Each is written as one string of bytes: its name, an equals
sign and its value.  Nothing marks where the name ends, so a name finds its value behind the first
string that starts with the name and an equals sign, also where the name has an equals sign in it.

- `get?_set` and `get?_set_of_ne` say what a changed variable does to the values.
-/

namespace Scaffolding

/-- The variables that a run inherits, as strings. -/
structure Environment where
  strings : List Bytes
  deriving DecidableEq, Repr

namespace Environment

/-- No variables. -/
def empty : Environment := ⟨[]⟩

/-- What stands before the value in the string of a variable. -/
def start (name : String) : Bytes := Text.encode name ++ [0x3D]

/-- The environment with the given variables. -/
def ofVariables (entries : List (String × Bytes)) : Environment :=
  ⟨entries.map fun (name, value) => start name ++ value⟩

/-- The value of a variable in a string, if the string may be that of the variable. -/
def valueIn? (name : String) (string : Bytes) : Option Bytes :=
  if (start name).isPrefixOf string then some (string.drop (start name).length) else none

/-- The value of a variable.  No variable has an empty name. -/
def get? (environment : Environment) (name : String) : Option Bytes :=
  if name = "" then none else environment.strings.findSome? (valueIn? name)

/-- The value of a variable whose value is text. -/
def text? (environment : Environment) (name : String) : Option String :=
  (environment.get? name).bind Text.decode?

/-- Strings with another value for a variable, in the place of its string if it has one, and at the
end otherwise. -/
def put (name : String) (value : Bytes) : List Bytes → List Bytes
  | [] => [start name ++ value]
  | string :: strings =>
    if (start name).isPrefixOf string then (start name ++ value) :: strings
    else string :: put name value strings

/-- The environment with another value for a variable. -/
def set (environment : Environment) (name : String) (value : Bytes) : Environment :=
  ⟨put name value environment.strings⟩

/-! ## Laws -/

theorem valueIn?_start (name : String) (value : Bytes) :
    valueIn? name (start name ++ value) = some value := by
  rw [valueIn?, if_pos (List.isPrefixOf_iff_prefix.2 (List.prefix_append _ _)), List.drop_left]

/-- A variable has the value that it was given. -/
theorem get?_set (environment : Environment) {name : String} (hname : name ≠ "") (value : Bytes) :
    (environment.set name value).get? name = some value := by
  rw [get?, if_neg hname, set]
  induction environment.strings with
  | nil => rw [put, List.findSome?_cons, valueIn?_start]
  | cons string strings ih =>
    rw [put]
    split
    · rw [List.findSome?_cons, valueIn?_start]
    case isFalse hstring => rw [List.findSome?_cons, valueIn?, if_neg hstring, ih]

/-- A name without an equals sign ends at the first one in its string. -/
theorem takeWhile_start {name : String} (hname : 0x3D ∉ Text.encode name) (value : Bytes) :
    (start name ++ value).takeWhile (· ≠ 0x3D) = Text.encode name := by
  have hall : ∀ byte ∈ Text.encode name, decide (byte ≠ 0x3D) = true := by
    intro byte hbyte
    exact decide_eq_true fun hequal => hname (hequal ▸ hbyte)
  rw [start, List.append_assoc, List.takeWhile_append_of_pos hall]
  simp

/-- The string of a variable has no value for another one, if neither name has an equals sign. -/
theorem valueIn?_start_of_ne {name other : String} (hne : name ≠ other)
    (hname : 0x3D ∉ Text.encode name) (hother : 0x3D ∉ Text.encode other) (value : Bytes) :
    valueIn? other (start name ++ value) = none := by
  refine if_neg fun hprefix => hne ?_
  obtain ⟨rest, hrest⟩ := List.isPrefixOf_iff_prefix.1 hprefix
  have hencode := congrArg (List.takeWhile (· ≠ 0x3D)) hrest
  rw [takeWhile_start hother, takeWhile_start hname] at hencode
  have hdecode := congrArg Text.decode? hencode
  rw [Text.decode?_encode, Text.decode?_encode, Option.some.injEq] at hdecode
  exact hdecode.symm

/-- A variable keeps its value when another one is changed, if neither name has an equals sign. -/
theorem get?_set_of_ne (environment : Environment) {name other : String} (hne : name ≠ other)
    (hname : 0x3D ∉ Text.encode name) (hother : 0x3D ∉ Text.encode other) (value : Bytes) :
    (environment.set name value).get? other = environment.get? other := by
  rw [get?, get?, set]
  congr 1
  induction environment.strings with
  | nil => simp [put, valueIn?_start_of_ne hne hname hother]
  | cons string strings ih =>
    rw [put]
    split
    case isTrue hstring =>
      obtain ⟨rest, rfl⟩ := List.isPrefixOf_iff_prefix.1 hstring
      rw [List.findSome?_cons, List.findSome?_cons, valueIn?_start_of_ne hne hname hother,
        valueIn?_start_of_ne hne hname hother]
    case isFalse hstring =>
      rw [List.findSome?_cons, List.findSome?_cons, ih]

end Environment

end Scaffolding
