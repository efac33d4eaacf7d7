import Scaffolding.Environment.Fault
import Scaffolding.Text.Alphanumeric
import Scaffolding.Text.Blank
import Scaffolding.Text.Utf8

/-!
# Assignments

A line of a file of assignments is blank, a comment, or gives a value to a name, as in
`NAME = value`, with `export` before the name or without.  A value may be quoted, may hold escaped
characters, and may refer to other names by `$name` or `${name}`.

- `Value.read` reads a value;
- `Assignment.read` reads a line.
-/

namespace Scaffolding.Environment

/-! ## Values -/

namespace Value

/-- Where a reader of a value stands. -/
inductive Mode where
  /-- Nothing special. -/
  | text
  /-- Behind a backslash. -/
  | escape
  /-- Between single quotes. -/
  | single
  /-- In a reference behind a dollar sign, of which this part of the name was read. -/
  | reference (name : List Char)
  /-- In a reference in braces, of which this part of the name was read. -/
  | braced (name : List Char)
  /-- Behind the value, where only blanks and a comment may follow. -/
  | behind
  /-- In a comment. -/
  | comment
  deriving DecidableEq, Repr

/-- A reader of a value: what it has read so far, and whether it is between double quotes. -/
structure Reader where
  output : List Char
  inDouble : Bool
  mode : Mode
  deriving DecidableEq, Repr

/-- The reader before the first character. -/
def Reader.start : Reader := ⟨[], false, .text⟩

/-- The character that an escaped one stands for. -/
def escaped? (c : Char) : Option Char :=
  if c = 'n' then some '\n'
  else if ['\\', '\'', '"', '$', ' '].contains c then some c
  else none

/-- The reader with one more character. -/
def Reader.push (reader : Reader) (c : Char) : Reader :=
  { reader with output := reader.output ++ [c], mode := .text }

/-- The reader at the end of a reference. -/
def Reader.refer (reader : Reader) (lookup : String → String) (name : List Char) : Reader :=
  { reader with output := reader.output ++ (lookup (String.ofList name)).toList, mode := .text }

/-- The reader behind one more character, unless the character makes no sense. -/
def Reader.step (lookup : String → String) (reader : Reader) (c : Char) : Option Reader :=
  match reader.mode with
  | .comment => some reader
  | .behind =>
    if c = ' ' ∨ c = '\t' then some reader
    else if c = '#' then some { reader with mode := .comment }
    else none
  | .escape => (escaped? c).map reader.push
  | .single =>
    if c = '\'' then some { reader with mode := .text }
    else some { reader with output := reader.output ++ [c] }
  | .reference name =>
    if Text.isAlphanumeric c then some { reader with mode := .reference (name ++ [c]) }
    else if c = '\x7b' ∧ name = [] then some { reader with mode := .braced [] }
    else if c = '$' then some { reader.refer lookup name with mode := .reference [] }
    else some ((reader.refer lookup name).push c)
  | .braced name =>
    if c = '\x7d' then some (reader.refer lookup name)
    else some { reader with mode := .braced (name ++ [c]) }
  | .text =>
    if c = '$' then some { reader with mode := .reference [] }
    else if c = '\\' then some { reader with mode := .escape }
    else if reader.inDouble then
      if c = '"' then some { reader with inDouble := false } else some (reader.push c)
    else if c = '\'' then some { reader with mode := .single }
    else if c = '"' then some { reader with inDouble := true }
    else if c = ' ' ∨ c = '\t' then some { reader with mode := .behind }
    else some (reader.push c)

/-- The value at the end of the text, unless a quote or a brace is open. -/
def Reader.finish? (lookup : String → String) (reader : Reader) : Option (List Char) :=
  match reader.mode with
  | .single | .braced _ => none
  | .reference name =>
    if reader.inDouble then none else some (reader.refer lookup name).output
  | _ => if reader.inDouble then none else some reader.output

/-- Reads the characters of a value from an index on; a fault is the index of the character that
makes no sense, or `none` at the end. -/
def readFrom (lookup : String → String) :
    Reader → Nat → List Char → Except (Option Nat) (List Char)
  | reader, _, [] =>
    match reader.finish? lookup with
    | some output => .ok output
    | none => .error none
  | reader, index, c :: rest =>
    match reader.step lookup c with
    | some reader => readFrom lookup reader (index + 1) rest
    | none => .error (some index)

/-- Reads a value, where `lookup` knows the names it may refer to. -/
def read (lookup : String → String) (text : List Char) : Except Fault String :=
  match readFrom lookup .start 0 text with
  | .ok output => .ok (String.ofList output)
  | .error (some index) => .error (.line (String.ofList text) index)
  | .error none => .error (.line (String.ofList text) (Text.byteLength text - 1))

end Value

/-! ## Lines -/

/-- A name and the value that a line gives it. -/
structure Assignment where
  name : String
  value : String
  deriving DecidableEq, Repr

namespace Assignment

/-- Whether a character may stand at the start of a name. -/
def isNameStart (c : Char) : Bool := c.isAlpha || c = '_'

/-- Whether a character may stand in a name. -/
def isNamePart (c : Char) : Bool := c.isAlphanum || c = '_' || c = '.'

/-- What is left of a line, and the byte at which that starts. -/
structure Cursor where
  rest : List Char
  offset : Nat
  deriving DecidableEq, Repr

/-- The cursor behind the characters of a kind. -/
def Cursor.skip (cursor : Cursor) (kind : Char → Bool) : Cursor :=
  ⟨cursor.rest.dropWhile kind, cursor.offset + Text.byteLength (cursor.rest.takeWhile kind)⟩

/-- The cursor behind some blanks. -/
def Cursor.skipBlanks (cursor : Cursor) : Cursor := cursor.skip Text.isBlank

/-- A name, and the cursor behind it; a fault is the byte where no name starts. -/
def Cursor.name (cursor : Cursor) : Except Nat (String × Cursor) :=
  match cursor.rest with
  | [] => .error cursor.offset
  | c :: _ =>
    if isNameStart c then
      .ok (String.ofList (cursor.rest.takeWhile isNamePart), cursor.skip isNamePart)
    else .error cursor.offset

/-- The cursor behind an equals sign; a fault is the byte where none stands. -/
def Cursor.equals (cursor : Cursor) : Except Nat Cursor :=
  match cursor.rest with
  | '=' :: rest => .ok ⟨rest, cursor.offset + 1⟩
  | _ => .error cursor.offset

/-- A name and the equals sign behind it.  The word `export` before the name is skipped, and is a
name itself where an equals sign follows. -/
def Cursor.target (cursor : Cursor) : Except Nat (String × Cursor) := do
  let (name, cursor) ← cursor.name
  let cursor := cursor.skipBlanks
  if name = "export" then
    match cursor.equals with
    | .ok cursor => .ok (name, cursor)
    | .error _ => do
      let (name, cursor) ← cursor.name
      return (name, ← cursor.skipBlanks.equals)
  else return (name, ← cursor.equals)

/-- Whether nothing but a comment is left. -/
def Cursor.isDone (cursor : Cursor) : Bool :=
  cursor.rest = [] || cursor.rest.head? = some '#'

/-- Reads a line, where `lookup` knows the names that the value may refer to. -/
def read (lookup : String → String) (line : List Char) : Except Fault (Option Assignment) :=
  let cursor := (Cursor.mk (Text.trimEnd line) 0).skipBlanks
  if cursor.isDone then .ok none
  else
    match cursor.target with
    | .error offset => .error (.line (String.ofList line) offset)
    | .ok (name, cursor) =>
      let cursor := cursor.skipBlanks
      if cursor.isDone then .ok (some ⟨name, ""⟩)
      else (Value.read lookup cursor.rest).map fun value => some ⟨name, value⟩

end Assignment

end Scaffolding.Environment
