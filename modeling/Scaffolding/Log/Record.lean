import Scaffolding.Log.Level

/-!
# Records

A record is a message with some named values.  It may come from inside one or more spans, stretches
of the program that have a name and named values too.
-/

namespace Scaffolding.Log

/-- A name and a value. -/
abbrev Field := String × String

/-- A stretch of the program. -/
structure Span where
  target : String
  name : String
  fields : List Field
  deriving DecidableEq, Repr

/-- A message from somewhere in the program, inside some spans, the outermost first. -/
structure Record where
  target : String
  level : Level
  spans : List Span
  message : String
  fields : List Field
  deriving DecidableEq, Repr

/-- A name and its value in a line. -/
def showField (field : Field) : String :=
  field.1 ++ "=" ++ field.2

/-- A span in a line: its name, and its values in braces. -/
def Span.show (span : Span) : String :=
  span.name ++ "\x7b" ++ String.intercalate " " (span.fields.map showField) ++ "\x7d"

/-- The level of every span. -/
def Span.level : Level := .info

/-- A character of a message in a line.  Characters that would move a terminal are shown by
number. -/
def showCharacter (c : Char) : String :=
  match c with
  | '\x1b' => "\\x1b"
  | '\x07' => "\\x07"
  | '\x08' => "\\x08"
  | '\x0c' => "\\x0c"
  | '\x7f' => "\\x7f"
  | c =>
    if 0x80 ≤ c.toNat && c.toNat ≤ 0x9F then
      "\\u\x7b" ++ String.ofList (Nat.toDigits 16 c.toNat) ++ "\x7d"
    else c.toString

namespace Record

/-- The names of the values of a record; the message is one of them. -/
def fieldNames (record : Record) : List String :=
  "message" :: record.fields.map (·.1)

/-- A record as a line, without the time that stands before the level. -/
def line (record : Record) : String :=
  let level := record.level.name
  let spans := record.spans.map Span.show
  String.ofList (List.replicate (5 - level.length) ' ') ++ level ++ " "
    ++ (if spans = [] then "" else String.intercalate ":" spans ++ ": ")
    ++ String.join (record.message.toList.map showCharacter)
    ++ String.join (record.fields.map fun field => " " ++ showField field) ++ "\n"

end Record

end Scaffolding.Log
