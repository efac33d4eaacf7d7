import Scaffolding.Text.Invisible

/-!
# Characters and texts in quotes

A character that a message points at stands between single quotes.  Those that would break the
quotes, and the common control characters, have a name after a backslash; any other character
without an appearance of its own is given by its number.  A text stands between double quotes, and
each of its characters as it would between single ones.
-/

namespace Scaffolding.Text

/-- A character between single quotes. -/
def quoted (c : Char) : String :=
  match c with
  | '\x00' => "'\\0'"
  | '\t' => "'\\t'"
  | '\r' => "'\\r'"
  | '\n' => "'\\n'"
  | '\'' => "'\\''"
  | '\\' => "'\\\\'"
  | c =>
    if isInvisible c then
      "'\\u\x7b" ++ String.ofList (Nat.toDigits 16 c.toNat) ++ "\x7d'"
    else
      "'" ++ c.toString ++ "'"

/-- A character of a text between double quotes, which it must not break either. -/
def escapedIn (c : Char) : List Char :=
  if c = '"' then ['\\', '"'] else (quoted c).toList.tail.dropLast

/-- A text between double quotes. -/
def quotedText (text : String) : String :=
  "\"" ++ String.ofList (text.toList.flatMap escapedIn) ++ "\""

end Scaffolding.Text
