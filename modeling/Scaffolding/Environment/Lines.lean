import Scaffolding.Environment.Fault
import Scaffolding.Text.Blank
import Scaffolding.Text.Utf8

/-!
# The lines of a file of assignments

A file of assignments is cut into lines in two steps.  First at every line feed.  Then lines are put
together again where a quote is open at the end of the first, or where the line feed itself is
escaped.  Whether a quote is open is decided by a reader that knows quotes and escapes only and has
not yet looked for a name or a value; a line that begins with `#` is not read at all.
-/

namespace Scaffolding.Environment

/-- Where a reader of quotes stands. -/
inductive Quoting where
  /-- Outside all quotes. -/
  | none
  /-- Outside all quotes, behind the first of some blanks; a `#` here starts a comment. -/
  | blank
  /-- Behind a backslash outside all quotes. -/
  | escape
  /-- Between double quotes. -/
  | double
  /-- Behind a backslash between double quotes. -/
  | doubleEscape
  /-- Between single quotes. -/
  | single
  /-- Behind a backslash between single quotes. -/
  | singleEscape
  deriving DecidableEq, Repr

namespace Quoting

/-- Where the reader stands behind one more character. -/
def next (quoting : Quoting) (c : Char) : Quoting :=
  match quoting with
  | none =>
    if Text.isBlank c && c ≠ '\n' && c ≠ '\r' then blank
    else if c = '\\' then escape
    else if c = '"' then double
    else if c = '\'' then single
    else none
  | blank =>
    if c = '\\' then escape
    else if c = '"' then double
    else if c = '\'' then single
    else none
  | escape => none
  | double => if c = '\\' then doubleEscape else if c = '"' then none else double
  | doubleEscape => double
  | single => if c = '\\' then singleEscape else if c = '\'' then none else single
  | singleEscape => single

/-- What reading a stretch of text comes to. -/
inductive End where
  /-- The reader stands somewhere behind it. -/
  | at (quoting : Quoting)
  /-- A comment starts in it, behind this part of it. -/
  | comment (before : List Char)
  deriving DecidableEq, Repr

/-- Reads a stretch of text. -/
def read : Quoting → List Char → End
  | quoting, [] => .at quoting
  | quoting, c :: rest =>
    if quoting = blank ∧ c = '#' then .comment []
    else
      match read (quoting.next c) rest with
      | .comment before => .comment (c :: before)
      | stop => stop

end Quoting

/-- The bytes up to each line feed, with it. -/
def physicalLines : Bytes → List Bytes
  | [] => []
  | byte :: rest =>
    if byte = 0x0A then [byte] :: physicalLines rest
    else
      match physicalLines rest with
      | [] => [[byte]]
      | line :: lines => (byte :: line) :: lines

/-- A line without the line feed at its end, and without the carriage return before that. -/
def withoutLineFeed (line : List Char) : List Char :=
  match line.reverse with
  | '\n' :: '\r' :: rest => rest.reverse
  | '\n' :: rest => rest.reverse
  | _ => line

/-- Puts lines together, where `earlier` was read and leaves the reader at `quoting`.  A quote that
is never closed is a fault, and so are bytes that are no text. -/
def join (earlier : List Char) (quoting : Quoting) :
    List Bytes → List (Except Fault (List Char))
  | [] =>
    if quoting = .none then []
    else
      let text := String.ofList earlier
      [.error (.line text text.utf8ByteSize)]
  | line :: lines =>
    match Text.decode? line with
    | none => [.error (.unreadable .notText)]
    | some text =>
      let line := earlier ++ text.toList
      if (Text.trimStart line).head? = some '#' then .ok [] :: join [] .none lines
      else
        match quoting.read text.toList with
        | .comment before => .ok (earlier ++ before) :: join [] .none lines
        | .at .none => .ok (withoutLineFeed line) :: join [] .none lines
        | .at quoting => join line quoting lines

/-- The bytes that may come before the text of a file to say that it is UTF-8. -/
def byteOrderMark : Bytes := [0xEF, 0xBB, 0xBF]

/-- The lines of a file of assignments, up to the first fault. -/
def logicalLines (content : Bytes) : List (Except Fault (List Char)) :=
  let content :=
    if byteOrderMark.isPrefixOf content then content.drop byteOrderMark.length else content
  join [] .none (physicalLines content)

end Scaffolding.Environment
