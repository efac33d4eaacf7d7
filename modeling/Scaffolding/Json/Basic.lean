/-!
# JSON

The values that a report needs: strings, arrays and objects.  A value is written in one of two
styles, which differ in the white space between its parts only.

- `Json.write` is the writer, for any style;
- `Style.compact` and `Style.pretty` are the two styles.
-/

namespace Scaffolding

/-- A JSON value without numbers and literals.  The fields of an object keep their order. -/
inductive Json where
  | string (text : String)
  | array (items : List Json)
  | object (fields : List (String × Json))

namespace Json

/-! ## Strings -/

/-- A hexadecimal digit, in lower case. -/
def hexDigit (n : Nat) : Char :=
  if n < 10 then Char.ofNat ('0'.toNat + n) else Char.ofNat ('a'.toNat + (n - 10))

/-- A character inside a JSON string.  Quotes, backslashes and control characters are escaped, the
common control characters by a letter and the others by number. -/
def escape (c : Char) : List Char :=
  match c with
  | '"' => ['\\', '"']
  | '\\' => ['\\', '\\']
  | '\n' => ['\\', 'n']
  | '\r' => ['\\', 'r']
  | '\t' => ['\\', 't']
  | '\x08' => ['\\', 'b']
  | '\x0c' => ['\\', 'f']
  | c =>
    if c.toNat < 0x20 then
      ['\\', 'u', '0', '0', hexDigit (c.toNat / 16), hexDigit (c.toNat % 16)]
    else [c]

/-- A text as a JSON string. -/
def quote (text : String) : List Char :=
  '"' :: text.toList.flatMap escape ++ ['"']

/-! ## Values -/

/-- Whether a character is white space between two parts of a value. -/
def isGap (c : Char) : Bool :=
  c = ' ' || c = '\n' || c = '\r' || c = '\t'

/-- The white space of a style: what comes before an item that lies so many levels deep, and what
comes behind a colon. -/
structure Style where
  gap : Nat → List Char
  afterColon : List Char
  gap_isGap : ∀ depth, (gap depth).all isGap = true
  afterColon_isGap : afterColon.all isGap = true

/-- No white space at all. -/
def Style.compact : Style where
  gap _ := []
  afterColon := []
  gap_isGap _ := rfl
  afterColon_isGap := rfl

/-- A line for each item, indented by two spaces a level. -/
def Style.pretty : Style where
  gap depth := '\n' :: List.replicate (2 * depth) ' '
  afterColon := [' ']
  gap_isGap depth := by simp [isGap]
  afterColon_isGap := rfl

mutual

/-- A value that lies so many levels deep. -/
def writeAt (style : Style) (depth : Nat) : Json → List Char
  | .string text => quote text
  | .array [] => ['[', ']']
  | .array (item :: rest) =>
    '[' :: style.gap (depth + 1) ++ writeAt style (depth + 1) item
      ++ writeItems style (depth + 1) rest ++ style.gap depth ++ [']']
  | .object [] => ['\x7b', '\x7d']
  | .object ((key, value) :: rest) =>
    '\x7b' :: style.gap (depth + 1) ++ quote key ++ ':' :: style.afterColon
      ++ writeAt style (depth + 1) value
      ++ writeFields style (depth + 1) rest ++ style.gap depth ++ ['\x7d']

/-- The items of an array behind the first. -/
def writeItems (style : Style) (depth : Nat) : List Json → List Char
  | [] => []
  | item :: rest =>
    ',' :: style.gap depth ++ writeAt style depth item ++ writeItems style depth rest

/-- The fields of an object behind the first. -/
def writeFields (style : Style) (depth : Nat) : List (String × Json) → List Char
  | [] => []
  | (key, value) :: rest =>
    ',' :: style.gap depth ++ quote key ++ ':' :: style.afterColon
      ++ writeAt style depth value ++ writeFields style depth rest

end

/-- A value in a given style. -/
def write (style : Style) (value : Json) : String :=
  String.ofList (writeAt style 0 value)

end Json

end Scaffolding
