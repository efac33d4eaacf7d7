/-!
# Colour on a terminal

A terminal switches colour and weight on and off by control sequences in the text: the escape
character, `[`, a number and `m`.  `paint`, `bold` and `dimmed` put a text between such a pair, and
`strip` removes every such sequence.
-/

namespace Scaffolding.Text

/-- The colours in use. -/
inductive Colour where
  | red
  | green
  | yellow
  | blue
  | cyan
  deriving DecidableEq, Repr

/-- The number that switches a colour on. -/
def Colour.code : Colour → String
  | .red => "31"
  | .green => "32"
  | .yellow => "33"
  | .blue => "34"
  | .cyan => "36"

/-- The control sequence with a given number. -/
def control (code : String) : String :=
  "\x1b[" ++ code ++ "m"

/-- A text in a colour; behind it the colour is the usual one again. -/
def paint (colour : Colour) (text : String) : String :=
  control colour.code ++ text ++ control "39"

/-- A text in bold; behind it everything is switched off. -/
def bold (text : String) : String :=
  control "1" ++ text ++ control "0"

/-- A text in faint letters; behind it everything is switched off. -/
def dimmed (text : String) : String :=
  control "2" ++ text ++ control "0"

/-- What stands behind the control sequence that a text starts with, if it starts with one. -/
def afterControl? : List Char → Option (List Char)
  | '\x1b' :: '[' :: rest =>
    match rest.dropWhile fun c => c.isDigit || c = ';' with
    | 'm' :: rest => some rest
    | _ => none
  | _ => none

/-- A text without its control sequences, where the first `skip` characters belong to one. -/
def stripFrom : Nat → List Char → List Char
  | _, [] => []
  | skip + 1, _ :: rest => stripFrom skip rest
  | 0, c :: rest =>
    match afterControl? (c :: rest) with
    | some behind => stripFrom (rest.length - behind.length) rest
    | none => c :: stripFrom 0 rest

/-- A text without its control sequences. -/
def strip (text : String) : String :=
  String.ofList (stripFrom 0 text.toList)

end Scaffolding.Text
