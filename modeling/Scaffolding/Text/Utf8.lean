/-!
# UTF-8

Paths, arguments and file contents are bytes that need not be text.  `pieces` reads bytes from left
to right: each well-formed character is a piece, and so is each longest stretch that starts like a
character and is not one.

- `decode?` gives the text when every piece is a character;
- `decodeLossy` shows U+FFFD in place of every other piece;
- `encode` writes a text.
-/

namespace Scaffolding

/-- A sequence of bytes. -/
abbrev Bytes := List UInt8

namespace Text

/-- Where a reader of bytes stands. -/
inductive Reading where
  /-- Between two characters. -/
  | between
  /-- Inside a character: the bits read so far, the least and the greatest byte that may come next,
  and how many more bytes follow that one. -/
  | inside (value : Nat) (least greatest : UInt8) (more : Nat)
  deriving DecidableEq, Repr

/-- A byte that starts a character, or a stretch of one byte that starts none. -/
def lead (byte : UInt8) : List (Option Char) × Reading :=
  if byte < 0x80 then ([some (Char.ofNat byte.toNat)], .between)
  else if byte < 0xC2 then ([none], .between)
  else if byte < 0xE0 then ([], .inside (byte.toNat - 0xC0) 0x80 0xBF 0)
  else if byte = 0xE0 then ([], .inside 0 0xA0 0xBF 1)
  else if byte = 0xED then ([], .inside 0xD 0x80 0x9F 1)
  else if byte < 0xF0 then ([], .inside (byte.toNat - 0xE0) 0x80 0xBF 1)
  else if byte = 0xF0 then ([], .inside 0 0x90 0xBF 2)
  else if byte < 0xF4 then ([], .inside (byte.toNat - 0xF0) 0x80 0xBF 2)
  else if byte = 0xF4 then ([], .inside 4 0x80 0x8F 2)
  else ([none], .between)

/-- One byte: the pieces that end with it, and where the reader stands afterwards.  A byte that
cannot go on with a character ends the stretch before itself. -/
def feed (byte : UInt8) : Reading → List (Option Char) × Reading
  | .between => lead byte
  | .inside value least greatest more =>
    if least ≤ byte ∧ byte ≤ greatest then
      let value := value * 64 + (byte.toNat - 0x80)
      match more with
      | 0 => ([some (Char.ofNat value)], .between)
      | more + 1 => ([], .inside value 0x80 0xBF more)
    else
      let (found, reading) := lead byte
      (none :: found, reading)

/-- The pieces of the bytes that follow, for a reader that stands somewhere. -/
def piecesFrom : Reading → Bytes → List (Option Char)
  | .between, [] => []
  | .inside .., [] => [none]
  | reading, byte :: rest =>
    let (found, next) := feed byte reading
    found ++ piecesFrom next rest

/-- The characters of a byte sequence, with `none` for every stretch that is no character. -/
def pieces (bytes : Bytes) : List (Option Char) :=
  piecesFrom .between bytes

/-- The text that the bytes spell, unless some stretch of them is no character. -/
def decode? (bytes : Bytes) : Option String :=
  ((pieces bytes).mapM id).map String.ofList

/-- The text that the bytes spell, with U+FFFD for every stretch that is no character. -/
def decodeLossy (bytes : Bytes) : String :=
  String.ofList ((pieces bytes).map (·.getD '\uFFFD'))

/-- How many bytes characters have together. -/
def byteLength : List Char → Nat
  | [] => 0
  | c :: rest => c.utf8Size + byteLength rest

/-- The bytes of a text. -/
def encode (text : String) : Bytes :=
  text.toList.flatMap String.utf8EncodeChar

end Text

end Scaffolding
