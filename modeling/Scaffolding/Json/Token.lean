import Scaffolding.Json.Basic

/-!
# JSON tokens

The parts of a JSON text that are left when the white space is dropped.

- `Json.tokens` is the token sequence of a value, which does not depend on a style;
- `Json.tokens?` reads the tokens of a text, character by character.
-/

namespace Scaffolding

namespace Json

/-- A part of a JSON text. -/
inductive Token where
  | openArray
  | closeArray
  | openObject
  | closeObject
  | colon
  | comma
  | string (text : String)
  deriving DecidableEq, Repr

/-! ## The tokens of a value -/

mutual

/-- The tokens of a value. -/
def tokens : Json → List Token
  | .string text => [.string text]
  | .array [] => [.openArray, .closeArray]
  | .array (item :: rest) => .openArray :: tokens item ++ itemTokens rest ++ [.closeArray]
  | .object [] => [.openObject, .closeObject]
  | .object ((key, value) :: rest) =>
    .openObject :: .string key :: .colon :: tokens value ++ fieldTokens rest ++ [.closeObject]

/-- The tokens of the items of an array behind the first. -/
def itemTokens : List Json → List Token
  | [] => []
  | item :: rest => .comma :: tokens item ++ itemTokens rest

/-- The tokens of the fields of an object behind the first. -/
def fieldTokens : List (String × Json) → List Token
  | [] => []
  | (key, value) :: rest => .comma :: .string key :: .colon :: tokens value ++ fieldTokens rest

end

/-! ## The tokens of a text -/

/-- The value of a hexadecimal digit, in either case. -/
def hexValue? (c : Char) : Option Nat :=
  if '0' ≤ c ∧ c ≤ '9' then some (c.toNat - '0'.toNat)
  else if 'a' ≤ c ∧ c ≤ 'f' then some (c.toNat - 'a'.toNat + 10)
  else if 'A' ≤ c ∧ c ≤ 'F' then some (c.toNat - 'A'.toNat + 10)
  else none

/-- The character that a letter behind a backslash stands for. -/
def unescape? (c : Char) : Option Char :=
  match c with
  | '"' => some '"'
  | '\\' => some '\\'
  | '/' => some '/'
  | 'n' => some '\n'
  | 'r' => some '\r'
  | 't' => some '\t'
  | 'b' => some '\x08'
  | 'f' => some '\x0c'
  | _ => none

/-- Where a reader of characters stands. -/
inductive Lexing where
  /-- Between two tokens. -/
  | between
  /-- Inside a string, of which so much was read. -/
  | inside (read : List Char)
  /-- Behind a backslash in a string. -/
  | escaped (read : List Char)
  /-- Inside the number of a character: the value of the digits so far, and how many more digits
  follow the next one. -/
  | numbered (read : List Char) (value more : Nat)
  deriving DecidableEq, Repr

/-- One character: the token that ends with it, if one does, and where the reader stands
afterwards.  A number has to name a character by itself; half of a pair does not. -/
def Lexing.feed (c : Char) : Lexing → Option (Option Token × Lexing)
  | .between =>
    match c with
    | '[' => some (some .openArray, .between)
    | ']' => some (some .closeArray, .between)
    | '\x7b' => some (some .openObject, .between)
    | '\x7d' => some (some .closeObject, .between)
    | ':' => some (some .colon, .between)
    | ',' => some (some .comma, .between)
    | '"' => some (none, .inside [])
    | c => if isGap c then some (none, .between) else none
  | .inside read =>
    match c with
    | '"' => some (some (.string (String.ofList read)), .between)
    | '\\' => some (none, .escaped read)
    | c => if c.toNat < 0x20 then none else some (none, .inside (read ++ [c]))
  | .escaped read =>
    match c with
    | 'u' => some (none, .numbered read 0 3)
    | c => (unescape? c).map fun c => (none, .inside (read ++ [c]))
  | .numbered read value more => do
    let digit ← hexValue? c
    let value := value * 16 + digit
    match more with
    | 0 =>
      if value.isValidChar then some (none, .inside (read ++ [Char.ofNat value])) else none
    | more + 1 => some (none, .numbered read value more)

/-- The tokens that end in the characters that follow, for a reader that stands somewhere. -/
def tokensFrom : Lexing → List Char → Option (List Token)
  | .between, [] => some []
  | _, [] => none
  | reading, c :: rest => do
    let (found, next) ← reading.feed c
    return found.toList ++ (← tokensFrom next rest)

/-- The tokens of a text, unless some part of it is no token. -/
def tokens? (text : String) : Option (List Token) :=
  tokensFrom .between text.toList

/-! ## One character more -/

section Steps

variable {reading next : Lexing} {c : Char} {rest : List Char}

/-- A character that ends no token only moves the reader. -/
theorem tokensFrom_cons_of_none (hfeed : reading.feed c = some (none, next)) :
    tokensFrom reading (c :: rest) = tokensFrom next rest := by
  simp [tokensFrom, hfeed]

/-- A character that ends a token puts it in front. -/
theorem tokensFrom_cons_of_some {token : Token}
    (hfeed : reading.feed c = some (some token, next)) :
    tokensFrom reading (c :: rest) = (tokensFrom next rest).map (token :: ·) := by
  cases htokens : tokensFrom next rest <;> simp [tokensFrom, hfeed, htokens]

end Steps

/-- White space between two tokens is skipped. -/
theorem tokensFrom_gap (gap rest : List Char) (hgap : gap.all isGap = true) :
    tokensFrom .between (gap ++ rest) = tokensFrom .between rest := by
  induction gap with
  | nil => rfl
  | cons c gap ih =>
    simp only [List.all_cons, Bool.and_eq_true] at hgap
    obtain ⟨hc, hgap⟩ := hgap
    have hfeed : Lexing.between.feed c = some (none, .between) := by
      simp only [isGap, Bool.or_eq_true, decide_eq_true_eq] at hc
      obtain ((rfl | rfl) | rfl) | rfl := hc <;> rfl
    rw [List.cons_append, tokensFrom_cons_of_none hfeed, ih hgap]

end Json

end Scaffolding
