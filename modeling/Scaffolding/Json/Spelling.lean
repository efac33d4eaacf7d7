import Scaffolding.Json.Token

/-!
# How JSON can be spelled

One value has many texts.  White space may stand around every token, and a
character of a string may stand for itself or be escaped, by a letter or by
its number.  Here that is a relation, of which the writer and the reader of
tokens are two sides.

- `Json.Spells` relates a value to the texts that spell it;
- `spells_write` says that what is written is one of them, in any style;
- `tokens?_of_spells` says that each of them has the tokens of its value;
- `Spells.blank_le_or_isGap` says that none has other control characters than white space.
-/

namespace Scaffolding

namespace Json

/-! ## Strings -/

/-- That characters inside a string stand for one character.  A number names a character by itself,
so the halves of a pair stand for none. -/
inductive StandsFor : List Char → Char → Prop where
  | itself {c : Char} (hcontrol : 0x20 ≤ c.toNat) (hquote : c ≠ '"') (hbackslash : c ≠ '\\') :
    StandsFor [c] c
  | letter {letter c : Char} (hletter : unescape? letter = some c) : StandsFor ['\\', letter] c
  | number {first second third fourth : Char} {a b c d : Nat} {character : Char}
      (hfirst : hexValue? first = some a) (hsecond : hexValue? second = some b)
      (hthird : hexValue? third = some c) (hfourth : hexValue? fourth = some d)
      (hnumber : ((a * 16 + b) * 16 + c) * 16 + d = character.toNat) :
    StandsFor ['\\', 'u', first, second, third, fourth] character

/-- That characters inside a string stand for a text. -/
inductive StandForText : List Char → List Char → Prop where
  | nil : StandForText [] []
  | cons {spelled rest text : List Char} {c : Char} (hfirst : StandsFor spelled c)
      (hrest : StandForText rest text) : StandForText (spelled ++ rest) (c :: text)

/-- A digit stands for the number that it was written for. -/
theorem hexValue?_hexDigit : ∀ n < 16, hexValue? (hexDigit n) = some n := by
  decide

theorem standsFor_escape (c : Char) : StandsFor (escape c) c := by
  unfold escape
  split
  case h_8 hquote hbackslash _ _ _ _ _ =>
    split
    · rename_i hcontrol
      refine .number (hexValue?_hexDigit 0 (by omega)) (hexValue?_hexDigit 0 (by omega))
        (hexValue?_hexDigit _ (by omega)) (hexValue?_hexDigit _ (by omega)) ?_
      omega
    · rename_i hcontrol
      exact .itself (by omega) hquote hbackslash
  all_goals exact .letter rfl

theorem standForText_flatMap_escape (text : List Char) :
    StandForText (text.flatMap escape) text := by
  induction text with
  | nil => exact .nil
  | cons c text ih =>
    rw [List.flatMap_cons]
    exact .cons (standsFor_escape c) ih

/-! ## Tokens -/

/-- The character that a token is written as, unless it is a string. -/
def Token.mark? : Token → Option Char
  | .openArray => some '['
  | .closeArray => some ']'
  | .openObject => some '\x7b'
  | .closeObject => some '\x7d'
  | .colon => some ':'
  | .comma => some ','
  | .string _ => none

/-- That characters spell a token. -/
inductive SpellToken : Token → List Char → Prop where
  | mark {token : Token} {c : Char} (hmark : token.mark? = some c) : SpellToken token [c]
  | string {text : String} {spelled : List Char} (htext : StandForText spelled text.toList) :
    SpellToken (.string text) ('"' :: spelled ++ ['"'])

theorem spellToken_quote (text : String) : SpellToken (.string text) (quote text) :=
  .string (standForText_flatMap_escape text.toList)

/-- That characters spell tokens, with any white space around each of them. -/
inductive SpellTokens : List Token → List Char → Prop where
  | nil : SpellTokens [] []
  | gap {tokens : List Token} {c : Char} {rest : List Char} (hgap : isGap c = true)
      (hrest : SpellTokens tokens rest) : SpellTokens tokens (c :: rest)
  | cons {token : Token} {tokens : List Token} {spelled rest : List Char}
      (htoken : SpellToken token spelled) (hrest : SpellTokens tokens rest) :
    SpellTokens (token :: tokens) (spelled ++ rest)

/-- That a text spells a value. -/
def Spells (value : Json) (text : String) : Prop := SpellTokens value.tokens text.toList

namespace SpellTokens

variable {token : Token} {tokens others : List Token} {spelled rest : List Char}

theorem append (hfirst : SpellTokens tokens spelled) (hrest : SpellTokens others rest) :
    SpellTokens (tokens ++ others) (spelled ++ rest) := by
  induction hfirst with
  | nil => exact hrest
  | gap hgap _ ih => exact .gap hgap ih
  | cons htoken _ ih =>
    rw [List.append_assoc]
    exact .cons htoken ih

theorem behindGap {gap : List Char} (hgap : gap.all isGap = true)
    (hrest : SpellTokens tokens rest) : SpellTokens tokens (gap ++ rest) := by
  induction gap with
  | nil => exact hrest
  | cons c gap ih =>
    rw [List.all_cons, Bool.and_eq_true] at hgap
    exact .gap hgap.1 (ih hgap.2)

theorem mark {c : Char} (hmark : token.mark? = some c) (hrest : SpellTokens tokens rest) :
    SpellTokens (token :: tokens) (c :: rest) :=
  .cons (.mark hmark) hrest

theorem quote (text : String) (hrest : SpellTokens tokens rest) :
    SpellTokens (.string text :: tokens) (Json.quote text ++ rest) :=
  .cons (spellToken_quote text) hrest

/-- A key, its colon and what is behind it. -/
theorem key (style : Style) (key : String) (hrest : SpellTokens tokens rest) :
    SpellTokens (.string key :: .colon :: tokens)
      (Json.quote key ++ ':' :: (style.afterColon ++ rest)) :=
  .quote key (.mark rfl (.behindGap style.afterColon_isGap hrest))

end SpellTokens

/-! ## What is written -/

mutual

/-- What is written for a value spells its tokens, at any depth of any style. -/
theorem spellTokens_writeAt (style : Style) (depth : Nat) :
    ∀ value : Json, SpellTokens value.tokens (writeAt style depth value)
  | .string text => by
    have hquote := SpellTokens.quote text .nil
    rwa [List.append_nil] at hquote
  | .array [] => .mark rfl (.mark rfl .nil)
  | .array (item :: items) => by
    have hitems := (spellTokens_writeAt style (depth + 1) item).append
      (spellTokens_writeItems style (depth + 1) items)
    have hclose : SpellTokens [.closeArray] (style.gap depth ++ [']']) :=
      .behindGap (style.gap_isGap depth) (.mark rfl .nil)
    have hbody := (hitems.append hclose).behindGap (style.gap_isGap (depth + 1))
    have hall : SpellTokens (.openArray :: _) ('[' :: _) := .mark rfl hbody
    simpa [writeAt, tokens] using hall
  | .object [] => .mark rfl (.mark rfl .nil)
  | .object ((key, value) :: fields) => by
    have hfields := (spellTokens_writeAt style (depth + 1) value).append
      (spellTokens_writeFields style (depth + 1) fields)
    have hclose : SpellTokens [.closeObject] (style.gap depth ++ ['\x7d']) :=
      .behindGap (style.gap_isGap depth) (.mark rfl .nil)
    have hbody := ((hfields.append hclose).key style key).behindGap (style.gap_isGap (depth + 1))
    have hall : SpellTokens (.openObject :: _) ('\x7b' :: _) := .mark rfl hbody
    simpa [writeAt, tokens] using hall

/-- The same for the items of an array behind the first. -/
theorem spellTokens_writeItems (style : Style) (depth : Nat) :
    ∀ items : List Json, SpellTokens (itemTokens items) (writeItems style depth items)
  | [] => .nil
  | item :: items => by
    have hitems := (spellTokens_writeAt style depth item).append
      (spellTokens_writeItems style depth items)
    have hbody := hitems.behindGap (style.gap_isGap depth)
    have hall : SpellTokens (.comma :: _) (',' :: _) := .mark rfl hbody
    simpa [writeItems, itemTokens] using hall

/-- The same for the fields of an object behind the first. -/
theorem spellTokens_writeFields (style : Style) (depth : Nat) :
    ∀ fields : List (String × Json),
      SpellTokens (fieldTokens fields) (writeFields style depth fields)
  | [] => .nil
  | (key, value) :: fields => by
    have hfields := (spellTokens_writeAt style depth value).append
      (spellTokens_writeFields style depth fields)
    have hbody := (hfields.key style key).behindGap (style.gap_isGap depth)
    have hall : SpellTokens (.comma :: _) (',' :: _) := .mark rfl hbody
    simpa [writeFields, fieldTokens] using hall

end

/-- What is written spells its value, whatever the style. -/
theorem spells_write (style : Style) (value : Json) : value.Spells (write style value) := by
  unfold Spells write
  rw [String.toList_ofList]
  exact spellTokens_writeAt style 0 value

/-! ## What is read -/

/-- A digit with more behind it is added to the number. -/
theorem feed_numbered {digit : Char} {n : Nat} (hdigit : hexValue? digit = some n)
    (read : List Char) (value more : Nat) :
    (Lexing.numbered read value (more + 1)).feed digit =
      some (none, .numbered read (value * 16 + n) more) := by
  simp [Lexing.feed, hdigit]

/-- The last digit makes the number that of a character. -/
theorem feed_numbered_last {digit c : Char} {n value : Nat} (hdigit : hexValue? digit = some n)
    (hnumber : value * 16 + n = c.toNat) (read : List Char) :
    (Lexing.numbered read value 0).feed digit = some (none, .inside (read ++ [c])) := by
  have hvalid : c.toNat.isValidChar := c.valid
  simp [Lexing.feed, hdigit, hnumber, hvalid]

/-- What stands for a character is read as that character. -/
theorem tokensFrom_of_standsFor {spelled : List Char} {c : Char} (hstands : StandsFor spelled c)
    (read rest : List Char) :
    tokensFrom (.inside read) (spelled ++ rest) = tokensFrom (.inside (read ++ [c])) rest := by
  have hbackslash : (Lexing.inside read).feed '\\' = some (none, .escaped read) := rfl
  cases hstands with
  | itself hcontrol hquote hbackslash =>
    have hfeed : (Lexing.inside read).feed c = some (none, .inside (read ++ [c])) := by
      simp [Lexing.feed, Nat.not_lt.mpr hcontrol]
    exact tokensFrom_cons_of_none hfeed
  | @letter letter _ hletter =>
    have hnumber : letter ≠ 'u' := by
      rintro rfl
      cases hletter
    have hfeed : (Lexing.escaped read).feed letter = some (none, .inside (read ++ [c])) := by
      simp [Lexing.feed, hletter]
    exact (tokensFrom_cons_of_none hbackslash).trans (tokensFrom_cons_of_none hfeed)
  | @number first second third fourth w x y z _ hfirst hsecond hthird hfourth hnumber =>
    have hstart : (Lexing.escaped read).feed 'u' = some (none, .numbered read 0 3) := rfl
    rw [← Nat.zero_add w, ← Nat.zero_mul 16] at hnumber
    exact (tokensFrom_cons_of_none hbackslash).trans <|
      (tokensFrom_cons_of_none hstart).trans <|
      (tokensFrom_cons_of_none (feed_numbered hfirst read 0 2)).trans <|
      (tokensFrom_cons_of_none (feed_numbered hsecond read _ 1)).trans <|
      (tokensFrom_cons_of_none (feed_numbered hthird read _ 0)).trans <|
      tokensFrom_cons_of_none (feed_numbered_last hfourth hnumber read)

theorem tokensFrom_of_standForText {spelled text : List Char} (hstand : StandForText spelled text)
    (read rest : List Char) :
    tokensFrom (.inside read) (spelled ++ rest) = tokensFrom (.inside (read ++ text)) rest := by
  induction hstand generalizing read with
  | nil => rw [List.nil_append, List.append_nil]
  | cons hfirst _ ih =>
    rw [List.append_assoc, tokensFrom_of_standsFor hfirst, ih, List.append_assoc,
      List.singleton_append]

/-- What spells a token is read as that token. -/
theorem tokensFrom_of_spellToken {token : Token} {spelled : List Char}
    (htoken : SpellToken token spelled) (rest : List Char) :
    tokensFrom .between (spelled ++ rest) =
      (tokensFrom .between rest).map (token :: ·) := by
  cases htoken with
  | @mark _ c hmark =>
    have hfeed : Lexing.between.feed c = some (some token, .between) := by
      cases token with
      | string text => cases hmark
      | _ =>
        cases hmark
        rfl
    exact tokensFrom_cons_of_some hfeed
  | @string text spelled htext =>
    have hopen : Lexing.between.feed '"' = some (none, .inside []) := rfl
    have hclose : (Lexing.inside text.toList).feed '"' =
        some (some (.string text), .between) := by
      simp [Lexing.feed]
    rw [List.append_assoc, List.cons_append, tokensFrom_cons_of_none hopen,
      tokensFrom_of_standForText htext, List.nil_append, List.singleton_append,
      tokensFrom_cons_of_some hclose]

theorem tokensFrom_of_spellTokens {tokens : List Token} {spelled : List Char}
    (htokens : SpellTokens tokens spelled) : tokensFrom .between spelled = some tokens := by
  induction htokens with
  | nil => rfl
  | @gap _ c rest hgap _ ih =>
    have hskip := tokensFrom_gap [c] rest (by rw [List.all_cons, hgap]; rfl)
    exact hskip.trans ih
  | cons htoken _ ih =>
    rw [tokensFrom_of_spellToken htoken, ih]
    rfl

/-- A text that spells a value has the tokens of that value. -/
theorem tokens?_of_spells {value : Json} {text : String} (hspells : value.Spells text) :
    tokens? text = some value.tokens :=
  tokensFrom_of_spellTokens hspells

/-! ## Characters of a spelling -/

theorem blank_le_of_hexValue? {c : Char} {value : Nat} (hvalue : hexValue? c = some value) :
    ' ' ≤ c := by
  unfold hexValue? at hvalue
  split at hvalue
  case isTrue hdigit => exact Char.le_trans (by decide) hdigit.1
  split at hvalue
  case isTrue hlower => exact Char.le_trans (by decide) hlower.1
  split at hvalue
  case isTrue hupper => exact Char.le_trans (by decide) hupper.1
  cases hvalue

theorem blank_le_of_unescape? {letter c : Char} (hletter : unescape? letter = some c) :
    ' ' ≤ letter := by
  unfold unescape? at hletter
  split at hletter
  case h_9 => cases hletter
  all_goals decide

/-- No control character stands in a string, whether escaped or not. -/
theorem StandForText.blank_le {spelled text : List Char} (htext : StandForText spelled text) :
    ∀ c ∈ spelled, ' ' ≤ c := by
  induction htext with
  | nil => exact List.forall_mem_nil _
  | cons hfirst _ ih =>
    refine List.forall_mem_append.mpr ⟨?_, ih⟩
    cases hfirst with
    | itself hcontrol => simpa [Char.le_def, UInt32.le_iff_toNat_le] using hcontrol
    | letter hletter => simpa using blank_le_of_unescape? hletter
    | number hfirst hsecond hthird hfourth =>
      simp [blank_le_of_hexValue? hfirst, blank_le_of_hexValue? hsecond,
        blank_le_of_hexValue? hthird, blank_le_of_hexValue? hfourth]

theorem SpellToken.blank_le {token : Token} {spelled : List Char}
    (htoken : SpellToken token spelled) : ∀ c ∈ spelled, ' ' ≤ c := by
  cases htoken with
  | mark hmark =>
    refine List.forall_mem_singleton.mpr ?_
    cases token with
    | string text => cases hmark
    | _ =>
      cases hmark
      decide
  | string htext =>
    have hquote : ∀ c ∈ ['"'], ' ' ≤ c := List.forall_mem_singleton.mpr (by decide)
    exact List.forall_mem_append.mpr
      ⟨List.forall_mem_cons.mpr ⟨by decide, htext.blank_le⟩, hquote⟩

/-- The only control characters of a spelling are between its tokens. -/
theorem Spells.blank_le_or_isGap {value : Json} {text : String} (hspells : value.Spells text) :
    ∀ c ∈ text.toList, ' ' ≤ c ∨ isGap c = true := by
  have htokens : ∀ {tokens spelled}, SpellTokens tokens spelled →
      ∀ c ∈ spelled, ' ' ≤ c ∨ isGap c = true := by
    intro tokens spelled hspelled
    induction hspelled with
    | nil => exact List.forall_mem_nil _
    | gap hgap _ ih => exact List.forall_mem_cons.mpr ⟨.inr hgap, ih⟩
    | cons htoken _ ih =>
      exact List.forall_mem_append.mpr ⟨fun c hc => .inl (htoken.blank_le c hc), ih⟩
  exact htokens hspells

end Json

end Scaffolding
