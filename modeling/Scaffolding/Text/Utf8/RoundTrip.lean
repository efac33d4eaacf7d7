import Scaffolding.Text.Utf8

/-!
# Texts and their bytes

Reading and writing UTF-8 undo each other: `decode?_eq_some_iff` says that the bytes that spell a
text are the bytes that are written for it, and no others.

The proof goes by the number of bytes of a character.  The lemmas on `piecesFrom` read the bytes of
a character, and those on `utf8EncodeChar` find the character for bytes that are in range.
-/

namespace Scaffolding

namespace Text

/-! ## One byte -/

/-- A first byte, by its number. -/
theorem lead_eq (byte : UInt8) : lead byte =
    if byte.toNat < 0x80 then ([some (Char.ofNat byte.toNat)], .between)
    else if byte.toNat < 0xC2 then ([none], .between)
    else if byte.toNat < 0xE0 then ([], .inside (byte.toNat - 0xC0) 0x80 0xBF 0)
    else if byte.toNat = 0xE0 then ([], .inside 0 0xA0 0xBF 1)
    else if byte.toNat = 0xED then ([], .inside 0xD 0x80 0x9F 1)
    else if byte.toNat < 0xF0 then ([], .inside (byte.toNat - 0xE0) 0x80 0xBF 1)
    else if byte.toNat = 0xF0 then ([], .inside 0 0x90 0xBF 2)
    else if byte.toNat < 0xF4 then ([], .inside (byte.toNat - 0xF0) 0x80 0xBF 2)
    else if byte.toNat = 0xF4 then ([], .inside 4 0x80 0x8F 2)
    else ([none], .between) := by
  simp [lead, UInt8.lt_iff_toNat_lt, ← UInt8.toNat_inj]

section Steps

variable {value more : Nat} {least greatest byte : UInt8} {bytes rest : Bytes} {c : Char}
  {tail : List (Option Char)}

/-- A character of one byte. -/
theorem piecesFrom_ascii (hbyte : byte.toNat < 0x80) :
    piecesFrom .between (byte :: rest)
      = some (Char.ofNat byte.toNat) :: piecesFrom .between rest := by
  simp [piecesFrom, feed, lead_eq, hbyte]

/-- The first byte of a character of several bytes. -/
theorem piecesFrom_lead (hlead : lead byte = ([], .inside value least greatest more)) :
    piecesFrom .between (byte :: rest) = piecesFrom (.inside value least greatest more) rest := by
  simp [piecesFrom, feed, hlead]

/-- A byte of a character that is neither its first nor its last. -/
theorem piecesFrom_inside_succ (hleast : least.toNat ≤ byte.toNat)
    (hgreatest : byte.toNat ≤ greatest.toNat) :
    piecesFrom (.inside value least greatest (more + 1)) (byte :: rest)
      = piecesFrom (.inside (value * 64 + (byte.toNat - 0x80)) 0x80 0xBF more) rest := by
  simp [piecesFrom, feed, UInt8.le_iff_toNat_le, hleast, hgreatest]

/-- The last byte of a character. -/
theorem piecesFrom_inside_zero (hleast : least.toNat ≤ byte.toNat)
    (hgreatest : byte.toNat ≤ greatest.toNat) :
    piecesFrom (.inside value least greatest 0) (byte :: rest)
      = some (Char.ofNat (value * 64 + (byte.toNat - 0x80))) :: piecesFrom .between rest := by
  simp [piecesFrom, feed, UInt8.le_iff_toNat_le, hleast, hgreatest]

/-- A character that has begun goes on with a byte in range. -/
theorem exists_of_piecesFrom_inside
    (hpieces : piecesFrom (.inside value least greatest more) bytes = some c :: tail) :
    ∃ byte rest, bytes = byte :: rest
      ∧ least.toNat ≤ byte.toNat ∧ byte.toNat ≤ greatest.toNat := by
  rcases bytes with _ | ⟨byte, rest⟩
  · simp [piecesFrom] at hpieces
  · refine ⟨byte, rest, rfl, ?_⟩
    rw [← UInt8.le_iff_toNat_le, ← UInt8.le_iff_toNat_le]
    apply Classical.byContradiction
    intro hrange
    simp [piecesFrom, feed, hrange] at hpieces

end Steps

/-! ## The bytes of a character are one piece -/

theorem toNat_ofNat_of_lt {n : Nat} (hn : n < 256) : (UInt8.ofNat n).toNat = n := by
  simp; omega

theorem piecesFrom_pair {n : Nat} {rest : Bytes} (hleast : 0x80 ≤ n) (hgreatest : n < 0x800) :
    piecesFrom .between (UInt8.ofNat (n / 64 % 32 + 192) :: UInt8.ofNat (n % 64 + 128) :: rest)
      = some (Char.ofNat n) :: piecesFrom .between rest := by
  have hfirst : (UInt8.ofNat (n / 64 % 32 + 192)).toNat = n / 64 % 32 + 192 :=
    toNat_ofNat_of_lt (by omega)
  have hsecond : (UInt8.ofNat (n % 64 + 128)).toNat = n % 64 + 128 :=
    toNat_ofNat_of_lt (by omega)
  have hlead : lead (UInt8.ofNat (n / 64 % 32 + 192))
      = ([], .inside (n / 64 % 32 + 192 - 0xC0) 0x80 0xBF 0) := by
    rw [lead_eq, hfirst, if_neg (by omega), if_neg (by omega), if_pos (by omega)]
  have hvalue : (n / 64 % 32 + 192 - 0xC0) * 64 + (n % 64 + 128 - 0x80) = n := by omega
  rw [piecesFrom_lead hlead, piecesFrom_inside_zero (by simp; omega) (by simp; omega), hsecond,
    hvalue]

theorem piecesFrom_triple {n : Nat} {rest : Bytes} (hleast : 0x800 ≤ n) (hgreatest : n < 0x10000)
    (hvalid : n.isValidChar) :
    piecesFrom .between (UInt8.ofNat (n / 4096 % 16 + 224) :: UInt8.ofNat (n / 64 % 64 + 128)
        :: UInt8.ofNat (n % 64 + 128) :: rest)
      = some (Char.ofNat n) :: piecesFrom .between rest := by
  simp only [Nat.isValidChar] at hvalid
  have hfirst : (UInt8.ofNat (n / 4096 % 16 + 224)).toNat = n / 4096 % 16 + 224 :=
    toNat_ofNat_of_lt (by omega)
  have hsecond : (UInt8.ofNat (n / 64 % 64 + 128)).toNat = n / 64 % 64 + 128 :=
    toNat_ofNat_of_lt (by omega)
  have hthird : (UInt8.ofNat (n % 64 + 128)).toNat = n % 64 + 128 :=
    toNat_ofNat_of_lt (by omega)
  obtain ⟨least, greatest, hlead, hrange⟩ : ∃ least greatest : UInt8,
      lead (UInt8.ofNat (n / 4096 % 16 + 224)) = ([], .inside (n / 4096) least greatest 1)
        ∧ least.toNat ≤ n / 64 % 64 + 128 ∧ n / 64 % 64 + 128 ≤ greatest.toNat := by
    rw [lead_eq, hfirst, if_neg (by omega), if_neg (by omega), if_neg (by omega)]
    split
    · exact ⟨0xA0, 0xBF, by simp; omega, by simp; omega, by simp; omega⟩
    split
    · exact ⟨0x80, 0x9F, by simp; omega, by simp, by simp; omega⟩
    · rw [if_pos (by omega)]
      exact ⟨0x80, 0xBF, by simp; omega, by simp, by simp; omega⟩
  have hvalue : (n / 4096 * 64 + (n / 64 % 64 + 128 - 0x80)) * 64 + (n % 64 + 128 - 0x80) = n := by
    omega
  rw [piecesFrom_lead hlead, piecesFrom_inside_succ (by omega) (by omega),
    piecesFrom_inside_zero (by simp; omega) (by simp; omega), hsecond, hthird, hvalue]

theorem piecesFrom_quadruple {n : Nat} {rest : Bytes} (hleast : 0x10000 ≤ n)
    (hvalid : n.isValidChar) :
    piecesFrom .between (UInt8.ofNat (n / 262144 % 8 + 240) :: UInt8.ofNat (n / 4096 % 64 + 128)
        :: UInt8.ofNat (n / 64 % 64 + 128) :: UInt8.ofNat (n % 64 + 128) :: rest)
      = some (Char.ofNat n) :: piecesFrom .between rest := by
  simp only [Nat.isValidChar] at hvalid
  have hfirst : (UInt8.ofNat (n / 262144 % 8 + 240)).toNat = n / 262144 % 8 + 240 :=
    toNat_ofNat_of_lt (by omega)
  have hsecond : (UInt8.ofNat (n / 4096 % 64 + 128)).toNat = n / 4096 % 64 + 128 :=
    toNat_ofNat_of_lt (by omega)
  have hthird : (UInt8.ofNat (n / 64 % 64 + 128)).toNat = n / 64 % 64 + 128 :=
    toNat_ofNat_of_lt (by omega)
  have hfourth : (UInt8.ofNat (n % 64 + 128)).toNat = n % 64 + 128 :=
    toNat_ofNat_of_lt (by omega)
  obtain ⟨least, greatest, hlead, hrange⟩ : ∃ least greatest : UInt8,
      lead (UInt8.ofNat (n / 262144 % 8 + 240)) = ([], .inside (n / 262144) least greatest 2)
        ∧ least.toNat ≤ n / 4096 % 64 + 128 ∧ n / 4096 % 64 + 128 ≤ greatest.toNat := by
    rw [lead_eq, hfirst, if_neg (by omega), if_neg (by omega), if_neg (by omega),
      if_neg (by omega), if_neg (by omega), if_neg (by omega)]
    split
    · exact ⟨0x90, 0xBF, by simp; omega, by simp; omega, by simp; omega⟩
    split
    · exact ⟨0x80, 0xBF, by simp; omega, by simp, by simp; omega⟩
    · rw [if_pos (by omega)]
      exact ⟨0x80, 0x8F, by simp; omega, by simp, by simp; omega⟩
  have hvalue : ((n / 262144 * 64 + (n / 4096 % 64 + 128 - 0x80)) * 64
      + (n / 64 % 64 + 128 - 0x80)) * 64 + (n % 64 + 128 - 0x80) = n := by
    omega
  rw [piecesFrom_lead hlead, piecesFrom_inside_succ (by omega) (by omega),
    piecesFrom_inside_succ (by simp; omega) (by simp; omega),
    piecesFrom_inside_zero (by simp; omega) (by simp; omega), hsecond, hthird, hfourth, hvalue]

theorem piecesFrom_utf8EncodeChar (c : Char) (rest : Bytes) :
    piecesFrom .between (String.utf8EncodeChar c ++ rest)
      = some c :: piecesFrom .between rest := by
  have hvalid : c.toNat.isValidChar := c.valid
  have hpiece : some c = some (Char.ofNat c.toNat) := by rw [Char.ofNat_toNat]
  rw [hpiece]
  unfold String.utf8EncodeChar
  simp only [Char.toNat_val]
  split
  · have hbyte : (UInt8.ofNat c.toNat).toNat = c.toNat := toNat_ofNat_of_lt (by omega)
    rw [List.cons_append, piecesFrom_ascii (by omega), hbyte, List.nil_append]
  split
  · exact piecesFrom_pair (by omega) (by omega)
  split
  · exact piecesFrom_triple (by omega) (by omega) hvalid
  · exact piecesFrom_quadruple (by omega) hvalid

/-! ## A piece that is a character has its bytes -/

theorem toNat_charOfNat {n : Nat} (hvalid : n.isValidChar) : (Char.ofNat n).toNat = n := by
  rw [Char.ofNat, dif_pos hvalid]
  rfl

section Ranges

variable {a b c d : UInt8}

theorem exists_single (ha : a.toNat < 0x80) : ∃ x : Char, String.utf8EncodeChar x = [a] := by
  have hvalid : a.toNat.isValidChar := by simp only [Nat.isValidChar]; omega
  refine ⟨Char.ofNat a.toNat, ?_⟩
  unfold String.utf8EncodeChar
  simp only [Char.toNat_val, toNat_charOfNat hvalid]
  rw [if_pos (by omega)]
  simp

theorem exists_pair (ha : 0xC2 ≤ a.toNat ∧ a.toNat < 0xE0)
    (hb : 0x80 ≤ b.toNat ∧ b.toNat ≤ 0xBF) :
    ∃ x : Char, String.utf8EncodeChar x = [a, b] := by
  obtain ⟨n, hn⟩ : ∃ n, n = (a.toNat - 0xC0) * 64 + (b.toNat - 0x80) := ⟨_, rfl⟩
  have hvalid : n.isValidChar := by simp only [Nat.isValidChar]; omega
  refine ⟨Char.ofNat n, ?_⟩
  unfold String.utf8EncodeChar
  simp only [Char.toNat_val, toNat_charOfNat hvalid]
  rw [if_neg (by omega), if_pos (by omega)]
  simp only [List.cons.injEq, and_true, ← UInt8.toNat_inj]
  exact ⟨by simp; omega, by simp; omega⟩

theorem exists_triple (ha : 0xE0 ≤ a.toNat ∧ a.toNat < 0xF0)
    (hb : 0x80 ≤ b.toNat ∧ b.toNat ≤ 0xBF) (hc : 0x80 ≤ c.toNat ∧ c.toNat ≤ 0xBF)
    (hleast : a.toNat = 0xE0 → 0xA0 ≤ b.toNat) (hgreatest : a.toNat = 0xED → b.toNat ≤ 0x9F) :
    ∃ x : Char, String.utf8EncodeChar x = [a, b, c] := by
  obtain ⟨n, hn⟩ : ∃ n, n = ((a.toNat - 0xE0) * 64 + (b.toNat - 0x80)) * 64 + (c.toNat - 0x80) :=
    ⟨_, rfl⟩
  have hvalid : n.isValidChar := by simp only [Nat.isValidChar]; omega
  refine ⟨Char.ofNat n, ?_⟩
  unfold String.utf8EncodeChar
  simp only [Char.toNat_val, toNat_charOfNat hvalid]
  rw [if_neg (by omega), if_neg (by omega), if_pos (by omega)]
  simp only [List.cons.injEq, and_true, ← UInt8.toNat_inj]
  exact ⟨by simp; omega, by simp; omega, by simp; omega⟩

theorem exists_quadruple (ha : 0xF0 ≤ a.toNat ∧ a.toNat ≤ 0xF4)
    (hb : 0x80 ≤ b.toNat ∧ b.toNat ≤ 0xBF) (hc : 0x80 ≤ c.toNat ∧ c.toNat ≤ 0xBF)
    (hd : 0x80 ≤ d.toNat ∧ d.toNat ≤ 0xBF)
    (hleast : a.toNat = 0xF0 → 0x90 ≤ b.toNat) (hgreatest : a.toNat = 0xF4 → b.toNat ≤ 0x8F) :
    ∃ x : Char, String.utf8EncodeChar x = [a, b, c, d] := by
  obtain ⟨n, hn⟩ : ∃ n, n = (((a.toNat - 0xF0) * 64 + (b.toNat - 0x80)) * 64
      + (c.toNat - 0x80)) * 64 + (d.toNat - 0x80) := ⟨_, rfl⟩
  have hvalid : n.isValidChar := by simp only [Nat.isValidChar]; omega
  refine ⟨Char.ofNat n, ?_⟩
  unfold String.utf8EncodeChar
  simp only [Char.toNat_val, toNat_charOfNat hvalid]
  rw [if_neg (by omega), if_neg (by omega), if_neg (by omega)]
  simp only [List.cons.injEq, and_true, ← UInt8.toNat_inj]
  exact ⟨by simp; omega, by simp; omega, by simp; omega, by simp; omega⟩

end Ranges

section Pieces

variable {value : Nat} {least greatest a : UInt8} {bytes : Bytes} {c : Char}
  {tail : List (Option Char)}

/-- Two bytes that end a character are in range. -/
theorem exists_of_piecesFrom_inside_one
    (hpieces : piecesFrom (.inside value least greatest 1) bytes = some c :: tail) :
    ∃ b₁ b₂ rest, bytes = b₁ :: b₂ :: rest
      ∧ (least.toNat ≤ b₁.toNat ∧ b₁.toNat ≤ greatest.toNat)
      ∧ (0x80 ≤ b₂.toNat ∧ b₂.toNat ≤ 0xBF) := by
  obtain ⟨b₁, bytes, rfl, hleast, hgreatest⟩ := exists_of_piecesFrom_inside hpieces
  rw [piecesFrom_inside_succ hleast hgreatest] at hpieces
  obtain ⟨b₂, rest, rfl, hrange⟩ := exists_of_piecesFrom_inside hpieces
  exact ⟨b₁, b₂, rest, rfl, ⟨hleast, hgreatest⟩, hrange⟩

/-- Three bytes that end a character are in range. -/
theorem exists_of_piecesFrom_inside_two
    (hpieces : piecesFrom (.inside value least greatest 2) bytes = some c :: tail) :
    ∃ b₁ b₂ b₃ rest, bytes = b₁ :: b₂ :: b₃ :: rest
      ∧ (least.toNat ≤ b₁.toNat ∧ b₁.toNat ≤ greatest.toNat)
      ∧ (0x80 ≤ b₂.toNat ∧ b₂.toNat ≤ 0xBF) ∧ (0x80 ≤ b₃.toNat ∧ b₃.toNat ≤ 0xBF) := by
  obtain ⟨b₁, bytes, rfl, hleast, hgreatest⟩ := exists_of_piecesFrom_inside hpieces
  rw [piecesFrom_inside_succ hleast hgreatest] at hpieces
  obtain ⟨b₂, b₃, rest, rfl, hrange⟩ := exists_of_piecesFrom_inside_one hpieces
  exact ⟨b₁, b₂, b₃, rest, rfl, ⟨hleast, hgreatest⟩, hrange⟩

/-- The character that three bytes spell, the first of which was read. -/
theorem exists_of_lead_one
    (hlead : lead a = ([], .inside value least greatest 1))
    (hpieces : piecesFrom .between (a :: bytes) = some c :: tail)
    (hrange : 0xE0 ≤ a.toNat ∧ a.toNat < 0xF0 ∧ 0x80 ≤ least.toNat ∧ greatest.toNat ≤ 0xBF)
    (hleast : a.toNat = 0xE0 → 0xA0 ≤ least.toNat)
    (hgreatest : a.toNat = 0xED → greatest.toNat ≤ 0x9F) :
    ∃ x rest, a :: bytes = String.utf8EncodeChar x ++ rest := by
  rw [piecesFrom_lead hlead] at hpieces
  obtain ⟨b₁, b₂, rest, rfl, h₁, h₂⟩ := exists_of_piecesFrom_inside_one hpieces
  obtain ⟨x, hx⟩ := exists_triple (And.intro hrange.1 hrange.2.1)
    (⟨by omega, by omega⟩ : 0x80 ≤ b₁.toNat ∧ b₁.toNat ≤ 0xBF) h₂
    (fun ha => by have := hleast ha; omega) (fun ha => by have := hgreatest ha; omega)
  exact ⟨x, rest, by rw [hx]; rfl⟩

/-- The character that four bytes spell, the first of which was read. -/
theorem exists_of_lead_two
    (hlead : lead a = ([], .inside value least greatest 2))
    (hpieces : piecesFrom .between (a :: bytes) = some c :: tail)
    (hrange : 0xF0 ≤ a.toNat ∧ a.toNat ≤ 0xF4 ∧ 0x80 ≤ least.toNat ∧ greatest.toNat ≤ 0xBF)
    (hleast : a.toNat = 0xF0 → 0x90 ≤ least.toNat)
    (hgreatest : a.toNat = 0xF4 → greatest.toNat ≤ 0x8F) :
    ∃ x rest, a :: bytes = String.utf8EncodeChar x ++ rest := by
  rw [piecesFrom_lead hlead] at hpieces
  obtain ⟨b₁, b₂, b₃, rest, rfl, h₁, h₂, h₃⟩ := exists_of_piecesFrom_inside_two hpieces
  obtain ⟨x, hx⟩ := exists_quadruple (And.intro hrange.1 hrange.2.1)
    (⟨by omega, by omega⟩ : 0x80 ≤ b₁.toNat ∧ b₁.toNat ≤ 0xBF) h₂ h₃
    (fun ha => by have := hleast ha; omega) (fun ha => by have := hgreatest ha; omega)
  exact ⟨x, rest, by rw [hx]; rfl⟩

/-- Bytes whose first piece is a character start with the bytes of some character. -/
theorem exists_utf8EncodeChar_append
    (hpieces : piecesFrom .between bytes = some c :: tail) :
    ∃ x rest, bytes = String.utf8EncodeChar x ++ rest := by
  rcases bytes with _ | ⟨a, bytes⟩
  · simp [piecesFrom] at hpieces
  have hlead := lead_eq a
  split at hlead
  · next ha =>
    obtain ⟨x, hx⟩ := exists_single ha
    exact ⟨x, bytes, by rw [hx]; rfl⟩
  split at hlead
  · simp [piecesFrom, feed, hlead] at hpieces
  split at hlead
  · rw [piecesFrom_lead hlead] at hpieces
    obtain ⟨b, rest, rfl, hb⟩ := exists_of_piecesFrom_inside hpieces
    have ha : 0xC2 ≤ a.toNat ∧ a.toNat < 0xE0 := ⟨by omega, by omega⟩
    obtain ⟨x, hx⟩ := exists_pair ha hb
    exact ⟨x, rest, by rw [hx]; rfl⟩
  split at hlead
  · exact exists_of_lead_one hlead hpieces ⟨by omega, by omega, by decide, by decide⟩
      (fun _ => by decide) (fun _ => by omega)
  split at hlead
  · exact exists_of_lead_one hlead hpieces ⟨by omega, by omega, by decide, by decide⟩
      (fun _ => by omega) (fun _ => by decide)
  split at hlead
  · exact exists_of_lead_one hlead hpieces ⟨by omega, by omega, by decide, by decide⟩
      (fun _ => by omega) (fun _ => by omega)
  split at hlead
  · exact exists_of_lead_two hlead hpieces ⟨by omega, by omega, by decide, by decide⟩
      (fun _ => by decide) (fun _ => by omega)
  split at hlead
  · exact exists_of_lead_two hlead hpieces ⟨by omega, by omega, by decide, by decide⟩
      (fun _ => by omega) (fun _ => by omega)
  split at hlead
  · exact exists_of_lead_two hlead hpieces ⟨by omega, by omega, by decide, by decide⟩
      (fun _ => by omega) (fun _ => by decide)
  · simp [piecesFrom, feed, hlead] at hpieces

end Pieces

/-! ## Whole texts -/

/-- The pieces of a text are its characters. -/
theorem pieces_flatMap (chars : List Char) :
    pieces (chars.flatMap String.utf8EncodeChar) = chars.map some := by
  unfold pieces
  induction chars with
  | nil => rfl
  | cons c chars ih => simp [piecesFrom_utf8EncodeChar, ih]

/-- A character that has begun leaves a piece. -/
theorem piecesFrom_inside_ne_nil (value more : Nat) (least greatest : UInt8) (bytes : Bytes) :
    piecesFrom (.inside value least greatest more) bytes ≠ [] := by
  induction bytes generalizing value least greatest more with
  | nil => simp [piecesFrom]
  | cons byte rest ih =>
    by_cases hrange : least.toNat ≤ byte.toNat ∧ byte.toNat ≤ greatest.toNat
    · rcases more with _ | more
      · rw [piecesFrom_inside_zero hrange.1 hrange.2]
        exact List.cons_ne_nil _ _
      · rw [piecesFrom_inside_succ hrange.1 hrange.2]
        exact ih _ _ _ _
    · rw [← UInt8.le_iff_toNat_le, ← UInt8.le_iff_toNat_le] at hrange
      simp [piecesFrom, feed, hrange]

/-- A first byte is a piece by itself, or leaves a character that has begun. -/
theorem lead_eq_or (byte : UInt8) :
    (∃ piece, lead byte = ([piece], .between))
      ∨ ∃ value least greatest more, lead byte = ([], .inside value least greatest more) := by
  unfold lead
  repeat' split
  all_goals simp

/-- Bytes without a piece are none. -/
theorem pieces_eq_nil_iff {bytes : Bytes} : pieces bytes = [] ↔ bytes = [] := by
  refine ⟨fun hpieces => ?_, fun hbytes => by rw [hbytes]; rfl⟩
  rcases bytes with _ | ⟨byte, rest⟩
  · rfl
  · obtain ⟨piece, hlead⟩ | ⟨value, least, greatest, more, hlead⟩ := lead_eq_or byte
    · simp [pieces, piecesFrom, feed, hlead] at hpieces
    · rw [pieces, piecesFrom_lead hlead] at hpieces
      exact absurd hpieces (piecesFrom_inside_ne_nil _ _ _ _ _)

/-- Bytes all of whose pieces are characters are the bytes of those characters. -/
theorem eq_flatMap_of_pieces {chars : List Char} {bytes : Bytes}
    (hpieces : pieces bytes = chars.map some) : bytes = chars.flatMap String.utf8EncodeChar := by
  induction chars generalizing bytes with
  | nil => exact pieces_eq_nil_iff.mp hpieces
  | cons c chars ih =>
    rw [List.map_cons, pieces] at hpieces
    obtain ⟨x, rest, rfl⟩ := exists_utf8EncodeChar_append hpieces
    rw [piecesFrom_utf8EncodeChar, List.cons.injEq, Option.some.injEq] at hpieces
    obtain ⟨rfl, hrest⟩ := hpieces
    rw [List.flatMap_cons, ← ih hrest]

/-- All items are there iff the list is made of items that are there. -/
theorem mapM_id_eq_some_iff {items : List (Option Char)} {chars : List Char} :
    items.mapM id = some chars ↔ items = chars.map some := by
  induction items generalizing chars with
  | nil => cases chars <;> simp
  | cons item items ih =>
    cases chars <;> simp [Option.bind_eq_some_iff, ih]

/-- The bytes that spell a text are those that are written for it. -/
theorem decode?_eq_some_iff {bytes : Bytes} {text : String} :
    decode? bytes = some text ↔ bytes = encode text := by
  unfold decode? encode
  rw [Option.map_eq_some_iff]
  constructor
  · rintro ⟨chars, hchars, rfl⟩
    rw [String.toList_ofList]
    exact eq_flatMap_of_pieces (mapM_id_eq_some_iff.mp hchars)
  · rintro rfl
    exact ⟨text.toList, mapM_id_eq_some_iff.mpr (pieces_flatMap _), String.ofList_toList⟩

/-- A text is read from its bytes. -/
theorem decode?_encode (text : String) : decode? (encode text) = some text :=
  decode?_eq_some_iff.mpr rfl

end Text

end Scaffolding
