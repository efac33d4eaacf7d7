import Scaffolding.Text.Utf8.RoundTrip

/-!
# The bytes of a text

* `encode_injective` and `encode_append`: different texts have different
  bytes, and the bytes of two texts follow each other.
* `mem_of_mem_encode`: a byte below 0x80 is the byte of one character only,
  so a text that lacks the character lacks the byte.
* `utf8ByteSize_eq`: the size of a text is the number of its bytes.
-/

namespace Scaffolding.Text

theorem encode_injective {left right : String} (hbytes : encode left = encode right) :
    left = right := by
  have hdecode := congrArg decode? hbytes
  rw [decode?_encode, decode?_encode] at hdecode
  exact Option.some.inj hdecode

theorem encode_append (left right : String) :
    encode (left ++ right) = encode left ++ encode right := by
  unfold encode
  rw [String.toList_append, List.flatMap_append]

theorem utf8ByteSize_eq (text : String) : text.utf8ByteSize = (encode text).length := by
  unfold String.utf8ByteSize encode
  rw [← String.utf8Encode_toList, List.utf8Encode, List.size_toByteArray]

/-- The bytes of the characters that take more than one are all above 0x7F. -/
theorem toNat_eq_of_mem_utf8EncodeChar {c : Char} {byte : UInt8} (hascii : byte.toNat < 0x80)
    (hmem : byte ∈ String.utf8EncodeChar c) : c.toNat = byte.toNat := by
  unfold String.utf8EncodeChar at hmem
  simp only [Char.toNat_val] at hmem
  split at hmem
  · simp [← UInt8.toNat_inj] at hmem
    omega
  · exfalso
    split at hmem
    · simp [← UInt8.toNat_inj] at hmem
      omega
    · split at hmem
      · simp [← UInt8.toNat_inj] at hmem
        omega
      · simp [← UInt8.toNat_inj] at hmem
        omega

theorem mem_of_mem_encode {text : String} {c : Char} {byte : UInt8} (hascii : byte.toNat < 0x80)
    (hbyte : byte.toNat = c.toNat) (hmem : byte ∈ encode text) : c ∈ text.toList := by
  obtain ⟨other, hother, hbytes⟩ := List.mem_flatMap.mp hmem
  have hsame : other = c := by
    rw [← Char.ofNat_toNat other, toNat_eq_of_mem_utf8EncodeChar hascii hbytes, hbyte,
      Char.ofNat_toNat]
  exact hsame ▸ hother

end Scaffolding.Text
