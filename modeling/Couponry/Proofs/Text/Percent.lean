import Couponry.Text.Percent

/-!
# Percent-encoding reads back

Whatever is kept, as long as the percent sign is not: decoding gives back the text that was encoded,
so no two texts are encoded alike. `of_mem_encode` says which characters an encoded text is made of.
-/

namespace Couponry.Text.Percent

theorem hexValue_hexDigit {n : Nat} (h : n < 16) : hexValue (hexDigit n) = some n := by
  have all : ∀ n : Fin 16, hexValue (hexDigit n) = some n.val := by decide
  exact all ⟨n, h⟩

theorem isAlphanum_hexDigit {n : Nat} (h : n < 16) : (hexDigit n).isAlphanum = true := by
  have all : ∀ n : Fin 16, (hexDigit n).isAlphanum = true := by decide
  exact all ⟨n, h⟩

/-! ## Bytes -/

theorem bytes_cons_of_ne {c : Char} (h : c ≠ '%') (rest : List Char) :
    bytes (c :: rest) = String.utf8EncodeChar c ++ bytes rest := by
  rw [bytes]
  rintro a b tail rfl
  exact absurd rfl h

theorem bytes_encodeByte (b : UInt8) (rest : List Char) :
    bytes (encodeByte b ++ rest) = b :: bytes rest := by
  have bound : b.toNat < 256 := UInt8.toNat_lt b
  have high : b.toNat / 16 < 16 := by omega
  have low : b.toNat % 16 < 16 := by omega
  have whole : b.toNat / 16 * 16 + b.toNat % 16 = b.toNat := by omega
  simp only [encodeByte, List.cons_append, List.nil_append, bytes, hexValue_hexDigit high,
    hexValue_hexDigit low, whole, UInt8.ofNat_toNat]

theorem bytes_encodeBytes (bs : List UInt8) (rest : List Char) :
    bytes (bs.flatMap encodeByte ++ rest) = bs ++ bytes rest := by
  induction bs with
  | nil => rfl
  | cons b bs ih => rw [List.flatMap_cons, List.append_assoc, bytes_encodeByte, ih, List.cons_append]

/-- The UTF-8 form of a text reads back. -/
theorem ofBytes_utf8 (cs : List Char) :
    ofBytes (cs.flatMap String.utf8EncodeChar) = some (String.ofList cs) := by
  have same : (⟨(cs.flatMap String.utf8EncodeChar).toArray⟩ : ByteArray) = cs.utf8Encode := by
    apply ByteArray.ext
    simp [List.utf8Encode]
  unfold ofBytes String.fromUTF8?
  rw [same, dif_pos ⟨cs, rfl⟩]
  rfl

/-- A text without a percent sign stands for itself. -/
theorem decode_of_plain {cs : List Char} (plain : '%' ∉ cs) :
    decode cs = some (String.ofList cs) := by
  have same : bytes cs = cs.flatMap String.utf8EncodeChar := by
    induction cs with
    | nil => rfl
    | cons c cs ih =>
      rw [List.mem_cons, not_or] at plain
      rw [bytes_cons_of_ne (Ne.symm plain.1), ih plain.2, List.flatMap_cons]
  rw [decode, same, ofBytes_utf8]

/-! ## Texts -/

section Encode

variable {keep : Char → Bool}

/-- An encoded text is made of characters that are kept, percent signs and digits. -/
theorem of_mem_encode {c : Char} {cs : List Char} (h : c ∈ encode keep cs) :
    c ∈ cs ∧ keep c = true ∨ c = '%' ∨ c.isAlphanum = true := by
  obtain ⟨d, inside, member⟩ := List.mem_flatMap.1 h
  unfold encodeChar at member
  split at member
  · next kept =>
    rw [List.mem_singleton.1 member]
    exact .inl ⟨inside, kept⟩
  · obtain ⟨b, -, member⟩ := List.mem_flatMap.1 member
    have bound : b.toNat < 256 := UInt8.toNat_lt b
    simp only [encodeByte, List.mem_cons, List.not_mem_nil, or_false] at member
    rcases member with rfl | rfl | rfl
    · exact .inr (.inl rfl)
    · exact .inr (.inr (isAlphanum_hexDigit (by omega)))
    · exact .inr (.inr (isAlphanum_hexDigit (by omega)))

variable (percent : keep '%' = false)
include percent

theorem bytes_encodeChar (c : Char) (rest : List Char) :
    bytes (encodeChar keep c ++ rest) = String.utf8EncodeChar c ++ bytes rest := by
  unfold encodeChar
  split
  · next kept =>
    refine bytes_cons_of_ne ?_ rest
    rintro rfl
    rw [percent] at kept
    cases kept
  · exact bytes_encodeBytes _ rest

theorem bytes_encode (cs : List Char) :
    bytes (encode keep cs) = cs.flatMap String.utf8EncodeChar := by
  induction cs with
  | nil => rfl
  | cons c cs ih =>
    rw [encode, List.flatMap_cons, bytes_encodeChar percent, List.flatMap_cons]
    exact congrArg _ ih

/-- **What is encoded reads back.** -/
theorem decode_encode (cs : List Char) : decode (encode keep cs) = some (String.ofList cs) := by
  rw [decode, bytes_encode percent, ofBytes_utf8]

/-- No two texts are encoded alike. -/
theorem encode_injective {cs ds : List Char} (h : encode keep cs = encode keep ds) : cs = ds := by
  have same := decode_encode percent cs
  rw [h, decode_encode percent] at same
  exact (String.ofList_injective (Option.some.inj same)).symm

end Encode

end Couponry.Text.Percent
