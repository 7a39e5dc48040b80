import ResultSet.Text.Utf8

namespace ResultSet.Text

/-!
# Text is read back from its octets

The reader knows a character by its first octet: the octet gives the highest bits
of the code, says how many octets follow, and bounds the next one where a smaller
or greater one would spell no character.  Each octet that follows gives six more
bits.  The octets of a character are within these bounds, so that the reader comes
to the character whatever it has read before.
-/

namespace Lead

theorem ofNat_two
    {bits : Nat}
    (lower : 2 ≤ bits)
    (upper : bits < 32) :
    ofNat (bits + 0xC0) = .sequence ⟨bits, 1, 0x80, 0xBF⟩ := by
  rw [ofNat, if_neg (by omega), if_neg (by omega), if_pos (by omega), Nat.add_sub_cancel]

/-- Three octets are neither for codes that two hold nor for surrogates. -/
theorem ofNat_three
    {bits : Nat}
    (upper : bits < 16) :
    ofNat (bits + 0xE0) =
      .sequence
        ⟨bits, 2, if bits = 0 then 0xA0 else 0x80, if bits = 0xD then 0x9F else 0xBF⟩ := by
  have forAll : ∀ bits : Fin 16,
      ofNat (bits + 0xE0) =
        .sequence
          ⟨bits, 2, if bits.val = 0 then 0xA0 else 0x80,
            if bits.val = 0xD then 0x9F else 0xBF⟩ := by
    decide
  exact forAll ⟨bits, upper⟩

/-- Four octets are neither for codes that three hold nor for codes beyond the last one. -/
theorem ofNat_four
    {bits : Nat}
    (upper : bits < 5) :
    ofNat (bits + 0xF0) =
      .sequence
        ⟨bits, 3, if bits = 0 then 0x90 else 0x80, if bits = 4 then 0x8F else 0xBF⟩ := by
  have forAll : ∀ bits : Fin 5,
      ofNat (bits + 0xF0) =
        .sequence
          ⟨bits, 3, if bits.val = 0 then 0x90 else 0x80,
            if bits.val = 4 then 0x8F else 0xBF⟩ := by
    decide
  exact forAll ⟨bits, upper⟩

end Lead

namespace Decoder

variable {reversed : List Char} {bits code missing lowest highest : Nat}

theorem toNat_octet
    (small : bits < 256) :
    (UInt8.ofNat bits).toNat = bits :=
  UInt8.toNat_ofNat_of_lt' small

theorem feed_character
    (small : code < 0x80) :
    feed ⟨none, reversed⟩ (UInt8.ofNat code) = ⟨none, Char.ofNat code :: reversed⟩ := by
  simp only [feed, start, toNat_octet (Nat.lt_trans small (by decide)), Lead.ofNat, small,
    ↓reduceIte]

theorem feed_lead
    {pending : Pending}
    (small : bits < 256)
    (opens : Lead.ofNat bits = .sequence pending) :
    feed ⟨none, reversed⟩ (UInt8.ofNat bits) = ⟨some pending, reversed⟩ := by
  simp only [feed, start, toNat_octet small, opens]

/-- An octet that is not the last one of its character adds its bits. -/
theorem feed_between
    (small : bits < 64)
    (lower : lowest ≤ bits + 0x80)
    (upper : bits + 0x80 ≤ highest) :
    feed ⟨some ⟨code, missing + 2, lowest, highest⟩, reversed⟩ (UInt8.ofNat (bits + 0x80)) =
      ⟨some ⟨64 * code + bits, missing + 1, 0x80, 0xBF⟩, reversed⟩ := by
  have goesOn : missing + 2 ≠ 1 := by omega
  simp only [feed, toNat_octet (show bits + 0x80 < 256 by omega), lower, upper, goesOn,
    and_self, ↓reduceIte, Nat.add_sub_cancel, Nat.add_succ_sub_one]

/-- The last octet of a character completes it. -/
theorem feed_last
    (small : bits < 64)
    (lower : lowest ≤ bits + 0x80)
    (upper : bits + 0x80 ≤ highest) :
    feed ⟨some ⟨code, 1, lowest, highest⟩, reversed⟩ (UInt8.ofNat (bits + 0x80)) =
      ⟨none, Char.ofNat (64 * code + bits) :: reversed⟩ := by
  simp only [feed, toNat_octet (show bits + 0x80 < 256 by omega), lower, upper, and_self,
    ↓reduceIte, Nat.add_sub_cancel]

theorem foldl_feed_two
    (lower : 0x80 ≤ code)
    (upper : code < 0x800) :
    [UInt8.ofNat (code / 64 % 0x20 + 0xC0), UInt8.ofNat (code % 0x40 + 0x80)].foldl feed
        ⟨none, reversed⟩ =
      ⟨none, Char.ofNat code :: reversed⟩ := by
  have isLower : 2 ≤ code / 64 % 0x20 := by omega
  have leads := Lead.ofNat_two isLower (by omega)
  have together : 64 * (code / 64 % 0x20) + code % 0x40 = code := by omega
  rw [List.foldl_cons, feed_lead (by omega) leads, List.foldl_cons,
    feed_last (by omega) (by omega) (by omega), List.foldl_nil, together]

theorem foldl_feed_three
    (lower : 0x800 ≤ code)
    (upper : code < 0x10000)
    (isValid : code < 0xD800 ∨ 0xDFFF < code) :
    [UInt8.ofNat (code / 4096 % 0x10 + 0xE0), UInt8.ofNat (code / 64 % 0x40 + 0x80),
        UInt8.ofNat (code % 0x40 + 0x80)].foldl feed ⟨none, reversed⟩ =
      ⟨none, Char.ofNat code :: reversed⟩ := by
  have isUpper : code / 4096 % 0x10 < 16 := by omega
  have leads := Lead.ofNat_three isUpper
  have together :
      64 * (64 * (code / 4096 % 0x10) + code / 64 % 0x40) + code % 0x40 = code := by
    omega
  rw [List.foldl_cons, feed_lead (by omega) leads, List.foldl_cons,
    feed_between (by omega) (by split <;> omega) (by split <;> omega), List.foldl_cons,
    feed_last (by omega) (by omega) (by omega), List.foldl_nil, together]

theorem foldl_feed_four
    (lower : 0x10000 ≤ code)
    (upper : code < 0x110000) :
    [UInt8.ofNat (code / 262144 % 0x08 + 0xF0), UInt8.ofNat (code / 4096 % 0x40 + 0x80),
        UInt8.ofNat (code / 64 % 0x40 + 0x80), UInt8.ofNat (code % 0x40 + 0x80)].foldl feed
        ⟨none, reversed⟩ =
      ⟨none, Char.ofNat code :: reversed⟩ := by
  have isUpper : code / 262144 % 0x08 < 5 := by omega
  have leads := Lead.ofNat_four isUpper
  have together :
      64 * (64 * (64 * (code / 262144 % 0x08) + code / 4096 % 0x40) + code / 64 % 0x40) +
        code % 0x40 = code := by
    omega
  rw [List.foldl_cons, feed_lead (by omega) leads, List.foldl_cons,
    feed_between (by omega) (by split <;> omega) (by split <;> omega), List.foldl_cons,
    feed_between (by omega) (by omega) (by omega), List.foldl_cons,
    feed_last (by omega) (by omega) (by omega), List.foldl_nil, together]

/-- The octets of a character come to the character, in each of the four lengths. -/
theorem foldl_feed_utf8EncodeChar
    (character : Char)
    (reversed : List Char) :
    (String.utf8EncodeChar character).foldl feed ⟨none, reversed⟩ =
      ⟨none, character :: reversed⟩ := by
  have isCode : character.val.toNat = character.toNat := rfl
  have isValid :
      character.toNat < 0xD800 ∨ 0xDFFF < character.toNat ∧ character.toNat < 0x110000 :=
    character.valid
  simp only [String.utf8EncodeChar, isCode]
  conv => rhs; rw [← Char.ofNat_toNat character]
  split
  · exact feed_character (by omega)
  · split
    · exact foldl_feed_two (by omega) (by omega)
    · split
      · exact foldl_feed_three (by omega) (by omega) (by omega)
      · exact foldl_feed_four (by omega) (by omega)

theorem foldl_feed_encoded
    (characters reversed : List Char) :
    (characters.flatMap String.utf8EncodeChar).foldl feed ⟨none, reversed⟩ =
      ⟨none, characters.reverse ++ reversed⟩ := by
  -- What was read before is generalized, for the reader goes from left to right.
  induction characters generalizing reversed with
  | nil => rfl
  | cons first rest inductionHypothesis =>
      rw [List.flatMap_cons, List.foldl_append, foldl_feed_utf8EncodeChar,
        inductionHypothesis, List.reverse_cons, List.append_assoc]
      rfl

end Decoder

/-- The octets of a text spell the text. -/
theorem decode_encode (text : String) : decode (encode text) = text := by
  rw [decode, characters, encode, Decoder.initial, Decoder.foldl_feed_encoded, List.append_nil,
    Decoder.finish, List.reverse_reverse, String.ofList_toList]

/-- Digits are sent in an octet each. -/
theorem length_encode_of_digits
    {text : String}
    (areDigits : ∀ digit ∈ text.toList, digit.isDigit = true) :
    (encode text).length = text.toList.length := by
  have oneOctet : ∀ digit ∈ text.toList, (String.utf8EncodeChar digit).length = 1 := by
    intro digit member
    have isDigit := areDigits digit member
    simp only [Char.isDigit, Bool.and_eq_true, decide_eq_true_eq] at isDigit
    have upTo9 : digit.val.toNat ≤ 57 := UInt32.le_iff_toNat_le.mp isDigit.2
    rw [String.utf8EncodeChar, if_pos (by omega)]
    rfl
  rw [encode, List.length_flatMap, List.map_congr_left oneOctet, List.map_const',
    List.sum_replicate_nat, Nat.mul_one]

end ResultSet.Text
