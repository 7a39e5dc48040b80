import Mathlib.Data.List.TakeWhile
import ResultSet.Proofs.Field.Narrowing
import ResultSet.Proofs.Field.Verdict
import ResultSet.Proofs.Number.Positional

namespace ResultSet

/-!
# Bit strings as numbers

A bit string is sent in octets of any number and shown in several representations.
All of them present one number, the one that the octets spell with the most
significant octet first.  So zeros in front, of which there may be any number, make no
difference to any of them, and nothing but zeros in front can be changed without
changing the number.
-/

namespace BitField

/-- The representations that present the number of a bit string. -/
def numberTargets : List Target :=
  [.boolean, .integer .byte, .integer .short, .integer .int, .integer .long, .text, .decimal]

/-- Binary digits that spell a number without a zero in front, so that zero has no digits. -/
structure IsBinaryNumeral (number : Nat) (digits : List Char) : Prop where
  binary : ∀ digit ∈ digits, digit = '0' ∨ digit = '1'
  noZeroInFront : digits.head? ≠ some '0'
  zero : digits = [] ↔ number = 0
  readBack : Nat.ofDigitChars 2 digits 0 = number

/-- What a column of bit strings makes of a number in each representation that presents it. -/
structure Presents
    (number : Nat)
    (verdict : Target → Except FaultCategory Value) :
    Prop where
  decimal : verdict .decimal = .ok (.decimal ⟨number, 0⟩)
  boolean : verdict .boolean = .ok (.boolean (decide (number ≠ 0)))
  /-- A byte is the octet of the number as a two's complement number. -/
  byte :
    verdict (.integer .byte) =
      if number ≤ 255 then .ok (.integer .byte ((number : Int).bmod 256))
      else .error (.value .overflow)
  wider :
    ∀ width, width ≠ .byte →
      verdict (.integer width) =
        if number < 2 ^ (width.bits - 1) then .ok (.integer width number)
        else .error (.value .overflow)
  text :
    ∃ digits,
      IsBinaryNumeral number digits ∧
        verdict .text = .ok (.text ("b'" ++ String.ofList digits ++ "'"))

/-! ## Bits and digits -/

/-- The bits of an octet, as digits. -/
def bitDigits (octet : UInt8) : List Nat :=
  (octetBits octet).map Bool.toNat

theorem spelled_bitDigits (octet : UInt8) :
    Positional.spelled 2 (bitDigits octet) = octet.toNat := by
  have each : ∀ number < 256,
      Positional.spelled 2
          ([7, 6, 5, 4, 3, 2, 1, 0].map fun place => (number.testBit place).toNat) =
        number := by
    decide +kernel
  rw [bitDigits, octetBits, List.map_map]
  exact each octet.toNat octet.toNat_lt

/-- The bits of octets spell the number that the octets spell. -/
theorem spelled_flatMap_bitDigits (octets : Octets) :
    Positional.spelled 2 (octets.flatMap bitDigits) =
      Positional.spelled 256 (octets.map UInt8.toNat) := by
  induction octets with
  | nil => rfl
  | cons octet rest inductionHypothesis =>
      have places : (rest.flatMap bitDigits).length = 8 * rest.length := by
        simp [List.length_flatMap, bitDigits, octetBits, Nat.mul_comm]
      have front : Positional.spelled 256 [octet.toNat] = octet.toNat := by
        simp [Positional.spelled]
      rw [List.flatMap_cons, Positional.spelled_append, spelled_bitDigits, places,
        inductionHypothesis, List.map_cons, ← List.singleton_append,
        Positional.spelled_append, front, List.length_map, Nat.pow_mul]

theorem bitDigits_lt (octets : Octets) : ∀ bit ∈ octets.flatMap bitDigits, bit < 2 := by
  intro bit member
  obtain ⟨octet, -, isBit⟩ := List.mem_flatMap.mp member
  obtain ⟨isSet, -, rfl⟩ := List.mem_map.mp isBit
  exact Bool.toNat_lt isSet

/-- The digits of bits, without the zeros in front. -/
def strippedDigits (bits : List Nat) : List Char :=
  (bits.dropWhile (· == 0)).map Nat.digitChar

theorem isBinaryNumeral_strippedDigits
    {bits : List Nat}
    (areBits : ∀ bit ∈ bits, bit < 2) :
    IsBinaryNumeral (Positional.spelled 2 bits) (strippedDigits bits) := by
  have strippedBits : ∀ bit ∈ bits.dropWhile (· == 0), bit = 0 ∨ bit = 1 := by
    intro bit member
    have isBit := areBits bit (List.dropWhile_subset _ member)
    omega
  refine ⟨?_, ?_, ?_, ?_⟩
  · intro digit member
    obtain ⟨bit, isBit, rfl⟩ := List.mem_map.mp member
    rcases strippedBits bit isBit with rfl | rfl
    · exact .inl rfl
    · exact .inr rfl
  · intro zeroInFront
    rw [strippedDigits, List.head?_map] at zeroInFront
    obtain ⟨bit, inFront, isZero⟩ := Option.map_eq_some_iff.mp zeroInFront
    have notZero := List.head?_dropWhile_not (· == 0) bits
    rw [inFront] at notZero
    rcases strippedBits bit (List.mem_of_head? inFront) with rfl | rfl
    · cases notZero
    · cases isZero
  · have isZero :
        Positional.spelled 2 bits = Positional.spelled 2 [] ↔ bits.dropWhile (· == 0) = [] :=
      Positional.spelled_eq_iff (by decide) areBits (by simp)
    rw [strippedDigits, List.map_eq_nil_iff]
    exact isZero.symm
  · rw [Nat.ofDigitChars_eq_foldl, strippedDigits, List.foldl_map,
      ← Positional.spelled_dropWhile_zero]
    refine List.foldl_ext _ _ 0 fun number bit member => ?_
    rcases strippedBits bit member with rfl | rfl <;> rfl

/-- The literal of a bit string shows the digits of its bits. -/
theorem literal_eq (octets : Octets) :
    literal octets =
      "b'" ++ String.ofList (strippedDigits (octets.flatMap bitDigits)) ++ "'" := by
  have bits : octets.flatMap bitDigits = (octets.flatMap octetBits).map Bool.toNat := by
    rw [List.map_flatMap]
    rfl
  have sameZeros : ((· == 0) ∘ Bool.toNat) = (· == false) := by
    funext isSet
    cases isSet <;> rfl
  have sameDigits :
      Nat.digitChar ∘ Bool.toNat = fun isSet : Bool => if isSet then '1' else '0' := by
    funext isSet
    cases isSet <;> rfl
  rw [literal, strippedDigits, bits, List.dropWhile_map, sameZeros, List.map_map, sameDigits]

/-! ## What the number decides -/

theorem any_ne_zero (octets : Octets) :
    octets.any (· != 0) = decide (octets.bigEndian ≠ 0) := by
  have isZero : octets.bigEndian = Octets.bigEndian [] ↔ octets.dropWhile (· == 0) = [] :=
    Octets.bigEndian_eq_iff
  have none : Octets.bigEndian [] = 0 := rfl
  rw [Bool.eq_iff_iff, decide_eq_true_iff, ← none, Ne, isZero, List.dropWhile_eq_nil_iff,
    List.any_eq_true]
  simp

theorem spelled_bits (octets : Octets) :
    Positional.spelled 2 (octets.flatMap bitDigits) = octets.bigEndian := by
  rw [spelled_flatMap_bitDigits, Octets.bigEndian, Positional.value_eq_spelled]

/-- Octets that spell one number are the same in every representation that presents it. -/
theorem interpret_eq_of_bigEndian_eq
    {shape : Shape}
    {first second : Octets}
    (sameNumber : first.bigEndian = second.bigEndian)
    {target : Target}
    (presentsNumber : target ∈ numberTargets) :
    interpret shape first target = interpret shape second target := by
  cases target with
  | boolean => rw [interpret, interpret, any_ne_zero, any_ne_zero, sameNumber]
  | integer width => rw [interpret, interpret, sameNumber]
  | decimal => rw [interpret, interpret, sameNumber]
  | text =>
      have sameBits := sameNumber
      rw [← spelled_bits, ← spelled_bits,
        Positional.spelled_eq_iff (by decide) (bitDigits_lt first) (bitDigits_lt second)]
        at sameBits
      rw [interpret, interpret, literal_eq, literal_eq, strippedDigits, strippedDigits, sameBits]
  | single | double | bytes | natural => simp [numberTargets] at presentsNumber

/-- An octet's number is reinterpreted by going back a full turn from half of it on. -/
theorem signedOctet_eq_bmod
    {number : Nat}
    (isOctet : number < 256) :
    signedOctet number = (number : Int).bmod 256 := by
  rw [signedOctet, Int.bmod_def]
  split <;> split <;> omega

theorem judged_narrow_byte (number : Nat) :
    judged (narrow .byte number) =
      if number ≤ 255 then .ok ((number : Int).bmod 256) else .error .overflow := by
  by_cases isOctet : number < 256
  · rw [narrow, if_pos isOctet, signedOctet_eq_bmod isOctet, if_pos (Nat.le_of_lt_succ isOctet)]
    rfl
  · rw [narrow, if_neg isOctet, if_neg fun few => isOctet (Nat.lt_succ_of_le few)]
    rfl

/--
Taking a number at the widest width first decides nothing: what does not fit the widest
width fits no other, and is refused in the name of the same width.
-/
theorem narrow_asLong
    (width : IntegerWidth)
    (number : Nat) :
    (asLong width number >>= width.narrow) = width.narrow number := by
  rw [asLong]
  split
  · rfl
  · rename_i tooWide
    exact (if_neg fun fits => tooWide (IntegerWidth.fits_long_of_fits fits)).symm

/-- Above the width of an octet the number of a bit string is narrowed as any other. -/
theorem narrow_eq
    {width : IntegerWidth}
    (isWider : width ≠ .byte)
    (number : Nat) :
    narrow width number = width.narrow number := by
  cases width with
  | byte => exact absurd rfl isWider
  | short => exact narrow_asLong .short number
  | int => exact narrow_asLong .int number
  | long => rfl

/-- Above the width of an octet it is the number that must fit. -/
theorem judged_narrow_wider
    {width : IntegerWidth}
    (isWider : width ≠ .byte)
    (number : Nat) :
    judged (narrow width number) =
      if number < 2 ^ (width.bits - 1) then .ok (number : Int) else .error .overflow := by
  have fits : width.fits number = true ↔ number < 2 ^ (width.bits - 1) := by
    have notNegative : -2 ^ (width.bits - 1) ≤ (number : Int) := by
      have power : (0 : Int) ≤ 2 ^ (width.bits - 1) := Int.pow_nonneg (by decide)
      omega
    rw [IntegerWidth.fits, Numeral.fitsSigned, decide_eq_true_iff, and_iff_right notNegative]
    exact_mod_cast Iff.rfl
  rw [narrow_eq isWider, IntegerWidth.narrow]
  by_cases small : number < 2 ^ (width.bits - 1)
  · rw [if_pos (fits.mpr small), if_pos small]
    rfl
  · rw [if_neg (mt fits.mp small), if_neg small]
    rfl

end BitField

namespace Column

variable {column : Column}

theorem heedsLength_of_isBit
    (isBit : column.shape.type.family = .bit)
    (encoding : Encoding)
    (target : Target) :
    column.shape.ignoresLength encoding target = false :=
  Shape.heedsLength_of_not_float (by rw [isBit]; decide) encoding target

/-- A bit string comes to the same for its octets in both protocols. -/
theorem outcome_decode_bits
    (isBit : column.shape.type.family = .bit)
    (encoding : Encoding)
    (target : Target)
    {payload : Octets}
    {start : Cursor}
    (next : payload <+: start.rest) :
    (column.decode encoding target payload.length).outcome start =
      ((BitField.interpret column.shape payload target).map target.toValue).mapError
        Fault.value := by
  rw [outcome_decode_of_heeding (heedsLength_of_isBit isBit encoding target) next,
    Shape.reader, isBit]
  rfl

theorem verdict_decode_bits
    (isBit : column.shape.type.family = .bit)
    (encoding : Encoding)
    (target : Target)
    {payload : Octets}
    {start : Cursor}
    (next : payload <+: start.rest) :
    (column.decode encoding target payload.length).verdict start =
      ((judged (BitField.interpret column.shape payload target)).map
        target.toValue).mapError .value := by
  rw [verdict_decode_of_next (heedsLength_of_isBit isBit encoding target) next,
    Shape.reader, isBit]
  rfl

theorem presents_bigEndian
    (isBit : column.shape.type.family = .bit)
    (encoding : Encoding)
    {payload : Octets}
    {start : Cursor}
    (next : payload <+: start.rest) :
    BitField.Presents payload.bigEndian fun target =>
      (column.decode encoding target payload.length).verdict start where
  decimal := by
    rw [verdict_decode_bits isBit encoding .decimal next]
    rfl
  boolean := by
    rw [verdict_decode_bits isBit encoding .boolean next, BitField.interpret,
      BitField.any_ne_zero]
    rfl
  byte := by
    rw [verdict_decode_bits isBit encoding (.integer .byte) next, BitField.interpret,
      BitField.judged_narrow_byte]
    split <;> rfl
  wider width isWider := by
    rw [verdict_decode_bits isBit encoding (.integer width) next, BitField.interpret,
      BitField.judged_narrow_wider isWider]
    split <;> rfl
  text := by
    have isNumeral :=
      BitField.isBinaryNumeral_strippedDigits (BitField.bitDigits_lt payload)
    rw [BitField.spelled_bits] at isNumeral
    refine ⟨_, isNumeral, ?_⟩
    rw [verdict_decode_bits isBit encoding .text next, BitField.interpret,
      BitField.literal_eq]
    rfl

end Column

/--
A bit string of any length presents the number that its octets spell: as a decimal
fraction and as a truth value always, as a whole number when the width has room for it
(a byte for its bits), and as a literal of its binary digits.  Two bit strings come to
the same in all these representations exactly when they are the same but for octets of
zeros in front.
-/
theorem bit_string_presents_one_number
    {column : Column}
    (isBit : column.shape.type.family = .bit)
    (encoding : Encoding)
    {payload : Octets}
    {start : Cursor}
    (next : payload <+: start.rest) :
    let verdict := fun target =>
      (column.decode encoding target payload.length).verdict start
    BitField.Presents (Nat.ofDigits 256 (payload.reverse.map UInt8.toNat)) verdict ∧
      ∀ (otherEncoding : Encoding) (other : Octets) (place : Cursor),
        other <+: place.rest →
          ((∀ target ∈ BitField.numberTargets,
              (column.decode encoding target payload.length).outcome start =
                (column.decode otherEncoding target other.length).outcome place) ↔
            payload.dropWhile (· == 0) = other.dropWhile (· == 0)) := by
  intro verdict
  refine ⟨?_, fun otherEncoding other place otherNext => ?_⟩
  · rw [← Octets.bigEndian_eq_ofDigits]
    exact Column.presents_bigEndian isBit encoding next
  · rw [← Octets.bigEndian_eq_iff]
    constructor
    · intro agree
      have sameDecimal := agree .decimal (by decide)
      rw [Column.outcome_decode_bits isBit encoding _ next,
        Column.outcome_decode_bits isBit otherEncoding _ otherNext] at sameDecimal
      have sameFraction := Value.decimal.inj (Except.ok.inj sameDecimal)
      exact Int.ofNat_inj.mp (congrArg Decimal.unscaled sameFraction)
    · intro sameNumber target presentsNumber
      rw [Column.outcome_decode_bits isBit encoding _ next,
        Column.outcome_decode_bits isBit otherEncoding _ otherNext,
        BitField.interpret_eq_of_bigEndian_eq sameNumber presentsNumber]

/-- Ten octets that spell 129 are the same as one of them in the other protocol. -/
theorem ten_octets_present_129 :
    let column := Column.generated "flags" .bit 80 0
    let payload : Octets := [0, 0, 0, 0, 0, 0, 0, 0, 0, 0x81]
    let start := Cursor.ofPacket payload
    let place := Cursor.ofPacket [0x81]
    BitField.Presents 129 (fun target =>
        (column.decode ⟨.binary, none⟩ target payload.length).verdict start) ∧
      ∀ target ∈ BitField.numberTargets,
        (column.decode ⟨.binary, none⟩ target payload.length).outcome start =
          (column.decode ⟨.text, none⟩ target 1).outcome place := by
  intro column payload start place
  have isBit : column.shape.type.family = .bit := rfl
  have next : payload <+: start.rest := List.prefix_refl payload
  have otherNext : [0x81] <+: place.rest := List.prefix_refl [0x81]
  have isNumber : Nat.ofDigits 256 (payload.reverse.map UInt8.toNat) = 129 := by decide
  obtain ⟨presents, agrees⟩ := bit_string_presents_one_number isBit ⟨.binary, none⟩ next
  rw [isNumber] at presents
  exact ⟨presents, (agrees ⟨.text, none⟩ [0x81] place otherNext).mpr (by decide)⟩

end ResultSet
