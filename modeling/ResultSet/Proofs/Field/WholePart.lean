import ResultSet.Proofs.Field.Narrowing
import ResultSet.Proofs.Number.Widening

namespace ResultSet

/-!
# Whole numbers from packed floating-point values

A packed floating-point value of a column is a bit pattern of the format of its type, and
the pattern denotes a rational number unless it is an infinity or no number at all.  The
whole number of the field is what is left of the rational number toward zero.  On its way
it is held at full width, where a greater number becomes the greatest one that there is;
such a number fits no width that can be asked for, so that it overflows either way.
-/

/-! ## The full width -/

/-- A number as the full width holds it. -/
def saturated (number : Int) : Int :=
  max leastFullWidth (min number greatestFullWidth)

namespace IntegerWidth

variable {width : IntegerWidth} {number : Int}

theorem saturated_eq_of_fits (fits : width.fits number = true) : saturated number = number := by
  have within : leastFullWidth ≤ number ∧ number < 2 ^ (fullWidth - 1) :=
    of_decide_eq_true (fitsSigned_fullWidth_of_fits fits)
  rw [saturated, greatestFullWidth]
  omega

/-- What fits a width is far from the ends of the full width. -/
theorem saturated_eq_of_fits_saturated
    (fits : width.fits (saturated number) = true) :
    saturated number = number := by
  have within : -2 ^ 63 ≤ saturated number ∧ saturated number < 2 ^ 63 :=
    of_decide_eq_true (fits_long_of_fits fits)
  rw [saturated, leastFullWidth, greatestFullWidth, fullWidth] at within ⊢
  omega

/-- Held at full width, a number fits the same widths. -/
theorem fits_saturated : width.fits (saturated number) = width.fits number := by
  rw [Bool.eq_iff_iff]
  constructor
  · intro fits
    rw [saturated_eq_of_fits_saturated fits] at fits
    exact fits
  · intro fits
    rw [saturated_eq_of_fits fits, fits]

end IntegerWidth

/-- The whole part of a number is held at full width. -/
theorem BinaryNumber.wholePart_eq (number : BinaryNumber) :
    number.wholePart =
      match number.rational? with
      | some rational => .ok (saturated (towardZero rational))
      | none => .error (.notFinite number) := by
  rw [wholePart, number.truncated?_eq]
  cases number.rational? with
  | some rational => rfl
  | none => rfl

namespace FloatField

/-- What is left of a number is judged by the sign of the column and by the width. -/
theorem judged_whole
    (shape : Shape)
    (width : IntegerWidth)
    (number : BinaryNumber) :
    judged (whole shape width number) =
      match number.rational? with
      | some rational =>
          if width.fits (towardZero rational) ∧
              (0 ≤ towardZero rational ∨ shape.isSigned) then
            .ok (towardZero rational)
          else
            .error .overflow
      | none => .error .overflow := by
  rw [whole_eq, signedWhole, bind_assoc, number.wholePart_eq]
  cases number.rational? with
  | none => rfl
  | some rational =>
      have judgement := shape.judged_checkSign_narrow width (saturated (towardZero rational))
      rw [IntegerWidth.fits_saturated] at judgement
      refine judgement.trans ?_
      by_cases fits : width.fits (towardZero rational) = true
      · rw [IntegerWidth.saturated_eq_of_fits fits]
      · simp only [fits, false_and, Bool.false_eq_true, ↓reduceIte]

/-- The double of a pattern is the same number. -/
theorem Pattern.rational?_toDouble (pattern : Pattern) :
    pattern.toDouble.number.rational? = pattern.number.rational? := by
  cases pattern with
  | single value => exact Double.rational?_ofSingle value
  | double value => rfl

end FloatField

/-! ## Packed values -/

/-- The format of the packed values of a type. -/
def ServerType.packedFormat? : ServerType → Option BinaryFormat
  | .float => some .single
  | .double => some .double
  | _ => none

theorem ServerType.precision_pos
    {type : ServerType}
    {format : BinaryFormat}
    (hasFormat : type.packedFormat? = some format) :
    0 < format.precision := by
  cases type with
  | float | double =>
      cases hasFormat
      decide
  | _ => cases hasFormat

/-- How many octets a bit pattern has. -/
def BinaryFormat.octetCount (format : BinaryFormat) : Nat :=
  (format.precision + format.exponentWidth) / 8

namespace FloatField

variable {shape : Shape} {format : BinaryFormat} {octets : Octets}
  (hasFormat : shape.type.packedFormat? = some format)

include hasFormat

/-- The octets of a packed value are those of a bit pattern. -/
theorem exists_pattern
    (exact : octets.length = format.octetCount)
    (offset : Option ZoneOffset) :
    ∃ pattern : Pattern,
      pattern.number = format.unpack (Octets.littleEndian octets) ∧
        ∀ target, target ≠ .bytes →
          (shape.reader ⟨.binary, offset⟩ target octets.length).interpret octets =
            present shape pattern target := by
  have bound := Octets.littleEndian_lt octets
  rw [exact] at bound ⊢
  rcases shape with ⟨collation, columnLength, type, flags, decimals⟩
  cases type with
  | float =>
      cases hasFormat
      refine ⟨.single (Single.ofBits (Octets.littleEndian octets)), Single.number_ofBits bound,
        fun target served => ?_⟩
      cases target with
      | bytes => exact absurd rfl served
      | _ => rfl
  | double =>
      cases hasFormat
      refine ⟨.double (Double.ofBits (Octets.littleEndian octets)), Double.number_ofBits bound,
        fun target served => ?_⟩
      cases target with
      | bytes => exact absurd rfl served
      | _ => rfl
  | _ => cases hasFormat

end FloatField

/--
A packed floating-point value is read as the double of the number that it denotes.  As a
whole number it is what is left of that number toward zero, if it fits the width and the
column has its sign.  Otherwise it overflows, and so do the values that denote no number.
-/
theorem packed_values_are_truncated_exactly
    {column : Column}
    {format : BinaryFormat}
    (hasFormat : column.shape.type.packedFormat? = some format)
    (offset : Option ZoneOffset)
    (width : IntegerWidth)
    {octets : Octets}
    (exact : octets.length = format.octetCount)
    {start : Cursor}
    (next : octets <+: start.rest) :
    (∃ value : Double,
        (column.decode ⟨.binary, offset⟩ .double octets.length).verdict start =
            .ok (.double value) ∧
          value.number.rational? = format.denoted? (Octets.littleEndian octets)) ∧
      (column.decode ⟨.binary, offset⟩ (.integer width) octets.length).verdict start =
        match format.denoted? (Octets.littleEndian octets) with
        | some number =>
            if width.fits (towardZero number) ∧
                (0 ≤ towardZero number ∨ column.shape.isSigned) then
              .ok (.integer width (towardZero number))
            else
              .error (.value .overflow)
        | none => .error (.value .overflow) := by
  have hasBits : 0 < format.precision := ServerType.precision_pos hasFormat
  have doubleHeeds : column.shape.ignoresLength ⟨.binary, offset⟩ .double = false := by
    simp [Shape.ignoresLength]
  obtain ⟨pattern, isPattern, presents⟩ := FloatField.exists_pattern hasFormat exact offset
  constructor
  · refine ⟨pattern.toDouble, ?_, ?_⟩
    · rw [Column.verdict_decode_of_next doubleHeeds next, presents .double (by decide)]
      rfl
    · rw [pattern.rational?_toDouble, isPattern, format.rational?_unpack hasBits]
  · rw [Column.verdict_decode_of_next (Column.heedsLength_integer width) next,
      presents (.integer width) (by simp), FloatField.present, FloatField.judged_whole,
      isPattern, format.rational?_unpack hasBits]
    cases format.denoted? (Octets.littleEndian octets) with
    | none => rfl
    | some number =>
        dsimp only
        split
        · rfl
        · rfl

/-- The least long number is read from its double, and it overflows where it does not fit. -/
theorem least_long_is_read_from_its_double :
    let column := Column.generated "balance" .double 22 0
    let octets : Octets := [0, 0, 0, 0, 0, 0, 0xE0, 0xC3]
    let start := Cursor.ofPacket octets
    column.shape.type.packedFormat? = some .double ∧
      octets.length = BinaryFormat.double.octetCount ∧
      octets <+: start.rest ∧
      BinaryFormat.double.denoted? (Octets.littleEndian octets) = some (-2 ^ 63) ∧
      (column.decode ⟨.binary, none⟩ (.integer .long) 8).verdict start =
        .ok (.integer .long (-2 ^ 63)) ∧
      (column.decode ⟨.binary, none⟩ (.integer .int) 8).verdict start =
        .error (.value .overflow) := by
  intro column octets start
  have hasFormat : column.shape.type.packedFormat? = some .double := rfl
  have exact : octets.length = BinaryFormat.double.octetCount := rfl
  have next : octets <+: start.rest := List.prefix_refl start.rest
  have isLeast :
      BinaryFormat.double.denoted? (Octets.littleEndian octets) = some (-2 ^ 63) := by
    decide +kernel
  have isWhole : towardZero (-2 ^ 63) = -2 ^ 63 := by decide +kernel
  have long := (packed_values_are_truncated_exactly hasFormat none .long exact next).2
  have int := (packed_values_are_truncated_exactly hasFormat none .int exact next).2
  simp only [isLeast, isWhole] at long int
  exact ⟨hasFormat, exact, next, isLeast, long.trans (if_pos (by decide)),
    int.trans (if_neg (by decide))⟩

end ResultSet
