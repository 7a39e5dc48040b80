import ResultSet.Proofs.Field.Narrowing
import ResultSet.Proofs.Number.Decimal
import ResultSet.Proofs.Text.Utf8

namespace ResultSet

/-!
# Whole numbers from decimal fractions

Fields of decimal fractions and of characters have whole numbers of the digits before the
point, of which there may be any number.  Two failures are told apart: a number that no
width holds is inexact, and any other one that is not to be had overflows.  A fraction
between minus one and zero is zero, and so it is to be had without a sign, too.
-/

namespace DecimalLiteral

variable (literal : DecimalLiteral)

/-- The text of a literal. -/
def text : String :=
  String.ofList literal.characters

/-- The octets of a literal. -/
def octets : Octets :=
  Text.encode literal.text

/--
Whether the places of a literal can be counted in a word of 64 bits.  There is not the
memory for a literal of which they cannot.
-/
def HasScale : Prop :=
  Numeral.fitsSigned 64 literal.places.length = true

instance : Decidable literal.HasScale := by
  unfold HasScale
  infer_instance

variable {literal : DecimalLiteral} (hasScale : literal.HasScale)

include hasScale

theorem parseDecimal_text (label : String) :
    parseDecimal literal.text label = .ok literal.decimal := by
  rw [parseDecimal, text, String.toList_ofList, literal.trim_characters,
    literal.ofLiteral?_characters hasScale]

theorem truncatedWhole_text
    (shape : Shape)
    (width : IntegerWidth) :
    CharacterField.truncatedWhole shape width literal.text =
      if IntegerWidth.long.fits literal.truncated then
        shape.checkSign literal.truncated
      else
        .error (.inexact literal.text) := by
  rw [CharacterField.truncatedWhole, parseDecimal_text hasScale]
  change wholePart literal.decimal literal.text >>= shape.checkSign = _
  rw [wholePart, literal.truncated_decimal]
  split <;> rfl

/-- The number is looked at thrice: for the widest width, for its sign, and for its width. -/
theorem judged_narrowed
    (shape : Shape)
    (width : IntegerWidth) :
    judged (CharacterField.truncatedWhole shape width literal.text >>= width.narrow) =
      if width.fits literal.truncated ∧ (0 ≤ literal.truncated ∨ shape.isSigned) then
        .ok literal.truncated
      else if IntegerWidth.long.fits literal.truncated then
        .error .overflow
      else
        .error .inexact := by
  rw [truncatedWhole_text hasScale]
  by_cases fitsLong : IntegerWidth.long.fits literal.truncated = true
  · rw [if_pos fitsLong, if_pos fitsLong]
    exact shape.judged_checkSign_narrow width literal.truncated
  · have tooWide : ¬ width.fits literal.truncated = true :=
      fun fits => fitsLong (IntegerWidth.fits_long_of_fits fits)
    rw [if_neg fitsLong, if_neg fitsLong, if_neg fun taken => tooWide taken.1]
    rfl

theorem interpret_boolean (shape : Shape) :
    DecimalField.interpret shape literal.text .boolean = .ok (literal.truncated != 0) := by
  rw [DecimalField.interpret, parseDecimal_text hasScale, ← literal.truncated_decimal]
  rfl

end DecimalLiteral

namespace Shape

/-- Whether a column has whole numbers of a width from decimal fractions. -/
def Truncates
    (shape : Shape)
    (protocol : Protocol)
    (width : IntegerWidth) :
    Prop :=
  shape.type.family = .decimal ∨
    shape.type.family = .string ∧ shape.isBinary = false ∧
      (protocol = .text → width ≠ .long)

instance (shape : Shape) (protocol : Protocol) (width : IntegerWidth) :
    Decidable (shape.Truncates protocol width) := by
  unfold Truncates
  infer_instance

/-- Decimal fractions and texts become whole numbers by one rule. -/
theorem interpret_reader_of_truncates
    {shape : Shape}
    {encoding : Encoding}
    {width : IntegerWidth}
    (truncates : shape.Truncates encoding.protocol width)
    (length : Nat)
    (octets : Octets) :
    (shape.reader encoding (.integer width) length).interpret octets =
      CharacterField.truncatedWhole shape width (Text.decode octets) >>= width.narrow := by
  rcases truncates with isDecimal | ⟨isString, isText, notExact⟩
  · rw [reader, isDecimal]
    exact DecimalField.interpret_integer shape width (Text.decode octets)
  · rcases encoding with ⟨protocol, offset⟩
    rw [reader, isString]
    simp only [Family.reader, CharacterField.string, isText]
    cases protocol with
    | binary => rfl
    | text =>
        cases width with
        | long => exact absurd rfl (notExact rfl)
        | byte => rfl
        | short => rfl
        | int => rfl

end Shape

/--
A literal with any number of digits is truncated exactly.  The whole number is had if it
fits the width and the column has its sign; if not, it is inexact when no width holds it,
and an overflow otherwise.  The truth value of a decimal fraction is that of the number.
-/
theorem truncation_is_exact
    {column : Column}
    {encoding : Encoding}
    {width : IntegerWidth}
    (truncates : column.shape.Truncates encoding.protocol width)
    {literal : DecimalLiteral}
    (hasScale : literal.HasScale)
    {start : Cursor}
    (next : literal.octets <+: start.rest) :
    (column.decode encoding (.integer width) literal.octets.length).verdict start =
        (if width.fits literal.truncated ∧
            (0 ≤ literal.truncated ∨ column.shape.isSigned) then
          .ok (.integer width literal.truncated)
        else if IntegerWidth.long.fits literal.truncated then
          .error (.value .overflow)
        else
          .error (.value .inexact)) ∧
      (column.shape.type.family = .decimal →
        (column.decode encoding .boolean literal.octets.length).verdict start =
          .ok (.boolean (literal.truncated != 0))) := by
  have spelled : Text.decode literal.octets = literal.text := Text.decode_encode literal.text
  constructor
  · rw [Column.verdict_decode_of_next (Column.heedsLength_integer width) next,
      Shape.interpret_reader_of_truncates truncates, spelled,
      DecimalLiteral.judged_narrowed hasScale]
    split
    · rfl
    · split <;> rfl
  · intro isDecimal
    have heedsLength : column.shape.ignoresLength encoding .boolean = false := by
      simp [Shape.ignoresLength]
    have means :
        (column.shape.reader encoding .boolean literal.octets.length).interpret
            literal.octets =
          .ok (literal.truncated != 0) := by
      rw [← DecimalLiteral.interpret_boolean hasScale column.shape, ← spelled, Shape.reader,
        isDecimal]
      rfl
    rw [Column.verdict_decode_of_next heedsLength next, means]
    rfl

/-- Nine tenths below zero are zero, also for a column without signs. -/
theorem negative_fraction_without_sign_is_zero :
    let column := Column.generated "rate" .decimal 5 32
    let encoding : Encoding := ⟨.binary, none⟩
    let literal : DecimalLiteral := ⟨.minus, ['0'], some ['9'], by simp, by simp⟩
    let start := Cursor.ofPacket literal.octets
    column.shape.Truncates encoding.protocol .byte ∧
      literal.HasScale ∧
      literal.text = "-0.9" ∧
      column.shape.isSigned = false ∧
      (column.decode encoding (.integer .byte) 4).verdict start = .ok (.integer .byte 0) ∧
      (column.decode encoding .boolean 4).verdict start = .ok (.boolean false) := by
  intro column encoding literal start
  have truncates : column.shape.Truncates encoding.protocol .byte := .inl rfl
  have hasScale : literal.HasScale := by decide
  have next : literal.octets <+: start.rest := List.prefix_refl start.rest
  have length : literal.octets.length = 4 := by decide
  have isZero : literal.truncated = 0 := by decide
  obtain ⟨whole, truth⟩ := truncation_is_exact truncates hasScale next
  rw [length, isZero] at whole truth
  have had : IntegerWidth.byte.fits 0 = true ∧ ((0 : Int) ≤ 0 ∨ column.shape.isSigned) := by
    decide
  exact ⟨truncates, hasScale, by decide, by decide, whole.trans (if_pos had), truth rfl⟩

end ResultSet
