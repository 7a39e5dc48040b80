import ResultSet.Proofs.Field.Narrowing
import ResultSet.Proofs.Number.Decimal
import ResultSet.Proofs.Text.Utf8

namespace ResultSet

/-!
# Literals of whole numbers in fields

In text, a field of a whole number is a literal with or without blanks around it.  The
number of the literal is first read at full width.  A literal that the full width does not
hold is malformed, just like octets that spell no literal; one that fails later, for its
sign or for the width that is asked for, overflows.
-/

namespace WholeLiteral

/-- Whether octets spell a literal when the blanks around it are left out. -/
def IsSpelledBy
    (literal : WholeLiteral)
    (octets : Octets) :
    Prop :=
  Text.trim (Text.decode octets).toList = literal.characters

instance (literal : WholeLiteral) (octets : Octets) :
    Decidable (literal.IsSpelledBy octets) := by
  unfold IsSpelledBy
  infer_instance

/-- The full width at which literals are read bounds them, not their digits. -/
theorem parseWhole_decode
    {literal : WholeLiteral}
    {octets : Octets}
    (spelled : literal.IsSpelledBy octets) :
    parseWhole (Text.decode octets) =
      if Numeral.fitsSigned fullWidth literal.number then
        .ok literal.number
      else
        .error (.literal (Text.decode octets) "integer") := by
  rw [parseWhole, spelled, Numeral.signedWithin?, literal.integer?_characters]
  by_cases fitsFullWidth : Numeral.fitsSigned fullWidth literal.number = true
  · rw [Option.filter_some, if_pos fitsFullWidth, if_pos fitsFullWidth]
  · rw [Option.filter_some, if_neg fitsFullWidth, if_neg fitsFullWidth]

/-- Octets that spell no literal have no whole number. -/
theorem parseWhole_decode_of_none
    {octets : Octets}
    (noLiteral : ∀ literal : WholeLiteral, ¬ literal.IsSpelledBy octets) :
    parseWhole (Text.decode octets) =
      .error (.literal (Text.decode octets) "integer") := by
  have noNumber : Numeral.integer? (Text.trim (Text.decode octets).toList) = none :=
    integer?_eq_none fun literal spelled => noLiteral literal spelled.symm
  rw [parseWhole, Numeral.signedWithin?, noNumber]
  rfl

end WholeLiteral

namespace IntegerField

variable {shape : Shape} (isInteger : shape.type.family = .integer)
  (offset : Option ZoneOffset) (width : IntegerWidth) (length : Nat)

include isInteger

/-- A literal is looked at thrice: for the full width, for its sign, and for its width. -/
theorem judged_literal
    {literal : WholeLiteral}
    {octets : Octets}
    (spelled : literal.IsSpelledBy octets) :
    judged ((shape.reader ⟨.text, offset⟩ (.integer width) length).interpret octets) =
      if width.fits literal.number ∧ (0 ≤ literal.number ∨ shape.isSigned) then
        .ok literal.number
      else if Numeral.fitsSigned fullWidth literal.number then
        .error .overflow
      else
        .error .malformed := by
  rw [interpret_reader_integer isInteger]
  change judged
    ((parseWhole (Text.decode octets) >>= shape.checkSign) >>= width.narrow) = _
  rw [bind_assoc, WholeLiteral.parseWhole_decode spelled]
  by_cases fitsFullWidth : Numeral.fitsSigned fullWidth literal.number = true
  · rw [if_pos fitsFullWidth, if_pos fitsFullWidth]
    exact shape.judged_checkSign_narrow width literal.number
  · -- Beyond the full width there is no number, so that neither the sign nor the width is seen.
    have tooWide : ¬ width.fits literal.number = true :=
      fun fits => fitsFullWidth (IntegerWidth.fitsSigned_fullWidth_of_fits fits)
    rw [if_neg fitsFullWidth, if_neg fitsFullWidth, if_neg fun taken => tooWide taken.1]
    rfl

theorem judged_of_no_literal
    {octets : Octets}
    (noLiteral : ∀ literal : WholeLiteral, ¬ literal.IsSpelledBy octets) :
    judged ((shape.reader ⟨.text, offset⟩ (.integer width) length).interpret octets) =
      .error .malformed := by
  rw [interpret_reader_integer isInteger]
  change judged
    ((parseWhole (Text.decode octets) >>= shape.checkSign) >>= width.narrow) = _
  rw [WholeLiteral.parseWhole_decode_of_none noLiteral]
  rfl

end IntegerField

/--
A literal with any number of digits has its number at a width that takes it, and
overflows at one that does not as long as the full width holds its number.  A literal
beyond the full width is malformed, and so are octets that spell no literal.
-/
theorem literals_are_classified
    {column : Column}
    (isInteger : column.shape.type.family = .integer)
    (offset : Option ZoneOffset)
    (width : IntegerWidth)
    {octets : Octets}
    {start : Cursor}
    (next : octets <+: start.rest) :
    (∀ literal : WholeLiteral,
        literal.IsSpelledBy octets →
          (column.decode ⟨.text, offset⟩ (.integer width) octets.length).verdict start =
            if width.fits literal.number ∧
                (0 ≤ literal.number ∨ column.shape.isSigned) then
              .ok (.integer width literal.number)
            else if Numeral.fitsSigned fullWidth literal.number then
              .error (.value .overflow)
            else
              .error (.value .malformed)) ∧
      ((∀ literal : WholeLiteral, ¬ literal.IsSpelledBy octets) →
        (column.decode ⟨.text, offset⟩ (.integer width) octets.length).verdict start =
          .error (.value .malformed)) := by
  rw [Column.verdict_decode_of_next (Column.heedsLength_integer width) next]
  constructor
  · intro literal spelled
    rw [IntegerField.judged_literal isInteger offset width octets.length spelled]
    split
    · rfl
    · split <;> rfl
  · intro noLiteral
    rw [IntegerField.judged_of_no_literal isInteger offset width octets.length noLiteral]
    rfl

/-- A negative literal with a blank and zeros in front overflows in a column without signs. -/
theorem padded_minus_five_overflows :
    let column := Column.generated "level" .tinyInt 3 0x20
    let literal : WholeLiteral := ⟨.minus, ['0', '0', '5'], by simp, by simp⟩
    let octets := Text.encode " -005"
    let start := Cursor.ofPacket octets
    column.shape.type.family = .integer ∧
      octets <+: start.rest ∧
      literal.IsSpelledBy octets ∧
      literal.number = -5 ∧
      column.shape.isSigned = false ∧
      (column.decode ⟨.text, none⟩ (.integer .byte) octets.length).verdict start =
        .error (.value .overflow) := by
  intro column literal octets start
  have isInteger : column.shape.type.family = .integer := rfl
  have next : octets <+: start.rest := List.prefix_refl start.rest
  have spelled : literal.IsSpelledBy octets := by decide
  have isUnsigned : column.shape.isSigned = false := by decide
  have isNumber : literal.number = -5 := by decide
  have verdict := (literals_are_classified isInteger none .byte next).1 literal spelled
  have refused :
      ¬ (IntegerWidth.byte.fits (-5) ∧ ((0 : Int) ≤ -5 ∨ column.shape.isSigned)) := by
    decide
  have fitsFullWidth : Numeral.fitsSigned fullWidth (-5) = true := by decide
  rw [isNumber, if_neg refused, if_pos fitsFullWidth] at verdict
  exact ⟨isInteger, next, spelled, isNumber, isUnsigned, verdict⟩

/-- The least number beyond the full width is spelled by digits alone, yet it is malformed. -/
theorem literal_beyond_full_width_is_malformed :
    let column := Column.generated "serial" .bigInt 20 0
    let octets := Text.encode "170141183460469231731687303715884105728"
    column.shape.type.family = .integer ∧
      (∃ literal : WholeLiteral,
        literal.IsSpelledBy octets ∧
          literal.number = 2 ^ 127 ∧
          IntegerWidth.long.fits literal.number = false) ∧
      (column.decode ⟨.text, none⟩ (.integer .long) octets.length).verdict
          (Cursor.ofPacket octets) = .error (.value .malformed) := by
  intro column octets
  have isLiteral :
      ∃ literal : WholeLiteral,
        literal.IsSpelledBy octets ∧
          literal.number = 2 ^ 127 ∧
          IntegerWidth.long.fits literal.number = false :=
    ⟨⟨.absent, (Text.decode octets).toList, List.all_eq_true.mp (by decide), by decide⟩,
      by decide, by decide, by decide⟩
  exact ⟨rfl, isLiteral, by decide +kernel⟩

end ResultSet
