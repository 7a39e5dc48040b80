import ResultSet.Proofs.Field.Grammar
import ResultSet.Proofs.Field.WholeNumber

namespace ResultSet

/-!
# Decimal fractions and natural representations of whole numbers

A whole number is asked for as a decimal fraction or in its natural representation.  In
binary the two are made from one number, so they agree.  In text they have readers of their
own, and only the natural one looks at the sign: the two agree on a literal just when the
column has its sign, and a negative one is a decimal fraction even without signs.
-/

/-! ## Agreement -/

/-- Whether a decimal fraction is a whole number. -/
def Decimal.Denotes
    (decimal : Decimal)
    (number : Int) :
    Prop :=
  decimal.unscaled * 10 ^ (-decimal.scale).toNat = number * 10 ^ decimal.scale.toNat

/-- Whether a value is a whole number, of a width or as a decimal fraction. -/
def Value.Denotes
    (value : Value)
    (number : Int) :
    Prop :=
  match value with
  | integer _ other => other = number
  | decimal fraction => fraction.Denotes number
  | _ => False

/-- Two verdicts that are the same whole number, or failures of the same category. -/
inductive Agree : Except FaultCategory Value → Except FaultCategory Value → Prop where
  | number
      {first second : Value}
      {number : Int}
      (firstDenotes : first.Denotes number)
      (secondDenotes : second.Denotes number) :
      Agree (.ok first) (.ok second)
  | failure
      (category : FaultCategory) :
      Agree (.error category) (.error category)

theorem Decimal.denotes_ofInt (number : Int) : (ofInt number).Denotes number :=
  rfl

theorem denotes_naturalInteger (number : Int) : (naturalInteger number).Denotes number := by
  rcases naturalInteger_cases number with isInt | isLong | ⟨isDecimal, -⟩
  · rw [isInt]
    rfl
  · rw [isLong]
    rfl
  · rw [isDecimal]
    exact Decimal.denotes_ofInt number

/-- A whole number agrees with itself as a decimal fraction and in its natural form. -/
theorem agree_naturalInteger (number : Int) :
    Agree (.ok (.decimal (Decimal.ofInt number))) (.ok (naturalInteger number)) :=
  .number (Decimal.denotes_ofInt number) (denotes_naturalInteger number)

/-! ## Meanings -/

/-- A literal is a decimal fraction, too, and denotes the same number. -/
theorem WholeLiteral.parseDecimal_decode
    {literal : WholeLiteral}
    {octets : Octets}
    (spelled : literal.IsSpelledBy octets)
    (label : String) :
    parseDecimal (Text.decode octets) label = .ok (Decimal.ofInt literal.number) := by
  rw [parseDecimal, spelled, literal.ofLiteral?_characters]

namespace Column

variable {column : Column} (isInteger : column.shape.type.family = .integer)
  {octets : Octets} {start : Cursor} (next : octets <+: start.rest)
  (offset : Option ZoneOffset)

include isInteger next

section Literal

variable {literal : WholeLiteral} (spelled : literal.IsSpelledBy octets)

include spelled

theorem verdict_decimal_literal :
    (column.decode ⟨.text, offset⟩ .decimal octets.length).verdict start =
      .ok (.decimal (Decimal.ofInt literal.number)) := by
  have means :
      (column.shape.reader ⟨.text, offset⟩ .decimal octets.length).interpret octets =
        .ok (Decimal.ofInt literal.number) := by
    rw [Shape.reader, isInteger]
    exact WholeLiteral.parseDecimal_decode spelled Target.decimal.label
  rw [verdict_decode_of_next (Shape.heedsLength_of_isInteger isInteger _ _) next, means]
  rfl

theorem verdict_natural_literal
    (fitsFullWidth : Numeral.fitsSigned fullWidth literal.number = true) :
    (column.decode ⟨.text, offset⟩ .natural octets.length).verdict start =
      if 0 ≤ literal.number ∨ column.shape.isSigned then
        .ok (naturalInteger literal.number)
      else
        .error (.value .overflow) := by
  have reads :
      (IntegerField.wholeReader .text column.shape octets.length).interpret octets =
        column.shape.checkSign literal.number := by
    change parseWhole (Text.decode octets) >>= column.shape.checkSign = _
    rw [WholeLiteral.parseWhole_decode spelled, if_pos fitsFullWidth]
    rfl
  rw [verdict_decode_of_next (Shape.heedsLength_of_isInteger isInteger _ _) next,
    IntegerField.interpret_reader_natural isInteger, reads, Shape.checkSign_eq]
  split
  · rfl
  · rfl

/-- The two representations of a literal agree just when the column has its sign. -/
theorem agree_literal_iff
    (fitsFullWidth : Numeral.fitsSigned fullWidth literal.number = true) :
    Agree ((column.decode ⟨.text, offset⟩ .decimal octets.length).verdict start)
        ((column.decode ⟨.text, offset⟩ .natural octets.length).verdict start) ↔
      0 ≤ literal.number ∨ column.shape.isSigned := by
  rw [verdict_decimal_literal isInteger next offset spelled,
    verdict_natural_literal isInteger next offset spelled fitsFullWidth]
  by_cases hasSign : 0 ≤ literal.number ∨ column.shape.isSigned = true
  · rw [if_pos hasSign]
    exact iff_of_true (agree_naturalInteger literal.number) hasSign
  · rw [if_neg hasSign]
    refine iff_of_false ?_ hasSign
    rintro ⟨⟩

end Literal

/-- Octets of the width of the column spell one number, whatever is asked for. -/
theorem verdicts_packed
    (hasWidth : column.shape.type.binaryWidth? = some octets.length) :
    let number :=
      IntegerField.binaryNumber column.shape (octets.take column.shape.type.spellingOctets)
    (column.decode ⟨.binary, offset⟩ .decimal octets.length).verdict start =
        .ok (.decimal (Decimal.ofInt number)) ∧
      (column.decode ⟨.binary, offset⟩ .natural octets.length).verdict start =
        .ok (naturalInteger number) := by
  intro number
  have spells :
      (IntegerField.binaryReader column.shape octets.length).interpret octets = .ok number :=
    IntegerField.interpret_binaryReader isInteger hasWidth
  have presented
      (target : Target)
      (notBytes : target ≠ .bytes) :
      (column.shape.reader ⟨.binary, offset⟩ target octets.length).interpret octets =
        IntegerField.present column.shape number target := by
    rw [Shape.reader, isInteger]
    cases target with
    | bytes => exact absurd rfl notBytes
    | _ => exact congrArg (· >>= _) spells
  constructor
  · rw [verdict_decode_of_next (Shape.heedsLength_of_isInteger isInteger _ _) next,
      presented .decimal (by decide)]
    rfl
  · rw [verdict_decode_of_next (Shape.heedsLength_of_isInteger isInteger _ _) next,
      presented .natural (by decide)]
    rfl

theorem agree_packed
    (hasWidth : column.shape.type.binaryWidth? = some octets.length) :
    Agree ((column.decode ⟨.binary, offset⟩ .decimal octets.length).verdict start)
      ((column.decode ⟨.binary, offset⟩ .natural octets.length).verdict start) := by
  obtain ⟨isDecimal, isNatural⟩ := verdicts_packed isInteger next offset hasWidth
  rw [isDecimal, isNatural]
  exact agree_naturalInteger _

end Column

/--
A literal within the full width is a decimal fraction in every column, but has a natural
representation only in a column with its sign, and there the two denote its number.
Octets of the width of the column denote one number in both.
-/
theorem decimal_agrees_with_natural
    {column : Column}
    (isInteger : column.shape.type.family = .integer)
    (offset : Option ZoneOffset)
    {octets : Octets}
    {start : Cursor}
    (next : octets <+: start.rest) :
    (∀ literal : WholeLiteral,
        literal.IsSpelledBy octets →
          Numeral.fitsSigned fullWidth literal.number = true →
            let decimal :=
              (column.decode ⟨.text, offset⟩ .decimal octets.length).verdict start
            let natural :=
              (column.decode ⟨.text, offset⟩ .natural octets.length).verdict start
            decimal = .ok (.decimal (Decimal.ofInt literal.number)) ∧
              natural =
                (if 0 ≤ literal.number ∨ column.shape.isSigned then
                  .ok (naturalInteger literal.number)
                else
                  .error (.value .overflow)) ∧
              (Agree decimal natural ↔ 0 ≤ literal.number ∨ column.shape.isSigned)) ∧
      (column.shape.type.binaryWidth? = some octets.length →
        let number :=
          IntegerField.binaryNumber column.shape
            (octets.take column.shape.type.spellingOctets)
        let decimal :=
          (column.decode ⟨.binary, offset⟩ .decimal octets.length).verdict start
        let natural :=
          (column.decode ⟨.binary, offset⟩ .natural octets.length).verdict start
        decimal = .ok (.decimal (Decimal.ofInt number)) ∧
          natural = .ok (naturalInteger number) ∧
          Agree decimal natural) := by
  constructor
  · intro literal spelled fitsFullWidth decimal natural
    exact ⟨Column.verdict_decimal_literal isInteger next offset spelled,
      Column.verdict_natural_literal isInteger next offset spelled fitsFullWidth,
      Column.agree_literal_iff isInteger next offset spelled fitsFullWidth⟩
  · intro hasWidth number decimal natural
    obtain ⟨isDecimal, isNatural⟩ := Column.verdicts_packed isInteger next offset hasWidth
    exact ⟨isDecimal, isNatural, Column.agree_packed isInteger next offset hasWidth⟩

/-- The octets of `+5` are the number five when read as text, and 13611 when packed. -/
theorem plus_five_agrees :
    let column := Column.generated "level" .smallInt 5 0x20
    let literal : WholeLiteral := ⟨.plus, ['5'], by simp, by simp⟩
    let octets := Text.encode "+5"
    let start := Cursor.ofPacket octets
    let verdict := fun protocol target =>
      (column.decode ⟨protocol, none⟩ target 2).verdict start
    column.shape.type.family = .integer ∧
      octets <+: start.rest ∧
      (literal.IsSpelledBy octets ∧
        literal.number = 5 ∧
        Agree (verdict .text .decimal) (verdict .text .natural)) ∧
      column.shape.type.binaryWidth? = some octets.length ∧
        verdict .binary .natural = .ok (.integer .int 13611) ∧
        Agree (verdict .binary .decimal) (verdict .binary .natural) := by
  intro column literal octets start verdict
  have isInteger : column.shape.type.family = .integer := rfl
  have next : octets <+: start.rest := List.prefix_refl start.rest
  have spelled : literal.IsSpelledBy octets := by decide
  have hasWidth : column.shape.type.binaryWidth? = some octets.length := by decide
  have packed : verdict .binary .natural = .ok (.integer .int 13611) := by decide
  obtain ⟨ofLiteral, ofPacked⟩ := decimal_agrees_with_natural isInteger none next
  obtain ⟨-, -, agreesInText⟩ := ofLiteral literal spelled (by decide)
  obtain ⟨-, -, agreesInBinary⟩ := ofPacked hasWidth
  exact ⟨isInteger, next, ⟨spelled, by decide, agreesInText.mpr (.inl (by decide))⟩,
    hasWidth, packed, agreesInBinary⟩

/-- Minus five is a decimal fraction in a column without signs, where it overflows otherwise. -/
theorem minus_five_without_sign_is_decimal :
    let column := Column.generated "serial" .bigInt 20 0x20
    let literal : WholeLiteral := ⟨.minus, ['5'], by simp, by simp⟩
    let start := Cursor.ofPacket (Text.encode "-5")
    let verdict := fun target => (column.decode ⟨.text, none⟩ target 2).verdict start
    column.shape.type.family = .integer ∧
      literal.IsSpelledBy (Text.encode "-5") ∧
      Numeral.fitsSigned fullWidth literal.number = true ∧
      verdict .decimal = .ok (.decimal (Decimal.ofInt (-5))) ∧
      verdict .natural = .error (.value .overflow) ∧
      ¬ Agree (verdict .decimal) (verdict .natural) := by
  intro column literal start verdict
  have isDecimal : verdict .decimal = .ok (.decimal (Decimal.ofInt (-5))) := by decide
  have isRefused : verdict .natural = .error (.value .overflow) := by decide
  have disagree : ¬ Agree (verdict .decimal) (verdict .natural) := by
    rw [isDecimal, isRefused]
    rintro ⟨⟩
  exact ⟨rfl, by decide, by decide, isDecimal, isRefused, disagree⟩

end ResultSet
