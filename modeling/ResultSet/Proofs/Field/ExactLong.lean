import ResultSet.Proofs.Field.DecimalAgreement

namespace ResultSet

/-!
# Long numbers of texts in both protocols

In the text protocol a long number is spelled by a sign and digits alone and is read at
full width; in the binary one it is the whole part of a decimal fraction.  What the text
protocol reads the binary one reads alike, and of all that the binary one reads the text
protocol leaves out just what is not a sign and digits: points, exponents and underscores.
-/

/-- Whether characters are digits with a sign in front or without; there may be no digits. -/
def AreSignAndDigits (characters : List Char) : Prop :=
  ∃ (sign : LiteralSign) (digits : List Char),
    characters = sign.characters ++ digits ∧ ∀ digit ∈ digits, digit.isDigit = true

theorem WholeLiteral.areSignAndDigits (literal : WholeLiteral) :
    AreSignAndDigits literal.characters :=
  ⟨literal.sign, literal.digits, rfl, literal.areDigits⟩

/-- A sign and digits are the literal of a whole number, unless there are no digits. -/
theorem AreSignAndDigits.cases
    {characters : List Char}
    (spelled : AreSignAndDigits characters) :
    (∃ literal : WholeLiteral, characters = literal.characters) ∨
      ∃ sign : LiteralSign, characters = sign.characters := by
  obtain ⟨sign, digits, rfl, areDigits⟩ := spelled
  by_cases noDigit : digits = []
  · exact .inr ⟨sign, by rw [noDigit, List.append_nil]⟩
  · exact .inl ⟨⟨sign, digits, areDigits, noDigit⟩, rfl⟩

/-- What stands behind a check succeeds if the check does. -/
theorem checked_eq_ok_iff
    {Result : Type}
    {check : Prop}
    [Decidable check]
    {meaning : Except ValueError Result}
    {error : ValueError}
    {result : Result} :
    (if check then meaning else .error error) = .ok result ↔ check ∧ meaning = .ok result := by
  split
  · rename_i passes
    exact (and_iff_right passes).symm
  · rename_i fails
    refine iff_of_false ?_ fun succeeds => fails succeeds.1
    rintro ⟨⟩

namespace CharacterField

variable {shape : Shape} {octets : Octets} {result : Int}

/-- The number, if the column has its sign and the width of long numbers holds it. -/
def narrowedLong (shape : Shape) (number : Int) : Except ValueError Int := do
  IntegerWidth.long.narrow (← shape.checkSign number)

theorem narrowedLong_eq_ok_iff {number : Int} :
    narrowedLong shape number = .ok result ↔
      (0 ≤ number ∨ shape.isSigned) ∧ IntegerWidth.long.fits number ∧ number = result := by
  rw [narrowedLong, shape.checkSign_eq]
  by_cases hasSign : 0 ≤ number ∨ shape.isSigned = true
  · rw [if_pos hasSign, and_iff_right hasSign]
    change IntegerWidth.long.narrow number = .ok result ↔ _
    rw [IntegerWidth.narrow, checked_eq_ok_iff, Except.ok.injEq]
  · rw [if_neg hasSign]
    refine iff_of_false ?_ fun succeeds => hasSign succeeds.1
    rintro ⟨⟩

theorem whole_binary_long (text : String) :
    whole .binary shape .long text =
      (do
        let decimal ← parseDecimal text IntegerWidth.long.label
        narrowedLong shape (← wholePart decimal text)) := by
  change truncatedWhole shape .long text >>= IntegerWidth.long.narrow = _
  simp only [truncatedWhole, narrowedLong, bind_assoc]

section Literal

variable {literal : WholeLiteral} (spelled : literal.IsSpelledBy octets)

include spelled

/-- The full width at which a literal is read holds all that the width of long numbers holds. -/
theorem exactLong_literal_eq_ok_iff :
    exactLong shape (Text.decode octets) = .ok result ↔
      narrowedLong shape literal.number = .ok result := by
  have read :
      exactLong shape (Text.decode octets) =
        if Numeral.fitsSigned fullWidth literal.number then
          narrowedLong shape literal.number
        else
          .error (.literal (Text.decode octets) IntegerWidth.long.label) := by
    rw [exactLong, spelled, Numeral.signedWithin?, literal.integer?_characters,
      Option.filter_some]
    by_cases fitsFullWidth : Numeral.fitsSigned fullWidth literal.number = true
    · rw [if_pos fitsFullWidth, if_pos fitsFullWidth]
      rfl
    · rw [if_neg fitsFullWidth, if_neg fitsFullWidth]
  rw [read, checked_eq_ok_iff]
  refine and_iff_right_of_imp fun succeeds => ?_
  exact IntegerWidth.fitsSigned_fullWidth_of_fits (narrowedLong_eq_ok_iff.mp succeeds).2.1

/-- A literal is its own whole part, which must fit the width of long numbers at once. -/
theorem binaryLong_literal_eq_ok_iff :
    whole .binary shape .long (Text.decode octets) = .ok result ↔
      narrowedLong shape literal.number = .ok result := by
  have read :
      whole .binary shape .long (Text.decode octets) =
        if IntegerWidth.long.fits literal.number then
          narrowedLong shape literal.number
        else
          .error (.inexact (Text.decode octets)) := by
    rw [whole_binary_long, WholeLiteral.parseDecimal_decode spelled]
    change wholePart (Decimal.ofInt literal.number) (Text.decode octets) >>= _ = _
    rw [wholePart, Decimal.truncated_ofInt]
    by_cases fits : IntegerWidth.long.fits literal.number = true
    · rw [if_pos fits, if_pos fits]
      rfl
    · rw [if_neg fits, if_neg fits]
      rfl
  rw [read, checked_eq_ok_iff]
  refine and_iff_right_of_imp fun succeeds => ?_
  exact (narrowedLong_eq_ok_iff.mp succeeds).2.1

end Literal

/-- A sign alone is no number in the binary protocol either. -/
theorem binaryLong_ne_ok_of_sign
    {sign : LiteralSign}
    (noDigit : Text.trim (Text.decode octets).toList = sign.characters) :
    whole .binary shape .long (Text.decode octets) ≠ .ok result := by
  have noNumber : Decimal.ofLiteral? sign.characters = none := by
    cases sign <;> decide
  have unread :
      parseDecimal (Text.decode octets) IntegerWidth.long.label =
        .error (.literal (Text.decode octets) IntegerWidth.long.label) := by
    rw [parseDecimal, noDigit, noNumber]
  rw [whole_binary_long, unread]
  rintro ⟨⟩

/--
The text protocol reads the long numbers that the binary one reads too and that are spelled
by a sign and digits alone.
-/
theorem whole_text_eq_ok_iff :
    whole .text shape .long (Text.decode octets) = .ok result ↔
      whole .binary shape .long (Text.decode octets) = .ok result ∧
        AreSignAndDigits (Text.trim (Text.decode octets).toList) := by
  change exactLong shape (Text.decode octets) = .ok result ↔ _
  by_cases isLiteral : ∃ literal : WholeLiteral, literal.IsSpelledBy octets
  · obtain ⟨literal, spelled⟩ := isLiteral
    have areSignAndDigits : AreSignAndDigits (Text.trim (Text.decode octets).toList) := by
      rw [spelled]
      exact literal.areSignAndDigits
    rw [and_iff_left areSignAndDigits, exactLong_literal_eq_ok_iff spelled,
      binaryLong_literal_eq_ok_iff spelled]
  · have noNumber : Numeral.integer? (Text.trim (Text.decode octets).toList) = none :=
      WholeLiteral.integer?_eq_none fun literal spelled => isLiteral ⟨literal, spelled.symm⟩
    have unread :
        exactLong shape (Text.decode octets) =
          .error (.literal (Text.decode octets) IntegerWidth.long.label) := by
      rw [exactLong, Numeral.signedWithin?, noNumber]
      rfl
    rw [unread]
    constructor
    · rintro ⟨⟩
    · rintro ⟨succeeds, areSignAndDigits⟩
      rcases areSignAndDigits.cases with ⟨literal, spelled⟩ | ⟨sign, noDigit⟩
      · exact absurd ⟨literal, spelled⟩ isLiteral
      · exact absurd succeeds (binaryLong_ne_ok_of_sign noDigit)

/-- Fields of characters have their long numbers from their texts. -/
theorem interpret_reader_long
    (isCharacter : shape.type.family = .string ∨ shape.type.family = .blob)
    (isText : shape.isBinary = false)
    (encoding : Encoding)
    (length : Nat)
    (octets : Octets) :
    (shape.reader encoding (.integer .long) length).interpret octets =
      whole encoding.protocol shape .long (Text.decode octets) := by
  rcases isCharacter with isString | isBlob
  · simp only [Shape.reader, isString, Family.reader, string, isText]
    rfl
  · simp only [Shape.reader, isBlob, Family.reader, blob, string, isText]
    rfl

end CharacterField

/--
What a field of characters has for a long number in the text protocol it has in the binary
one, too; and of the fields that have one in the binary protocol it has the same in the text
protocol just if it is a sign and digits, blanks around them left out.
-/
theorem text_longs_refine_binary_longs
    {column : Column}
    (isCharacter : column.shape.type.family = .string ∨ column.shape.type.family = .blob)
    (isText : column.shape.isBinary = false)
    (textOffset binaryOffset : Option ZoneOffset)
    (length : Nat)
    (start : Cursor) :
    let inText := (column.decode ⟨.text, textOffset⟩ (.integer .long) length).outcome start
    let inBinary := (column.decode ⟨.binary, binaryOffset⟩ (.integer .long) length).outcome start
    (∀ value, inText = .ok value → inBinary = .ok value) ∧
      ∀ value, inBinary = .ok value →
        (inText = .ok value ↔
          AreSignAndDigits (Text.trim (Text.decode (start.rest.take length)).toList)) := by
  intro inText inBinary
  have both (value : Value) :
      inText = .ok value ↔
        inBinary = .ok value ∧
          AreSignAndDigits (Text.trim (Text.decode (start.rest.take length)).toList) := by
    simp only [inText, inBinary,
      Column.outcome_decode_eq_ok_iff_of_heeding (Column.heedsLength_integer .long),
      CharacterField.interpret_reader_long isCharacter isText]
    constructor
    · rintro ⟨fits, number, succeeds, isValue⟩
      obtain ⟨binarySucceeds, spelled⟩ := CharacterField.whole_text_eq_ok_iff.mp succeeds
      exact ⟨⟨fits, number, binarySucceeds, isValue⟩, spelled⟩
    · rintro ⟨⟨fits, number, succeeds, isValue⟩, spelled⟩
      exact ⟨fits, number, CharacterField.whole_text_eq_ok_iff.mpr ⟨succeeds, spelled⟩, isValue⟩
  refine ⟨fun value succeeds => ((both value).mp succeeds).1, fun value succeeds => ?_⟩
  rw [both value, and_iff_right succeeds]

/-- A whole number is long in both protocols, and one with a fraction in the binary one alone. -/
theorem fraction_is_long_in_binary_alone :
    let column := Column.generated "amount" .varString 20 0
    let inText : Encoding := ⟨.text, none⟩
    let inBinary : Encoding := ⟨.binary, none⟩
    let whole := Cursor.ofPacket (Text.encode " -40 ")
    let fraction := Cursor.ofPacket (Text.encode "12.5")
    column.shape.type.family = .string ∧
      column.shape.isBinary = false ∧
      (column.decode inText (.integer .long) 5).outcome whole = .ok (.integer .long (-40)) ∧
      (column.decode inBinary (.integer .long) 5).outcome whole = .ok (.integer .long (-40)) ∧
      (column.decode inBinary (.integer .long) 4).outcome fraction = .ok (.integer .long 12) ∧
      ¬ AreSignAndDigits (Text.trim (Text.decode (fraction.rest.take 4)).toList) := by
  intro column inText inBinary whole fraction
  have isCharacter : column.shape.type.family = .string ∨ column.shape.type.family = .blob :=
    .inl rfl
  have isText : column.shape.isBinary = false := rfl
  have wholeInText :
      (column.decode inText (.integer .long) 5).outcome whole = .ok (.integer .long (-40)) := by
    decide +kernel
  have fractionInBinary :
      (column.decode inBinary (.integer .long) 4).outcome fraction =
        .ok (.integer .long 12) := by
    decide +kernel
  have fractionInText :
      (column.decode inText (.integer .long) 4).outcome fraction =
        .error (.value (.literal "12.5" IntegerWidth.long.label)) := by
    decide +kernel
  have wholeInBinary :=
    (text_longs_refine_binary_longs isCharacter isText none none 5 whole).1 _ wholeInText
  have isExact :=
    (text_longs_refine_binary_longs isCharacter isText none none 4 fraction).2 _ fractionInBinary
  refine ⟨rfl, isText, wholeInText, wholeInBinary, fractionInBinary, fun spelled => ?_⟩
  have succeeds := isExact.mpr spelled
  rw [fractionInText] at succeeds
  cases succeeds

end ResultSet
