import ResultSet.Proofs.Field.Interpretation
import ResultSet.Proofs.Number.Decimal
import ResultSet.Proofs.Number.Positional
import ResultSet.Proofs.Text.Literal
import ResultSet.Proofs.Text.Utf8

namespace ResultSet

/-!
# Whole numbers in both encodings

A whole number of a column is sent as its numeral or as its two's complement
octets, and every exact representation of it comes to the same either way: the
same value, or the same failure.  Both ways go through one function of the number
itself, `IntegerField.present`.  Floating-point representations are not among the
exact ones, for they are rounded.
-/

/-! ## The numbers of a column -/

namespace ServerType

/-- How many octets of a packed whole number spell it. -/
def spellingOctets : ServerType → Nat
  | tinyInt => 1
  | smallInt | year => 2
  | mediumInt => 3
  | integer => 4
  | bigInt => 8
  | _ => 0

/-- How many octets behind a packed whole number carry nothing. -/
def paddingOctets : ServerType → Nat
  | mediumInt => 1
  | _ => 0

/-- The groups in which a packed whole number is taken are those octets. -/
theorem exists_binaryGroups?_eq
    {type : ServerType}
    (isInteger : type.family = .integer) :
    ∃ groups,
      IntegerField.binaryGroups? type = some groups ∧
        groups.headD 0 = type.spellingOctets ∧
        groups.sum = type.spellingOctets + type.paddingOctets := by
  cases type <;> first | exact ⟨_, rfl, rfl, rfl⟩ | cases isInteger

theorem spellingOctets_bounds
    {type : ServerType}
    (isInteger : type.family = .integer) :
    0 < type.spellingOctets ∧ type.spellingOctets ≤ 8 := by
  cases type <;> first | decide | cases isInteger

end ServerType

namespace Shape

/-- Whether a column of whole numbers can hold a number. -/
def Holds (shape : Shape) (number : Int) : Prop :=
  let bits := 8 * shape.type.spellingOctets
  if shape.isSigned then
    -2 ^ (bits - 1) ≤ number ∧ number < 2 ^ (bits - 1)
  else
    0 ≤ number ∧ number < 2 ^ bits

instance (shape : Shape) (number : Int) : Decidable (shape.Holds number) := by
  unfold Holds
  infer_instance

/-- The octets of a number, with the octets behind them that carry nothing. -/
def packedNumber
    (shape : Shape)
    (number : Int)
    (padding : Octets) :
    Octets :=
  Octets.ofInt shape.type.spellingOctets number ++ padding

end Shape

namespace IntegerField

variable {shape : Shape} {number : Int}

/-- Only a column with signs holds negative numbers. -/
theorem checkSign_of_holds (holds : shape.Holds number) :
    shape.checkSign number = .ok number := by
  rw [Shape.checkSign, if_neg]
  rintro ⟨negative, isUnsigned⟩
  simp only [Shape.Holds, isUnsigned, Bool.false_eq_true, ↓reduceIte] at holds
  omega

theorem binaryNumber_of_holds
    (isInteger : shape.type.family = .integer)
    (holds : shape.Holds number) :
    binaryNumber shape (Octets.ofInt shape.type.spellingOctets number) = number := by
  rw [binaryNumber]
  rw [Shape.Holds] at holds
  split
  · rename_i isSigned
    rw [if_pos isSigned] at holds
    exact Octets.signedLittleEndian_ofInt (ServerType.spellingOctets_bounds isInteger).1 holds
  · rename_i isUnsigned
    rw [if_neg isUnsigned] at holds
    rw [Octets.littleEndian_ofInt, Octets.modulus_eq_two_pow]
    exact Int.emod_eq_of_lt holds.1 holds.2

/-- Every number of a column fits the width at which literals are read. -/
theorem fitsSigned_of_holds
    (isInteger : shape.type.family = .integer)
    (holds : shape.Holds number) :
    Numeral.fitsSigned fullWidth number = true := by
  have width := (ServerType.spellingOctets_bounds isInteger).2
  have atMost (bits : Nat) (few : bits ≤ 64) : (2 : Int) ^ bits ≤ 2 ^ 64 := by
    exact_mod_cast Nat.pow_le_pow_right (by decide : 0 < 2) few
  have narrower := atMost (8 * shape.type.spellingOctets) (by omega)
  have halfNarrower := atMost (8 * shape.type.spellingOctets - 1) (by omega)
  have wide : (2 : Int) ^ 64 ≤ 2 ^ (fullWidth - 1) := by decide
  refine decide_eq_true ?_
  simp only [Shape.Holds] at holds
  split at holds <;> omega

/-! ## What the two encodings mean -/

/-- Octets of the width of the column spell a number, whatever they are. -/
theorem interpret_binaryReader
    (isInteger : shape.type.family = .integer)
    {octets : Octets}
    (hasWidth : shape.type.binaryWidth? = some octets.length) :
    (binaryReader shape octets.length).interpret octets =
      .ok (binaryNumber shape (octets.take shape.type.spellingOctets)) := by
  obtain ⟨groups, hasGroups, spelling, -⟩ := ServerType.exists_binaryGroups?_eq isInteger
  have notRefused : shape.type.binaryWidth?.filter (· != octets.length) = none := by
    rw [hasWidth]
    simp
  simp only [binaryReader, notRefused, hasGroups, spelling]

/-- The packed octets of a number mean the number. -/
theorem interpret_binary
    (isInteger : shape.type.family = .integer)
    (holds : shape.Holds number)
    {padding : Octets}
    (padded : padding.length = shape.type.paddingOctets)
    (target : Target) :
    (binary target shape (shape.packedNumber number padding).length).interpret
        (shape.packedNumber number padding) =
      present shape number target := by
  obtain ⟨groups, hasGroups, -, total⟩ := ServerType.exists_binaryGroups?_eq isInteger
  have hasWidth :
      shape.type.binaryWidth? = some (shape.packedNumber number padding).length := by
    rw [binaryWidth_eq_sum hasGroups, Shape.packedNumber, List.length_append,
      Octets.length_ofInt, padded, total]
  have spelled :
      (shape.packedNumber number padding).take shape.type.spellingOctets =
        Octets.ofInt shape.type.spellingOctets number :=
    List.take_left' (Octets.length_ofInt _ _)
  have reads :
      (binaryReader shape (shape.packedNumber number padding).length).interpret
          (shape.packedNumber number padding) =
        .ok number := by
    rw [interpret_binaryReader isInteger hasWidth, spelled,
      binaryNumber_of_holds isInteger holds]
  cases target with
  | bytes => rfl
  | _ =>
      simp only [binary, FieldReader.bind, reads]
      rfl

theorem trim_ofInt (number : Int) :
    Text.trim (Numeral.ofInt number).toList = (Numeral.ofInt number).toList :=
  (Numeral.digitsOr_ofInt number).trim_eq (by decide)

/-- A numeral is the text of zero only for zero. -/
theorem ofInt_eq_zero_iff : Numeral.ofInt number = "0" ↔ number = 0 := by
  constructor
  · intro isZero
    have reads := Numeral.signed?_ofInt Numeral.natural?_digits number
    rw [isZero] at reads
    have zero : Numeral.signed? Numeral.natural? "0".toList = some 0 := by decide
    rw [zero] at reads
    exact (Option.some.inj reads).symm
  · rintro rfl
    decide

/-- The numeral of a number means the number in every exact representation. -/
theorem interpretText_ofInt
    (isInteger : shape.type.family = .integer)
    (holds : shape.Holds number)
    {target : Target}
    (isExact : target ≠ .single ∧ target ≠ .double) :
    interpretText shape (Numeral.ofInt number) target = present shape number target := by
  have whole : parseWhole (Numeral.ofInt number) = .ok number := by
    rw [parseWhole, trim_ofInt,
      Numeral.signedWithin?_ofInt (fitsSigned_of_holds isInteger holds)]
  have decimal :
      parseDecimal (Numeral.ofInt number) Target.decimal.label =
        .ok (Decimal.ofInt number) := by
    rw [parseDecimal, trim_ofInt, Decimal.ofLiteral?_ofInt]
  have sign := checkSign_of_holds holds
  cases target with
  | boolean =>
      have sameTruth : (Numeral.ofInt number != "0") = (number != 0) := by
        rw [Bool.eq_iff_iff, bne_iff_ne, bne_iff_ne, Ne, ofInt_eq_zero_iff]
      rw [interpretText, sameTruth, present]
  | integer width =>
      rw [interpretText, whole, present]
      simp only [bind, Except.bind, sign]
  | text => rfl
  | decimal => rw [interpretText, decimal, present]
  | bytes => rfl
  | natural =>
      rw [interpretText, whole, present]
      simp only [bind, Except.bind, sign]
      rfl
  | single => exact absurd rfl isExact.1
  | double => exact absurd rfl isExact.2

/-- The octets of a numeral mean the number in every exact representation. -/
theorem interpret_text
    (isInteger : shape.type.family = .integer)
    (holds : shape.Holds number)
    {target : Target}
    (isExact : target ≠ .single ∧ target ≠ .double)
    (length : Nat) :
    (text target shape length).interpret (Text.encode (Numeral.ofInt number)) =
      present shape number target := by
  simp only [text, FieldReader.text, FieldReader.whole, Text.decode_encode]
  exact interpretText_ofInt isInteger holds isExact

end IntegerField

/-- Whether a whole number can be had in a representation. -/
def Target.Serves (number : Int) : Target → Prop
  | integer width => width.fits number = true
  | bytes => False
  | _ => True

theorem IntegerField.exists_present_iff
    {shape : Shape}
    {number : Int}
    {target : Target} :
    (∃ result, present shape number target = .ok result) ↔ target.Serves number := by
  cases target with
  | integer width =>
      by_cases fits : width.fits number = true
      · simp [present, IntegerWidth.narrow, Target.Serves, fits]
      · simp [present, IntegerWidth.narrow, Target.Serves, fits]
  | _ => simp [present, Target.Serves]

/--
A packed whole number and its numeral come to the same in every representation but
the floating-point ones, and to a value unless the representation cannot have it.
-/
theorem whole_number_encodings_agree
    {column : Column}
    (isInteger : column.shape.type.family = .integer)
    {number : Int}
    (holds : column.shape.Holds number)
    {padding : Octets}
    (padded : padding.length = column.shape.type.paddingOctets)
    {target : Target}
    (isExact : target ≠ .single ∧ target ≠ .double)
    (offset : Option ZoneOffset)
    {packed spelled : Cursor}
    (packedNext : column.shape.packedNumber number padding <+: packed.rest)
    (spelledNext : Text.encode (Numeral.ofInt number) <+: spelled.rest) :
    let fromPacked :=
      (column.decode ⟨.binary, offset⟩ target
        (column.shape.packedNumber number padding).length).outcome packed
    let fromNumeral :=
      (column.decode ⟨.text, offset⟩ target
        (Text.encode (Numeral.ofInt number)).length).outcome spelled
    fromPacked = fromNumeral ∧
      ((∃ value, fromNumeral = .ok value) ↔ target.Serves number) := by
  intro fromPacked fromNumeral
  have isNotFloat : column.shape.type.family ≠ .float := by
    rw [isInteger]
    decide
  have packedMeans :
      fromPacked =
        ((IntegerField.present column.shape number target).map
          target.toValue).mapError Fault.value := by
    rw [← IntegerField.interpret_binary isInteger holds padded target]
    simp only [fromPacked, Column.outcome_decode_of_next isNotFloat _ target packedNext,
      Shape.reader, isInteger, Family.reader]
  have numeralMeans :
      fromNumeral =
        ((IntegerField.present column.shape number target).map
          target.toValue).mapError Fault.value := by
    rw [← IntegerField.interpret_text isInteger holds isExact
      (Text.encode (Numeral.ofInt number)).length]
    simp only [fromNumeral, Column.outcome_decode_of_next isNotFloat _ target spelledNext,
      Shape.reader, isInteger, Family.reader]
  have serves :
      (∃ result, IntegerField.present column.shape number target = .ok result) ↔
        target.Serves number :=
    IntegerField.exists_present_iff
  refine ⟨packedMeans.trans numeralMeans.symm, ?_⟩
  rw [numeralMeans, ← serves]
  cases IntegerField.present column.shape number target with
  | ok result => exact ⟨fun _ => ⟨result, rfl⟩, fun _ => ⟨_, rfl⟩⟩
  | error error =>
      constructor
      · rintro ⟨_, ⟨⟩⟩
      · rintro ⟨_, ⟨⟩⟩

/-- The least medium integer, with an octet behind it that carries nothing. -/
theorem least_medium_integer_encodings_agree :
    let column := Column.generated "depth" .mediumInt 9 0
    let packed : Octets := [0x00, 0x00, 0x80, 0xAB]
    let numeral : Octets := Text.encode "-8388608"
    column.shape.Holds (-8388608) ∧
      (column.decode ⟨.binary, none⟩ .natural packed.length).outcome
          (Cursor.ofPacket packed) =
        (column.decode ⟨.text, none⟩ .natural numeral.length).outcome
          (Cursor.ofPacket numeral) := by
  intro column packed numeral
  have holds : column.shape.Holds (-8388608) := by decide
  have padded : [0xAB].length = column.shape.type.paddingOctets := rfl
  have isExact : Target.natural ≠ .single ∧ Target.natural ≠ .double := by decide
  have isPacked : column.shape.packedNumber (-8388608) [0xAB] = packed := by decide
  have isNumeral : Text.encode (Numeral.ofInt (-8388608)) = numeral := by decide
  have agrees :=
    whole_number_encodings_agree rfl holds padded isExact none
      (isPacked ▸ List.prefix_refl (Cursor.ofPacket packed).rest)
      (isNumeral ▸ List.prefix_refl (Cursor.ofPacket numeral).rest)
  rw [isPacked, isNumeral] at agrees
  exact ⟨holds, agrees.1⟩

end ResultSet
