import ResultSet.Proofs.Field.Narrowing

namespace ResultSet

/-!
# Columns without signs

A column without signs has no negative numbers.  Packed whole numbers cannot spell any
there.  Everywhere else a field first comes to a number that does not depend on signs,
then the column looks at the sign of it, and a value of that sign is made from it last.
So a column without signs differs from its counterpart with signs only in refusing each
negative value; minus one half is zero by the time its sign is looked at.
-/

/-! ## Signs of values -/

/-- Whether a value is a whole number or a decimal fraction below zero. -/
def Value.IsNegative : Value → Prop
  | integer _ number => number < 0
  | decimal fraction => fraction.unscaled < 0
  | _ => False

instance : DecidablePred Value.IsNegative := fun value => by
  unfold Value.IsNegative
  split <;> infer_instance

/-- The natural representation of a whole number has its sign. -/
theorem isNegative_naturalInteger_iff {number : Int} :
    (naturalInteger number).IsNegative ↔ number < 0 := by
  rcases naturalInteger_cases number with isInt | isLong | ⟨isDecimal, -⟩
  · rw [isInt, Value.IsNegative]
  · rw [isLong, Value.IsNegative]
  · rw [isDecimal, Value.IsNegative, Decimal.ofInt]

/-- A verdict in which a negative value is an overflow. -/
def refuseNegative : Except FaultCategory Value → Except FaultCategory Value
  | .ok value => if value.IsNegative then .error (.value .overflow) else .ok value
  | .error category => .error category

/-! ## Columns that differ in signs -/

namespace Shape

/-- Whether two shapes differ in the flag for signs alone, and the first one has signs. -/
structure DiffersInSign (signed unsigned : Shape) : Prop where
  collation : unsigned.collation = signed.collation
  length : unsigned.length = signed.length
  type : unsigned.type = signed.type
  decimals : unsigned.decimals = signed.decimals
  otherFlags :
    ∀ bit, bit ≠ ColumnFlag.unsigned.bit →
      unsigned.flags.toNat.testBit bit = signed.flags.toNat.testBit bit
  isSigned : signed.isSigned = true
  isUnsigned : unsigned.isSigned = false

/-- A shape with other flags. -/
def withFlags (shape : Shape) (flags : UInt16) : Shape :=
  { shape with flags }

theorem DiffersInSign.eq_withFlags
    {signed unsigned : Shape}
    (differ : signed.DiffersInSign unsigned) :
    unsigned = signed.withFlags unsigned.flags := by
  obtain ⟨collation, length, type, decimals, -, -, -⟩ := differ
  cases unsigned
  subst collation length type decimals
  rfl

end Shape

/-! ## Looking at a sign -/

section LooksAtSign

variable {Result : Type} {toValue : Result → Value}

/-- Whether results made from numbers have their signs, and overflow otherwise. -/
structure KeepsSign
    (toValue : Result → Value)
    (next : Int → Except ValueError Result) :
    Prop where
  value :
    ∀ number result,
      next number = .ok result → ((toValue result).IsNegative ↔ number < 0)
  failure : ∀ number error, next number = .error error → error.kind = .overflow

/-- The verdict on a field whose octets have a meaning that is taken for a value. -/
def verdictOf
    (toValue : Result → Value)
    (meaning : Except ValueError Result) :
    Except FaultCategory Value :=
  ((judged meaning).map toValue).mapError .value

/-- Where results keep their signs, refusing negative values is refusing negative numbers. -/
theorem KeepsSign.refuseNegative_verdictOf
    {next : Int → Except ValueError Result}
    (keepsSign : KeepsSign toValue next)
    (number : Int) :
    refuseNegative (verdictOf toValue (next number)) =
      if number < 0 then .error (.value .overflow) else verdictOf toValue (next number) := by
  cases isNext : next number with
  | ok result =>
      have sameSign := keepsSign.value number result isNext
      change (if (toValue result).IsNegative then _ else _) = _
      simp only [sameSign]
      rfl
  | error error =>
      have overflows := keepsSign.failure number error isNext
      change Except.error (FaultCategory.value error.kind) =
        if number < 0 then _ else Except.error (FaultCategory.value error.kind)
      rw [overflows, ite_self]

/-- Numbers of a width have the signs of the numbers that are narrowed to it. -/
theorem keepsSign_narrow (width : IntegerWidth) :
    KeepsSign (Value.integer width) width.narrow where
  value number result narrows := by
    rw [IntegerWidth.narrow] at narrows
    split at narrows
    · cases narrows
      exact Iff.rfl
    · cases narrows
  failure number error narrows := by
    rw [IntegerWidth.narrow] at narrows
    split at narrows
    · cases narrows
    · cases narrows
      rfl

theorem keepsSign_naturalInteger :
    KeepsSign (Target.toValue .natural) fun number => .ok (naturalInteger number) where
  value number result named := by
    cases named
    exact isNegative_naturalInteger_iff
  failure number error fails := by cases fails

/--
Whether what a field means to a column is made in three steps: a number that the flags of
the column do not matter to, a look at its sign, and a result that keeps the sign.
-/
def Shape.LooksAtSign
    (shape : Shape)
    (toValue : Result → Value)
    (meaning : Shape → Except ValueError Result) :
    Prop :=
  ∃ (full : Except ValueError Int) (next : Int → Except ValueError Result),
    KeepsSign toValue next ∧
      ∀ flags,
        meaning (shape.withFlags flags) =
          full >>= fun number => (shape.withFlags flags).checkSign number >>= next

/-- What means the same to all columns but for their flags is looked at in the same way. -/
theorem Shape.LooksAtSign.congr
    {shape : Shape}
    {meaning other : Shape → Except ValueError Result}
    (looks : shape.LooksAtSign toValue other)
    (same : ∀ flags, meaning (shape.withFlags flags) = other (shape.withFlags flags)) :
    shape.LooksAtSign toValue meaning := by
  obtain ⟨full, next, keepsSign, steps⟩ := looks
  exact ⟨full, next, keepsSign, fun flags => (same flags).trans (steps flags)⟩

/-- A field that no column has a number in fails before any sign is looked at. -/
theorem Shape.looksAtSign_of_error
    {shape : Shape}
    {width : IntegerWidth}
    {meaning : Shape → Except ValueError Int}
    (error : ValueError)
    (fails : ∀ flags, meaning (shape.withFlags flags) = .error error) :
    shape.LooksAtSign (Value.integer width) meaning :=
  ⟨.error error, width.narrow, keepsSign_narrow width, fails⟩

/-- Without signs, the verdict on a field is the one with signs, negative values refused. -/
theorem Shape.LooksAtSign.verdictOf_eq
    {signed unsigned : Shape}
    (differ : signed.DiffersInSign unsigned)
    {meaning : Shape → Except ValueError Result}
    (looks : signed.LooksAtSign toValue meaning) :
    verdictOf toValue (meaning unsigned) =
      refuseNegative (verdictOf toValue (meaning signed)) := by
  obtain ⟨full, next, keepsSign, steps⟩ := looks
  have withSigns :
      meaning signed = full >>= fun number => signed.checkSign number >>= next :=
    steps signed.flags
  have withoutSigns :
      meaning unsigned = full >>= fun number => unsigned.checkSign number >>= next := by
    rw [differ.eq_withFlags]
    exact steps unsigned.flags
  rw [withSigns, withoutSigns]
  cases full with
  | error error => rfl
  | ok number =>
      -- Only the look at the sign differs, and the column with signs takes every number.
      change verdictOf toValue (unsigned.checkSign number >>= next) =
        refuseNegative (verdictOf toValue (signed.checkSign number >>= next))
      rw [signed.checkSign_eq, if_pos (.inr differ.isSigned), unsigned.checkSign_eq,
        differ.isUnsigned]
      change _ = refuseNegative (verdictOf toValue (next number))
      rw [keepsSign.refuseNegative_verdictOf]
      by_cases negative : number < 0
      · rw [if_pos negative, if_neg (by simpa using negative)]
        rfl
      · rw [if_neg negative, if_pos (.inl (Int.not_lt.mp negative))]
        rfl

end LooksAtSign

/-! ## Families -/

theorem IntegerField.looksAtSign_integer
    {shape : Shape}
    (isInteger : shape.type.family = .integer)
    (offset : Option ZoneOffset)
    (width : IntegerWidth)
    (length : Nat)
    (octets : Octets) :
    shape.LooksAtSign (Value.integer width) fun other =>
      (other.reader ⟨.text, offset⟩ (.integer width) length).interpret octets := by
  refine ⟨parseWhole (Text.decode octets), width.narrow, keepsSign_narrow width, ?_⟩
  intro flags
  have sameFamily : (shape.withFlags flags).type.family = .integer := isInteger
  refine (interpret_reader_integer sameFamily _ width length octets).trans ?_
  rw [← bind_assoc]
  rfl

theorem IntegerField.looksAtSign_natural
    {shape : Shape}
    (isInteger : shape.type.family = .integer)
    (offset : Option ZoneOffset)
    (length : Nat)
    (octets : Octets) :
    shape.LooksAtSign (Target.toValue .natural) fun other =>
      (other.reader ⟨.text, offset⟩ .natural length).interpret octets := by
  refine ⟨parseWhole (Text.decode octets), _, keepsSign_naturalInteger, ?_⟩
  intro flags
  have sameFamily : (shape.withFlags flags).type.family = .integer := isInteger
  refine (interpret_reader_natural sameFamily _ length octets).trans ?_
  rw [← bind_assoc]
  rfl

theorem FloatField.looksAtSign
    {shape : Shape}
    (isFloat : shape.type.family = .float)
    (encoding : Encoding)
    (width : IntegerWidth)
    (length : Nat)
    (octets : Octets) :
    shape.LooksAtSign (Value.integer width) fun other =>
      (other.reader encoding (.integer width) length).interpret octets := by
  rcases encoding with ⟨protocol, offset⟩
  cases protocol with
  | text =>
      refine ⟨parseDouble (Text.decode octets) >>= fun value => value.number.wholePart,
        width.narrow, keepsSign_narrow width, ?_⟩
      intro flags
      have sameFamily : (shape.withFlags flags).type.family = .float := isFloat
      simp only [Shape.reader, sameFamily, Family.reader, text, FieldReader.text,
        FieldReader.whole, interpretText, whole, bind_assoc]
  | binary =>
      refine ⟨(exactReader shape length).interpret octets >>= fun pattern =>
        pattern.number.wholePart, width.narrow, keepsSign_narrow width, ?_⟩
      intro flags
      have sameFamily : (shape.withFlags flags).type.family = .float := isFloat
      have samePattern : exactReader (shape.withFlags flags) length = exactReader shape length :=
        rfl
      simp only [Shape.reader, sameFamily, Family.reader, binary, FieldReader.bind,
        samePattern, present, whole, bind_assoc]

namespace CharacterField

variable (shape : Shape) (width : IntegerWidth) (literal : String)

/-- Whole numbers from decimal fractions have the signs of what is left of the fraction. -/
theorem looksAtSign_truncated :
    shape.LooksAtSign (Value.integer width) fun other =>
      truncatedWhole other width literal >>= width.narrow := by
  refine ⟨parseDecimal literal width.label >>= fun decimal => wholePart decimal literal,
    width.narrow, keepsSign_narrow width, ?_⟩
  intro flags
  simp only [truncatedWhole, bind_assoc]

theorem looksAtSign_exactLong :
    shape.LooksAtSign (Value.integer .long) fun other => exactLong other literal := by
  simp only [exactLong]
  cases Numeral.signedWithin? fullWidth (Text.trim literal.toList) with
  | none => exact Shape.looksAtSign_of_error _ fun _ => rfl
  | some number =>
      exact ⟨.ok number, IntegerWidth.long.narrow, keepsSign_narrow .long, fun _ => rfl⟩

theorem looksAtSign_whole (protocol : Protocol) :
    shape.LooksAtSign (Value.integer width) fun other =>
      whole protocol other width literal := by
  cases protocol with
  | binary => exact looksAtSign_truncated shape width literal
  | text =>
      cases width with
      | long => exact looksAtSign_exactLong shape literal
      | byte => exact looksAtSign_truncated shape .byte literal
      | short => exact looksAtSign_truncated shape .short literal
      | int => exact looksAtSign_truncated shape .int literal

end CharacterField

theorem DecimalField.looksAtSign
    {shape : Shape}
    (isDecimal : shape.type.family = .decimal)
    (encoding : Encoding)
    (width : IntegerWidth)
    (length : Nat)
    (octets : Octets) :
    shape.LooksAtSign (Value.integer width) fun other =>
      (other.reader encoding (.integer width) length).interpret octets := by
  refine (CharacterField.looksAtSign_truncated shape width (Text.decode octets)).congr ?_
  intro flags
  have sameFamily : (shape.withFlags flags).type.family = .decimal := isDecimal
  simp only [Shape.reader, sameFamily, Family.reader, reader, FieldReader.text,
    FieldReader.whole, interpret_integer]

namespace CharacterField

variable {shape : Shape} (isText : shape.isBinary = false) (encoding : Encoding)
  (width : IntegerWidth) (length : Nat) (octets : Octets)

include isText

theorem looksAtSign_string (isString : shape.type.family = .string) :
    shape.LooksAtSign (Value.integer width) fun other =>
      (other.reader encoding (.integer width) length).interpret octets := by
  refine (looksAtSign_whole shape width (Text.decode octets) encoding.protocol).congr ?_
  intro flags
  have sameFamily : (shape.withFlags flags).type.family = .string := isString
  have sameCollation : (shape.withFlags flags).isBinary = false := isText
  simp only [Shape.reader, sameFamily, Family.reader, string, sameCollation]
  rfl

/-- A large object has no short numbers in any column. -/
theorem looksAtSign_blob (isBlob : shape.type.family = .blob) :
    shape.LooksAtSign (Value.integer width) fun other =>
      (other.reader encoding (.integer width) length).interpret octets := by
  have sameFamily (flags : UInt16) : (shape.withFlags flags).type.family = .blob := isBlob
  have sameCollation (flags : UInt16) : (shape.withFlags flags).isBinary = false := isText
  cases width with
  | short =>
      refine Shape.looksAtSign_of_error (.incompatible shape.type IntegerWidth.short.label) ?_
      intro flags
      simp only [Shape.reader, sameFamily, Family.reader, blob]
      rfl
  -- All other widths are had as from a text.
  | byte | int | long =>
      refine (looksAtSign_whole shape _ (Text.decode octets) encoding.protocol).congr ?_
      intro flags
      simp only [Shape.reader, sameFamily, Family.reader, blob, string, sameCollation]
      rfl

end CharacterField

/-- Whether a column looks at the sign of what it reads in a representation. -/
def Shape.ChecksSign (shape : Shape) (protocol : Protocol) : Target → Prop
  | .integer _ =>
      shape.type.family = .integer ∧ protocol = .text ∨
        shape.type.family = .float ∨ shape.type.family = .decimal ∨
        (shape.type.family = .string ∨ shape.type.family = .blob) ∧ shape.isBinary = false
  | .natural => shape.type.family = .integer ∧ protocol = .text
  | _ => False

theorem Shape.looksAtSign_reader
    {shape : Shape}
    {encoding : Encoding}
    {target : Target}
    (checksSign : shape.ChecksSign encoding.protocol target)
    (length : Nat)
    (octets : Octets) :
    shape.LooksAtSign target.toValue fun other =>
      (other.reader encoding target length).interpret octets := by
  rcases encoding with ⟨protocol, offset⟩
  cases target with
  | natural =>
      obtain ⟨isInteger, rfl⟩ := checksSign
      exact IntegerField.looksAtSign_natural isInteger offset length octets
  | integer width =>
      rcases checksSign with
        ⟨isInteger, rfl⟩ | isFloat | isDecimal | ⟨isString | isBlob, isText⟩
      · exact IntegerField.looksAtSign_integer isInteger offset width length octets
      · exact FloatField.looksAtSign isFloat ⟨protocol, offset⟩ width length octets
      · exact DecimalField.looksAtSign isDecimal ⟨protocol, offset⟩ width length octets
      · exact CharacterField.looksAtSign_string isText ⟨protocol, offset⟩ width length octets
          isString
      · exact CharacterField.looksAtSign_blob isText ⟨protocol, offset⟩ width length octets
          isBlob
  | _ => exact checksSign.elim

/-! ## Columns -/

namespace Column

theorem heedsLength_of_checksSign
    {column : Column}
    {encoding : Encoding}
    {target : Target}
    (checksSign : column.shape.ChecksSign encoding.protocol target) :
    column.shape.ignoresLength encoding target = false := by
  cases target with
  | natural => exact Shape.heedsLength_of_isInteger checksSign.1 encoding .natural
  | integer width => exact heedsLength_integer width
  | _ => exact checksSign.elim

theorem verdict_eq_of_differsInSign
    {signed unsigned : Column}
    (differ : signed.shape.DiffersInSign unsigned.shape)
    {encoding : Encoding}
    {target : Target}
    (checksSign : signed.shape.ChecksSign encoding.protocol target)
    (length : Nat)
    (start : Cursor) :
    (unsigned.decode encoding target length).verdict start =
      refuseNegative ((signed.decode encoding target length).verdict start) := by
  have signedHeeds : signed.shape.ignoresLength encoding target = false :=
    heedsLength_of_checksSign checksSign
  have unsignedHeeds : unsigned.shape.ignoresLength encoding target = false := by
    rw [Shape.ignoresLength, differ.type]
    exact signedHeeds
  rcases Nat.lt_or_ge start.remaining length with overrun | fits
  · rw [verdict_decode_of_lt signedHeeds overrun, verdict_decode_of_lt unsignedHeeds overrun]
    rfl
  · rw [verdict_decode_of_le signedHeeds fits, verdict_decode_of_le unsignedHeeds fits]
    exact Shape.LooksAtSign.verdictOf_eq differ
      (Shape.looksAtSign_reader checksSign length (start.rest.take length))

end Column

namespace IntegerField

/-- Without signs, the octets of a packed whole number spell one that is not negative. -/
theorem nonneg_of_binaryReader
    {shape : Shape}
    (isUnsigned : shape.isSigned = false)
    {length : Nat}
    {octets : Octets}
    {number : Int}
    (means : (binaryReader shape length).interpret octets = .ok number) :
    0 ≤ number := by
  rw [binaryReader] at means
  split at means
  · cases means
  · split at means
    · cases means
      rw [binaryNumber, isUnsigned]
      exact Int.natCast_nonneg _
    · cases means

/-- Whole numbers and the natural representation have the sign of the packed number. -/
theorem exists_keepsSign
    {shape : Shape}
    (isInteger : shape.type.family = .integer)
    (offset : Option ZoneOffset)
    {target : Target}
    (isWhole : target = .natural ∨ ∃ width, target = .integer width) :
    ∃ next,
      KeepsSign target.toValue next ∧
        ∀ length octets,
          (shape.reader ⟨.binary, offset⟩ target length).interpret octets =
            (binaryReader shape length).interpret octets >>= next := by
  rcases isWhole with rfl | ⟨width, rfl⟩
  · exact ⟨_, keepsSign_naturalInteger, interpret_reader_natural isInteger _⟩
  · exact ⟨_, keepsSign_narrow width, interpret_reader_integer isInteger _ width⟩

end IntegerField

/-- A packed whole number of a column without signs is not negative. -/
theorem Column.not_isNegative_of_packed
    {column : Column}
    (isInteger : column.shape.type.family = .integer)
    (isUnsigned : column.shape.isSigned = false)
    {offset : Option ZoneOffset}
    {target : Target}
    (isWhole : target = .natural ∨ ∃ width, target = .integer width)
    {length : Nat}
    {start : Cursor}
    {value : Value}
    (succeeds : (column.decode ⟨.binary, offset⟩ target length).verdict start = .ok value) :
    ¬ value.IsNegative := by
  have heedsLength := Shape.heedsLength_of_isInteger isInteger ⟨.binary, offset⟩ target
  obtain ⟨-, result, means, rfl⟩ :=
    (outcome_decode_eq_ok_iff_of_heeding heedsLength).mp (Read.verdict_eq_ok_iff.mp succeeds)
  obtain ⟨next, keepsSign, reads⟩ := IntegerField.exists_keepsSign isInteger offset isWhole
  rw [reads] at means
  obtain ⟨number, spells, made⟩ := exists_of_bind_eq_ok means
  have nonnegative := IntegerField.nonneg_of_binaryReader isUnsigned spells
  rw [keepsSign.value number result made]
  exact Int.not_lt.mpr nonnegative

/--
Of two columns that differ in signs alone, the one without them has the verdict of the
other, but for negative values, which overflow.  Packed whole numbers of a column without
signs are not negative.
-/
theorem columns_without_signs_refuse_negatives :
    (∀ signed unsigned : Column,
        signed.shape.DiffersInSign unsigned.shape →
          ∀ encoding target length start,
            signed.shape.ChecksSign encoding.protocol target →
              (unsigned.decode encoding target length).verdict start =
                refuseNegative ((signed.decode encoding target length).verdict start)) ∧
      ∀ column : Column,
        column.shape.type.family = .integer →
          column.shape.isSigned = false →
            ∀ offset target length start value,
              target = .natural ∨ (∃ width, target = .integer width) →
                (column.decode ⟨.binary, offset⟩ target length).verdict start = .ok value →
                  ¬ value.IsNegative :=
  ⟨fun _ _ differ _ _ length start checksSign =>
      Column.verdict_eq_of_differsInSign differ checksSign length start,
    fun _ isInteger isUnsigned _ _ _ _ _ isWhole succeeds =>
      Column.not_isNegative_of_packed isInteger isUnsigned isWhole succeeds⟩

/-- One and a half below zero is minus one with signs; the octet of it is 255 without. -/
theorem minus_one_without_sign_is_refused :
    let signed := Column.generated "rate" .decimal 5 0
    let unsigned := Column.generated "rate" .decimal 5 0x20
    let spelled := Cursor.ofPacket (Text.encode "-1.5")
    let level := Column.generated "level" .tinyInt 3 0x20
    let packed := Cursor.ofPacket [0xFF]
    (signed.shape.DiffersInSign unsigned.shape ∧
        signed.shape.ChecksSign .text (.integer .byte) ∧
        (signed.decode ⟨.text, none⟩ (.integer .byte) 4).verdict spelled =
          .ok (.integer .byte (-1)) ∧
        (unsigned.decode ⟨.text, none⟩ (.integer .byte) 4).verdict spelled =
          .error (.value .overflow)) ∧
      level.shape.isSigned = false ∧
        (level.decode ⟨.binary, none⟩ .natural 1).verdict packed =
          .ok (.integer .int 255) ∧
        ¬ (Value.integer .int 255).IsNegative := by
  intro signed unsigned spelled level packed
  have otherFlags :
      ∀ bit, bit ≠ ColumnFlag.unsigned.bit →
        unsigned.shape.flags.toNat.testBit bit = signed.shape.flags.toNat.testBit bit := by
    intro bit other
    change (2 ^ ColumnFlag.unsigned.bit).testBit bit = Nat.testBit 0 bit
    rw [Nat.testBit_two_pow_of_ne (Ne.symm other), Nat.zero_testBit]
  have differ : signed.shape.DiffersInSign unsigned.shape :=
    ⟨rfl, rfl, rfl, rfl, otherFlags, by decide, by decide⟩
  have checksSign : signed.shape.ChecksSign .text (.integer .byte) := .inr (.inr (.inl rfl))
  have withSigns :
      (signed.decode ⟨.text, none⟩ (.integer .byte) 4).verdict spelled =
        .ok (.integer .byte (-1)) := by
    decide
  have had :
      (level.decode ⟨.binary, none⟩ .natural 1).verdict packed = .ok (.integer .int 255) := by
    decide
  obtain ⟨refused, notNegative⟩ := columns_without_signs_refuse_negatives
  have withoutSigns := refused signed unsigned differ ⟨.text, none⟩ _ 4 spelled checksSign
  rw [withSigns] at withoutSigns
  exact ⟨⟨differ, checksSign, withSigns, withoutSigns⟩, by decide, had,
    notNegative level rfl (by decide) none .natural 1 packed _ (.inl rfl) had⟩

end ResultSet
