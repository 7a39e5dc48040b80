import ResultSet.Proofs.Field.Interpretation
import ResultSet.Proofs.Field.Verdict

namespace ResultSet

/-!
# Whole numbers of all widths

A family that reads whole numbers first reads one of full width, looks at its sign,
and narrows it last.  So the widths agree: a narrower one has what a long one has as
far as it fits, and fails as the long one does.  The natural representation of a whole
number is the narrowest of those that hold it.
-/

/-! ## Narrowing -/

/-- What fits a word fits a wider one. -/
theorem Numeral.fitsSigned_of_le
    {bits wider : Nat}
    (isWider : bits ≤ wider)
    {number : Int}
    (fitsBits : fitsSigned bits number = true) :
    fitsSigned wider number = true := by
  simp only [fitsSigned, decide_eq_true_eq] at fitsBits ⊢
  have atMost : (2 : Int) ^ (bits - 1) ≤ 2 ^ (wider - 1) := by
    exact_mod_cast Nat.pow_le_pow_right (by decide : 0 < 2) (Nat.sub_le_sub_right isWider 1)
  omega

namespace IntegerWidth

theorem bits_le_long (width : IntegerWidth) : width.bits ≤ long.bits := by
  cases width <;> decide

/-- What fits a width fits the widest one. -/
theorem fits_long_of_fits
    {width : IntegerWidth}
    {number : Int}
    (fitsWidth : width.fits number = true) :
    long.fits number = true :=
  Numeral.fitsSigned_of_le width.bits_le_long fitsWidth

/-- What fits a width fits the full width at which literals are read. -/
theorem fitsSigned_fullWidth_of_fits
    {width : IntegerWidth}
    {number : Int}
    (fitsWidth : width.fits number = true) :
    Numeral.fitsSigned fullWidth number = true :=
  Numeral.fitsSigned_of_le (Nat.le_trans width.bits_le_long (by decide)) fitsWidth

/-- A number of full width in a narrower one. -/
def narrowed
    (width : IntegerWidth)
    (number : Int) :
    Except ValueErrorKind Int :=
  if width.fits number then
    .ok number
  else
    .error .overflow

theorem judged_narrow
    (width : IntegerWidth)
    (number : Int) :
    judged (width.narrow number) = width.narrowed number := by
  rw [narrow, narrowed]
  split
  · rfl
  · rfl

end IntegerWidth

/-- A column takes the numbers that are not negative, and the others if it has signs. -/
theorem Shape.checkSign_eq
    (shape : Shape)
    (number : Int) :
    shape.checkSign number =
      if 0 ≤ number ∨ shape.isSigned then .ok number else .error (.negative number) := by
  have refused :
      number < 0 ∧ shape.isSigned = false ↔ ¬ (0 ≤ number ∨ shape.isSigned = true) := by
    rw [not_or, Int.not_le, Bool.not_eq_true]
  rw [checkSign]
  simp only [refused, ite_not]

/-- A number overflows if it does not fit the width or the column does not have its sign. -/
theorem Shape.judged_checkSign_narrow
    (shape : Shape)
    (width : IntegerWidth)
    (number : Int) :
    judged (shape.checkSign number >>= width.narrow) =
      if width.fits number ∧ (0 ≤ number ∨ shape.isSigned) then
        .ok number
      else
        .error .overflow := by
  rw [shape.checkSign_eq]
  by_cases hasSign : 0 ≤ number ∨ shape.isSigned = true
  · simp only [hasSign, ↓reduceIte, and_true]
    exact IntegerWidth.judged_narrow width number
  · simp only [hasSign, ↓reduceIte, and_false]
    rfl

/-- Whether the meanings in all widths are narrowed from one number of full width. -/
def NarrowsLast (meaning : IntegerWidth → Except ValueError Int) : Prop :=
  ∃ full : Except ValueErrorKind Int,
    ∀ width, judged (meaning width) = full >>= width.narrowed

/-- A number of full width may depend on the width in the wording of its failure. -/
theorem NarrowsLast.of_judged
    (full : IntegerWidth → Except ValueError Int)
    {meaning : IntegerWidth → Except ValueError Int}
    (narrows : ∀ width, meaning width = full width >>= width.narrow)
    (alike : ∀ width, judged (full width) = judged (full .long)) :
    NarrowsLast meaning := by
  refine ⟨judged (full .long), fun width => ?_⟩
  rw [narrows, judged_bind, alike]
  simp only [IntegerWidth.judged_narrow]

/-! ## Families -/

namespace FloatField

/-- The whole part of a floating-point value of a column, before it is narrowed. -/
def signedWhole
    (shape : Shape)
    (number : BinaryNumber) :
    Except ValueError Int := do
  shape.checkSign (← number.wholePart)

theorem whole_eq
    (shape : Shape)
    (width : IntegerWidth)
    (number : BinaryNumber) :
    whole shape width number = signedWhole shape number >>= width.narrow := by
  rw [whole, signedWhole, bind_assoc]

theorem narrowsLast_interpretText
    (shape : Shape)
    (literal : String) :
    NarrowsLast fun width => interpretText shape literal (.integer width) := by
  refine .of_judged
    (fun _ => parseDouble literal >>= fun value => signedWhole shape value.number) ?_
    fun _ => rfl
  intro width
  simp only [interpretText, whole_eq, bind_assoc]

theorem narrowsLast_binary
    (shape : Shape)
    (length : Nat)
    (octets : Octets) :
    NarrowsLast fun width => (binary (.integer width) shape length).interpret octets := by
  refine .of_judged
    (fun _ => (exactReader shape length).interpret octets >>= fun pattern =>
      signedWhole shape pattern.number) ?_
    fun _ => rfl
  intro width
  simp only [binary, FieldReader.bind, present, whole_eq, bind_assoc]

end FloatField

/-- The name of the width stands in the wording only. -/
theorem judged_parseDecimal (literal first second : String) :
    judged (parseDecimal literal first) = judged (parseDecimal literal second) := by
  rw [parseDecimal, parseDecimal]
  split
  · rfl
  · rfl

/-- Decimal fractions and texts become whole numbers by one rule. -/
theorem DecimalField.interpret_integer
    (shape : Shape)
    (width : IntegerWidth)
    (literal : String) :
    interpret shape literal (.integer width) =
      CharacterField.truncatedWhole shape width literal >>= width.narrow := by
  rw [interpret, CharacterField.truncatedWhole, bind_assoc]
  simp only [bind_assoc]

theorem CharacterField.narrowsLast_truncated
    (shape : Shape)
    (literal : String) :
    NarrowsLast fun width => truncatedWhole shape width literal >>= width.narrow := by
  refine .of_judged (truncatedWhole shape · literal) (fun _ => rfl) fun width => ?_
  rw [truncatedWhole, truncatedWhole, judged_bind, judged_bind,
    judged_parseDecimal literal width.label]

/-- Whether a column has whole numbers of all widths from one number of full width. -/
def Shape.ReadsFullWidth (shape : Shape) (protocol : Protocol) : Prop :=
  shape.type.family = .integer ∨ shape.type.family = .float ∨ shape.type.family = .decimal ∨
    shape.type.family = .string ∧ shape.isBinary = false ∧ protocol = .binary

instance (shape : Shape) (protocol : Protocol) :
    Decidable (shape.ReadsFullWidth protocol) := by
  unfold Shape.ReadsFullWidth
  infer_instance

theorem Shape.narrowsLast
    {shape : Shape}
    {encoding : Encoding}
    (readsFullWidth : shape.ReadsFullWidth encoding.protocol)
    (length : Nat)
    (octets : Octets) :
    NarrowsLast fun width =>
      (shape.reader encoding (.integer width) length).interpret octets := by
  rcases encoding with ⟨protocol, offset⟩
  rcases readsFullWidth with isInteger | isFloat | isDecimal | ⟨isString, isText, rfl⟩
  · exact .of_judged _ (IntegerField.interpret_reader_integer isInteger _ · length octets)
      fun _ => rfl
  · simp only [reader, isFloat, Family.reader]
    cases protocol with
    | text => exact FloatField.narrowsLast_interpretText shape _
    | binary => exact FloatField.narrowsLast_binary shape length octets
  · simp only [reader, isDecimal, Family.reader]
    simp only [DecimalField.reader, FieldReader.text, FieldReader.whole,
      DecimalField.interpret_integer]
    exact CharacterField.narrowsLast_truncated shape _
  · simp only [reader, isString, Family.reader, CharacterField.string, isText]
    exact CharacterField.narrowsLast_truncated shape _

/-! ## Columns -/

/-- The verdict in a width on a field that spells a number. -/
def IntegerWidth.verdict
    (width : IntegerWidth)
    (number : Int) :
    Except FaultCategory Value :=
  if width.fits number then
    .ok (.integer width number)
  else
    .error (.value .overflow)

namespace IntegerWidth

variable {width : IntegerWidth} {number : Int}

theorem verdict_of_not_fits (tooWide : width.fits number = false) :
    width.verdict number = .error (.value .overflow) := by
  rw [verdict, tooWide]
  rfl

theorem not_fits_of_verdict
    {category : FaultCategory}
    (fails : width.verdict number = .error category) :
    width.fits number = false ∧ category = .value .overflow := by
  rw [verdict] at fails
  split at fails
  · cases fails
  · rename_i tooWide
    cases fails
    exact ⟨Bool.eq_false_iff.mpr tooWide, rfl⟩

theorem verdict_eq_ok_iff
    {value : Value} :
    width.verdict number = .ok value ↔
      width.fits number = true ∧ value = .integer width number := by
  rw [verdict]
  split
  · rename_i fits
    rw [Except.ok.injEq, and_iff_right fits]
    exact eq_comm
  · rename_i tooWide
    constructor
    · rintro ⟨⟩
    · rintro ⟨fits, -⟩
      exact absurd fits tooWide

theorem verdict_eq_ok_integer_iff
    {other : Int} :
    width.verdict number = .ok (.integer width other) ↔
      width.fits number = true ∧ other = number := by
  rw [verdict_eq_ok_iff, Value.integer.injEq, and_iff_right rfl]

end IntegerWidth

/-- What is narrowed and then taken for a value is judged as the value. -/
theorem mapError_map_narrowed
    (full : Except ValueErrorKind Int)
    (width : IntegerWidth) :
    ((full >>= width.narrowed).map (Value.integer width)).mapError FaultCategory.value =
      full.mapError FaultCategory.value >>= width.verdict := by
  cases full with
  | error kind => rfl
  | ok number =>
      have narrowed :
          ((width.narrowed number).map (Value.integer width)).mapError FaultCategory.value =
            width.verdict number := by
        rw [IntegerWidth.narrowed, IntegerWidth.verdict]
        by_cases fits : width.fits number = true
        · rw [if_pos fits, if_pos fits]
          rfl
        · rw [if_neg fits, if_neg fits]
          rfl
      exact narrowed

/-- How a narrower whole number of a field goes by the long one. -/
structure Column.Narrows
    (column : Column)
    (encoding : Encoding)
    (width : IntegerWidth)
    (length : Nat)
    (start : Cursor) :
    Prop where
  succeeds :
    ∀ value,
      (column.decode encoding (.integer width) length).verdict start = .ok value ↔
        ∃ number,
          (column.decode encoding (.integer .long) length).verdict start =
              .ok (.integer .long number) ∧
            width.fits number = true ∧
            value = .integer width number
  overflows :
    ∀ number,
      (column.decode encoding (.integer .long) length).verdict start =
          .ok (.integer .long number) →
        width.fits number = false →
          (column.decode encoding (.integer width) length).verdict start =
            .error (.value .overflow)
  fails :
    ∀ category,
      (column.decode encoding (.integer .long) length).verdict start = .error category →
        (column.decode encoding (.integer width) length).verdict start = .error category

namespace Column.Narrows

variable {column : Column} {encoding : Encoding} {width : IntegerWidth} {length : Nat}
  {start : Cursor}

/-- A field without a number fails in one category in both widths. -/
theorem of_error
    {category : FaultCategory}
    (inWidth :
      (column.decode encoding (.integer width) length).verdict start = .error category)
    (inLong :
      (column.decode encoding (.integer .long) length).verdict start = .error category) :
    column.Narrows encoding width length start where
  succeeds value := by
    rw [inWidth, inLong]
    constructor
    · rintro ⟨⟩
    · rintro ⟨_, ⟨⟩, _⟩
  overflows number succeeds := by
    rw [inLong] at succeeds
    cases succeeds
  fails other fails := by
    rw [inLong] at fails
    rw [inWidth, fails]

/-- A field with a number has it in each width that it fits. -/
theorem of_number
    {number : Int}
    (inWidth :
      (column.decode encoding (.integer width) length).verdict start = width.verdict number)
    (inLong :
      (column.decode encoding (.integer .long) length).verdict start =
        IntegerWidth.long.verdict number) :
    column.Narrows encoding width length start where
  succeeds value := by
    rw [inWidth, inLong, IntegerWidth.verdict_eq_ok_iff]
    constructor
    · rintro ⟨fits, same⟩
      have fitsLong := IntegerWidth.fits_long_of_fits fits
      exact ⟨number, IntegerWidth.verdict_eq_ok_iff.mpr ⟨fitsLong, rfl⟩, fits, same⟩
    · rintro ⟨other, succeeds, fits, same⟩
      obtain ⟨-, rfl⟩ := IntegerWidth.verdict_eq_ok_integer_iff.mp succeeds
      exact ⟨fits, same⟩
  overflows other succeeds tooWide := by
    rw [inLong] at succeeds
    obtain ⟨-, rfl⟩ := IntegerWidth.verdict_eq_ok_integer_iff.mp succeeds
    rw [inWidth, IntegerWidth.verdict_of_not_fits tooWide]
  fails category fails := by
    rw [inLong] at fails
    obtain ⟨tooWideForLong, rfl⟩ := IntegerWidth.not_fits_of_verdict fails
    have tooWide : width.fits number = false := by
      rw [Bool.eq_false_iff] at tooWideForLong ⊢
      exact fun fits => tooWideForLong (IntegerWidth.fits_long_of_fits fits)
    rw [inWidth, IntegerWidth.verdict_of_not_fits tooWide]

end Column.Narrows

/-- How the natural representation of a field goes by the whole numbers of two widths. -/
structure Column.ChoosesNarrowest
    (column : Column)
    (encoding : Encoding)
    (length : Nat)
    (start : Cursor) :
    Prop where
  int :
    ∀ number,
      (column.decode encoding .natural length).verdict start = .ok (.integer .int number) ↔
        (column.decode encoding (.integer .int) length).verdict start =
          .ok (.integer .int number)
  long :
    ∀ number,
      (column.decode encoding .natural length).verdict start = .ok (.integer .long number) ↔
        (column.decode encoding (.integer .long) length).verdict start =
            .ok (.integer .long number) ∧
          IntegerWidth.int.fits number = false
  otherwise :
    ∀ value,
      (column.decode encoding .natural length).verdict start = .ok value →
        ∃ number,
          value = .integer .int number ∨
            value = .integer .long number ∨
            value = .decimal (Decimal.ofInt number) ∧ IntegerWidth.long.fits number = false

theorem naturalInteger_eq_int_iff
    {number other : Int} :
    naturalInteger number = .integer .int other ↔
      IntegerWidth.int.fits number = true ∧ other = number := by
  rw [naturalInteger]
  split
  · rename_i fits
    rw [Value.integer.injEq, and_iff_right rfl, and_iff_right fits]
    exact eq_comm
  · rename_i tooWide
    constructor
    · split
      · rintro ⟨⟩
      · rintro ⟨⟩
    · rintro ⟨fits, -⟩
      exact absurd fits tooWide

theorem naturalInteger_eq_long_iff
    {number other : Int} :
    naturalInteger number = .integer .long other ↔
      IntegerWidth.long.fits number = true ∧
        IntegerWidth.int.fits number = false ∧
        other = number := by
  rw [naturalInteger]
  split
  · rename_i fits
    constructor
    · rintro ⟨⟩
    · rintro ⟨-, tooWide, -⟩
      rw [fits] at tooWide
      cases tooWide
  · rename_i tooWide
    split
    · rename_i fitsLong
      rw [Value.integer.injEq, and_iff_right rfl, and_iff_right fitsLong,
        and_iff_right (Bool.eq_false_iff.mpr tooWide)]
      exact eq_comm
    · rename_i tooWideForLong
      constructor
      · rintro ⟨⟩
      · rintro ⟨fitsLong, -⟩
        exact absurd fitsLong tooWideForLong

/-- A whole number has one of three natural representations. -/
theorem naturalInteger_cases (number : Int) :
    naturalInteger number = .integer .int number ∨
      naturalInteger number = .integer .long number ∨
      naturalInteger number = .decimal (Decimal.ofInt number) ∧
        IntegerWidth.long.fits number = false := by
  rw [naturalInteger]
  split
  · exact .inl rfl
  · split
    · exact .inr (.inl rfl)
    · rename_i tooWide
      exact .inr (.inr ⟨rfl, Bool.eq_false_iff.mpr tooWide⟩)

namespace Column.ChoosesNarrowest

variable {column : Column} {encoding : Encoding} {length : Nat} {start : Cursor}

theorem of_error
    {category : FaultCategory}
    (inInt : (column.decode encoding (.integer .int) length).verdict start = .error category)
    (inLong :
      (column.decode encoding (.integer .long) length).verdict start = .error category)
    (natural : (column.decode encoding .natural length).verdict start = .error category) :
    column.ChoosesNarrowest encoding length start where
  int number := by rw [natural, inInt]
  long number := by
    rw [natural, inLong]
    constructor
    · rintro ⟨⟩
    · rintro ⟨⟨⟩, -⟩
  otherwise value succeeds := by
    rw [natural] at succeeds
    cases succeeds

theorem of_number
    {number : Int}
    (inInt :
      (column.decode encoding (.integer .int) length).verdict start =
        IntegerWidth.int.verdict number)
    (inLong :
      (column.decode encoding (.integer .long) length).verdict start =
        IntegerWidth.long.verdict number)
    (natural :
      (column.decode encoding .natural length).verdict start = .ok (naturalInteger number)) :
    column.ChoosesNarrowest encoding length start where
  int other := by
    rw [natural, inInt, Except.ok.injEq, naturalInteger_eq_int_iff,
      IntegerWidth.verdict_eq_ok_integer_iff]
  long other := by
    rw [natural, inLong, Except.ok.injEq, naturalInteger_eq_long_iff,
      IntegerWidth.verdict_eq_ok_integer_iff]
    constructor
    · rintro ⟨fitsLong, tooWide, rfl⟩
      exact ⟨⟨fitsLong, rfl⟩, tooWide⟩
    · rintro ⟨⟨fitsLong, rfl⟩, tooWide⟩
      exact ⟨fitsLong, tooWide, rfl⟩
  otherwise value succeeds := by
    rw [natural] at succeeds
    cases succeeds
    exact ⟨number, naturalInteger_cases number⟩

end Column.ChoosesNarrowest

namespace Column

variable {column : Column} {encoding : Encoding} {length : Nat} {start : Cursor}

theorem heedsLength_integer (width : IntegerWidth) :
    column.shape.ignoresLength encoding (.integer width) = false := by
  simp [Shape.ignoresLength]

/-- A field comes to one number of full width, or fails in one category, in all widths. -/
theorem exists_fullWidth
    (readsFullWidth : column.shape.ReadsFullWidth encoding.protocol)
    (length : Nat)
    (start : Cursor) :
    ∃ full : Except FaultCategory Int,
      ∀ width,
        (column.decode encoding (.integer width) length).verdict start =
          full >>= width.verdict := by
  rcases Nat.lt_or_ge start.remaining length with overrun | fits
  · exact ⟨.error .tooSmall, fun width =>
      verdict_decode_of_lt (heedsLength_integer width) overrun⟩
  · obtain ⟨full, narrowsLast⟩ :=
      Shape.narrowsLast readsFullWidth length (start.rest.take length)
    refine ⟨full.mapError .value, fun width => ?_⟩
    rw [verdict_decode_of_le (heedsLength_integer width) fits, narrowsLast width]
    exact mapError_map_narrowed full width

theorem narrows
    (readsFullWidth : column.shape.ReadsFullWidth encoding.protocol)
    (width : IntegerWidth)
    (length : Nat)
    (start : Cursor) :
    column.Narrows encoding width length start := by
  obtain ⟨full, comesTo⟩ := exists_fullWidth readsFullWidth length start
  cases full with
  | error category => exact .of_error (comesTo width) (comesTo .long)
  | ok number => exact .of_number (comesTo width) (comesTo .long)

/-- A field of a whole number is judged by one number, also in its natural representation. -/
theorem exists_fullWidth_natural
    (isInteger : column.shape.type.family = .integer)
    (encoding : Encoding)
    (length : Nat)
    (start : Cursor) :
    ∃ full : Except FaultCategory Int,
      (∀ width,
        (column.decode encoding (.integer width) length).verdict start =
          full >>= width.verdict) ∧
        (column.decode encoding .natural length).verdict start = full.map naturalInteger := by
  have heedsLength := Shape.heedsLength_of_isInteger isInteger encoding .natural
  rcases Nat.lt_or_ge start.remaining length with overrun | fits
  · exact ⟨.error .tooSmall, fun width =>
      verdict_decode_of_lt (heedsLength_integer width) overrun,
      verdict_decode_of_lt heedsLength overrun⟩
  · generalize isWhole :
      (IntegerField.wholeReader encoding.protocol column.shape length).interpret
        (start.rest.take length) = whole
    refine ⟨(judged whole).mapError .value, fun width => ?_, ?_⟩
    · rw [verdict_decode_of_le (heedsLength_integer width) fits,
        IntegerField.interpret_reader_integer isInteger, isWhole, judged_bind]
      simp only [IntegerWidth.judged_narrow]
      exact mapError_map_narrowed (judged whole) width
    · rw [verdict_decode_of_le heedsLength fits,
        IntegerField.interpret_reader_natural isInteger, isWhole]
      cases whole with
      | ok number => rfl
      | error error => rfl

theorem choosesNarrowest
    (isInteger : column.shape.type.family = .integer)
    (encoding : Encoding)
    (length : Nat)
    (start : Cursor) :
    column.ChoosesNarrowest encoding length start := by
  obtain ⟨full, comesTo, natural⟩ := exists_fullWidth_natural isInteger encoding length start
  cases full with
  | error category => exact .of_error (comesTo .int) (comesTo .long) natural
  | ok number => exact .of_number (comesTo .int) (comesTo .long) natural

end Column

/--
Wherever whole numbers are read at full width, a narrower one goes by the long one; and
the natural representation of a whole number goes by the two widths that it chooses from.
-/
theorem narrowing_is_coherent
    {column : Column}
    {encoding : Encoding}
    (readsFullWidth : column.shape.ReadsFullWidth encoding.protocol)
    (length : Nat)
    (start : Cursor) :
    (∀ width, column.Narrows encoding width length start) ∧
      (column.shape.type.family = .integer →
        column.ChoosesNarrowest encoding length start) :=
  ⟨fun width => Column.narrows readsFullWidth width length start,
    fun isInteger => Column.choosesNarrowest isInteger encoding length start⟩

/-- Three thousand million is a long number and no narrower one. -/
theorem three_thousand_million_narrows_to_nothing :
    let column := Column.generated "count" .bigInt 20 0
    let encoding : Encoding := ⟨.text, none⟩
    let start := Cursor.ofPacket (Text.encode "3000000000")
    column.shape.ReadsFullWidth encoding.protocol ∧
      (column.decode encoding (.integer .long) 10).verdict start =
        .ok (.integer .long 3000000000) ∧
      (column.decode encoding (.integer .int) 10).verdict start = .error (.value .overflow) ∧
      (column.decode encoding .natural 10).verdict start =
        .ok (.integer .long 3000000000) := by
  intro column encoding start
  have readsFullWidth : column.shape.ReadsFullWidth encoding.protocol := .inl rfl
  have long :
      (column.decode encoding (.integer .long) 10).verdict start =
        .ok (.integer .long 3000000000) := by
    decide
  have tooWide : IntegerWidth.int.fits 3000000000 = false := by decide
  obtain ⟨narrows, choosesNarrowest⟩ := narrowing_is_coherent readsFullWidth 10 start
  have natural := ((choosesNarrowest rfl).long _).mpr ⟨long, tooWide⟩
  exact ⟨readsFullWidth, long, (narrows .int).overflows _ long tooWide, natural⟩

end ResultSet
