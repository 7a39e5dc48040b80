import ResultSet.Proofs.Calendar.Literal
import ResultSet.Proofs.Field.Interpretation

namespace ResultSet

/-!
# Durations as text

The text of a packed duration says what the duration is: its sign, its hours with the
days counted in, its minutes and its seconds, each in two digits or more, and as much
of its fraction as the column shows.  Five rules meet in it, and they are stated here
without the functions that write the text.
-/

/-! ## Numerals of a least width -/

namespace Numeral

/-- Digits that spell a number, with zeros in front up to a width and not beyond it. -/
structure IsPadded (width number : Nat) (digits : List Char) : Prop where
  areDigits : ∀ digit ∈ digits, digit.isDigit = true
  spells : Nat.ofDigitChars 10 digits 0 = number
  wide : width ≤ digits.length
  noSurplus : width < digits.length → digits.head? ≠ some '0'

/-- No numeral of two digits or more begins with a zero. -/
theorem head?_digits_ne_zero
    {number : Nat}
    (long : 1 < (digits number).length) :
    (digits number).head? ≠ some '0' := by
  intro zeroInFront
  obtain ⟨rest, shape⟩ := List.head?_eq_some_iff.mp zeroInFront
  have areDigits := isDigit_of_natural? (natural?_digits number)
  have spells := value_digits number
  rw [shape] at areDigits long
  rw [shape, value_cons] at spells
  have small : value rest < 10 ^ rest.length :=
    value_lt fun digit member => areDigits digit (List.mem_cons_of_mem _ member)
  have isNumber : value rest = number := by simpa [digitValue] using spells
  -- The number has room in the places behind the zero, so that the numeral ends there.
  have short : (digits number).length ≤ rest.length := by
    rw [List.length_cons] at long
    exact (length_digits_le_iff (by omega)).mpr (isNumber ▸ small)
  rw [shape, List.length_cons] at short
  omega

theorem isPadded_padded
    {width : Nat}
    (positive : 0 < width)
    (number : Nat) :
    IsPadded width number (padded width number).toList where
  areDigits := isDigit_padded width number
  spells := by
    rw [← value_eq_ofDigitChars, value_padded]
  wide := by
    rw [toList_padded, List.length_append, List.length_replicate]
    omega
  noSurplus surplus := by
    rw [toList_padded, List.length_append, List.length_replicate] at surplus
    have noZeros : width - (digits number).length = 0 := by omega
    rw [toList_padded, noZeros, List.replicate_zero, List.nil_append]
    exact head?_digits_ne_zero (by omega)

end Numeral

/-! ## Fractions of a second -/

/--
What a column shows of a fraction of a second: nothing when it declares no digits and
there is no fraction, and else a point and its digits, all six when it declares none,
the digits behind them being dropped.
-/
inductive IsFractionSuffix (decimals microseconds : Nat) : List Char → Prop where
  | hidden
      (declaresNone : decimals = 0)
      (isWhole : microseconds = 0) :
      IsFractionSuffix decimals microseconds []
  | shown
      {places : List Char}
      (hasFraction : ¬ (decimals = 0 ∧ microseconds = 0))
      (areDigits : ∀ digit ∈ places, digit.isDigit = true)
      (count : places.length = if decimals = 0 then 6 else min decimals 6)
      (truncated :
        Nat.ofDigitChars 10 places 0 = microseconds / 10 ^ (6 - places.length)) :
      IsFractionSuffix decimals microseconds ('.' :: places)

theorem isFractionSuffix_fractionText
    {microseconds : Nat}
    (small : microseconds < 10 ^ microsecondDigits)
    (decimals : Nat) :
    IsFractionSuffix decimals microseconds (fractionText microseconds decimals).toList := by
  have areDigits := Numeral.isDigit_padded microsecondDigits microseconds
  have places :
      (Numeral.padded microsecondDigits microseconds).toList.length = microsecondDigits :=
    Numeral.length_padded (by decide) small
  have count :
      ((Numeral.padded microsecondDigits microseconds).toList.take
          (shownDigits decimals)).length =
        shownDigits decimals := by
    rw [List.length_take, places, Nat.min_eq_left (shownDigits_le decimals)]
  rw [toList_fractionText, shownFraction]
  split
  · rename_i showsNothing
    exact .hidden showsNothing.1 showsNothing.2
  · rename_i hasFraction
    refine .shown hasFraction (fun digit member => areDigits digit (List.mem_of_mem_take member))
      count ?_
    rw [← Numeral.value_eq_ofDigitChars, Numeral.value_take areDigits, places,
      Numeral.value_padded, count]
    rfl

/-! ## Durations -/

namespace PackedDuration

/--
The parts of a duration that octets spell, the sign and the days in the first five of
them.  The clock and the microseconds are zero unless all their octets are there.
-/
structure SpelledBy (packed : PackedDuration) (octets : Octets) : Prop where
  negative : packed.negative = true ↔ octets.head? = some 1
  days : packed.days = Octets.littleEndian ((octets.drop 1).take 4)
  hours : packed.hours = if 8 ≤ octets.length then (octets.getD 5 0).toNat else 0
  minutes : packed.minutes = if 8 ≤ octets.length then (octets.getD 6 0).toNat else 0
  seconds : packed.seconds = if 8 ≤ octets.length then (octets.getD 7 0).toNat else 0
  microseconds :
    packed.microseconds =
      if 12 ≤ octets.length then Octets.littleEndian ((octets.drop 8).take 4) else 0

/-- The parts of a text that stands for a duration. -/
def RenderedAs
    (packed : PackedDuration)
    (decimals : Nat)
    (text : String) :
    Prop :=
  ∃ hours minutes seconds fraction : List Char,
    text.toList =
        (if packed.negative then ['-'] else []) ++
          (hours ++ ':' :: (minutes ++ ':' :: (seconds ++ fraction))) ∧
      Numeral.IsPadded 2 (24 * packed.days + packed.hours) hours ∧
      Numeral.IsPadded 2 packed.minutes minutes ∧
      Numeral.IsPadded 2 packed.seconds seconds ∧
      IsFractionSuffix decimals packed.microseconds fraction

variable {packed : PackedDuration} {octets : Octets} {decimals : Nat}

/-- Octets with all of the first group spell a duration. -/
theorem exists_spelledBy
    (hasDays : 5 ≤ octets.length) :
    ∃ packed, ofOctets octets = .ok packed ∧ packed.SpelledBy octets := by
  match octets with
  | sign :: lowest :: low :: high :: highest :: behind =>
      have counted (count : Nat) :
          count + 5 ≤ (sign :: lowest :: low :: high :: highest :: behind).length ↔
            count ≤ behind.length :=
        Nat.add_le_add_iff_right
      refine ⟨_, rfl, ?_⟩
      rw [PackedClock.ofOctets_eq]
      exact
        { negative := by simp [withClock]
          days := rfl
          hours := (if_congr (counted 3) rfl rfl).symm
          minutes := (if_congr (counted 3) rfl rfl).symm
          seconds := (if_congr (counted 3) rfl rfl).symm
          microseconds := (if_congr (counted 7) rfl rfl).symm }
  | [] | [_] | [_, _] | [_, _, _] | [_, _, _, _] => simp at hasDays

theorem renderedAs_literal
    (small : packed.microseconds < 10 ^ microsecondDigits) :
    packed.RenderedAs decimals (packed.literal decimals) := by
  refine ⟨(Numeral.padded 2 (24 * packed.days + packed.hours)).toList,
    (Numeral.padded 2 packed.minutes).toList, (Numeral.padded 2 packed.seconds).toList,
    (fractionText packed.microseconds decimals).toList, ?_,
    Numeral.isPadded_padded (by decide) _, Numeral.isPadded_padded (by decide) _,
    Numeral.isPadded_padded (by decide) _, isFractionSuffix_fractionText small decimals⟩
  have sign :
      (if packed.negative then "-" else "").toList =
        if packed.negative then ['-'] else [] := by
    cases packed.negative <;> rfl
  rw [literal, String.toList_append, String.toList_append, sign, List.append_assoc,
    toList_clockText_append]

/-- The hours of a duration fit a word of 64 bits with all its days counted in. -/
theorem SpelledBy.hours_lt
    (spelled : packed.SpelledBy octets) :
    24 * packed.days + packed.hours < 2 ^ 64 := by
  have fewDays : packed.days < 256 ^ 4 := by
    rw [spelled.days]
    refine Nat.lt_of_lt_of_le (Octets.littleEndian_lt _)
      (Nat.pow_le_pow_right (by decide) ?_)
    rw [List.length_take]
    exact Nat.min_le_left 4 _
  have fewHours : packed.hours < 256 := by
    rw [spelled.hours]
    split
    · exact UInt8.toNat_lt _
    · decide
  omega

end PackedDuration

/--
The text of a packed duration with all octets of its first group is its sign, its hours
with the days counted in, its minutes, its seconds and what the column shows of its
fraction; and the text is also the natural representation.
-/
theorem packed_duration_text_denotes_duration
    {column : Column}
    (isTime : column.shape.type.family = .time)
    (offset : Option ZoneOffset)
    {payload : Octets}
    (hasDays : 5 ≤ payload.length)
    (small : 12 ≤ payload.length →
      Octets.littleEndian ((payload.drop 8).take 4) < 1000000)
    {start : Cursor}
    (next : payload <+: start.rest) :
    ∃ (packed : PackedDuration) (text : String),
      packed.SpelledBy payload ∧
        packed.RenderedAs column.shape.decimals.toNat text ∧
        24 * packed.days + packed.hours < 2 ^ 64 ∧
        (column.decode ⟨.binary, offset⟩ .text payload.length).outcome start =
          .ok (.text text) ∧
        (column.decode ⟨.binary, offset⟩ .natural payload.length).outcome start =
          .ok (.text text) := by
  have isNotFloat : column.shape.type.family ≠ .float := by
    rw [isTime]
    decide
  obtain ⟨packed, means, spelled⟩ := PackedDuration.exists_spelledBy hasDays
  have smallFraction : packed.microseconds < 10 ^ microsecondDigits := by
    rw [spelled.microseconds]
    split
    · rename_i hasFraction
      exact small hasFraction
    · decide
  refine ⟨packed, packed.literal column.shape.decimals.toNat, spelled,
    PackedDuration.renderedAs_literal smallFraction, spelled.hours_lt, ?_, ?_⟩
  · rw [Column.outcome_decode_of_next isNotFloat _ _ next]
    simp only [Shape.reader, isTime, Family.reader, TemporalField.time,
      TemporalField.durationReader, PackedDuration.text_eq means]
    rfl
  · rw [Column.outcome_decode_of_next isNotFloat _ _ next]
    simp only [Shape.reader, isTime, Family.reader, TemporalField.time,
      FieldReader.interpret_map, TemporalField.durationReader, PackedDuration.text_eq means]
    rfl

/-- The most days and hours that octets can spell, in a column that shows milliseconds. -/
theorem longest_duration_text_denotes_duration :
    let column : Column :=
      { Column.generated "lasts" .time 10 0 with
        shape := ⟨Collation.utf8General, 10, .time, 0, 3⟩ }
    let payload : Octets :=
      [0x01, 0xFF, 0xFF, 0xFF, 0xFF, 0xFF, 0x3B, 0x05, 0x40, 0xE2, 0x01, 0x00]
    let start := Cursor.ofPacket payload
    ∃ packed : PackedDuration,
      packed.SpelledBy payload ∧
        packed.RenderedAs 3 "-103079215335:59:05.123" ∧
        (column.decode ⟨.binary, none⟩ .natural payload.length).outcome start =
          .ok (.text "-103079215335:59:05.123") := by
  intro column payload start
  have isTime : column.shape.type.family = .time := rfl
  have next : payload <+: start.rest := List.prefix_refl payload
  have shows :
      (column.decode ⟨.binary, none⟩ .natural payload.length).outcome start =
        .ok (.text "-103079215335:59:05.123") := by
    decide +kernel
  obtain ⟨packed, text, spelled, rendered, -, -, isNatural⟩ :=
    packed_duration_text_denotes_duration isTime none (by decide) (by decide) next
  cases isNatural.symm.trans shows
  exact ⟨packed, spelled, rendered, shows⟩

end ResultSet
