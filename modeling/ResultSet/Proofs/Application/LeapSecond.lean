import ResultSet.Proofs.Application.Literal
import ResultSet.Proofs.Application.SentYear

namespace ResultSet

/-!
# Leap seconds as literals and as parameters

In a leap second there are a million microseconds and more.  A literal shows all seven
digits of them, of which only the first six are read, so that it is read as a moment in the
second itself.  A packed parameter has the number as it is.  It is read back where local
time keeps the minutes of universal time, and refused where it does not, for only the last
second of a minute can have a leap second behind it.
-/

/-! ## Seven digits -/

/-- Of the microseconds of a leap second, all digits are read but the last one. -/
theorem fractionMicroseconds_of_seven_digits
    {microseconds : Nat}
    (sevenDigits : 10 ^ 6 ≤ microseconds ∧ microseconds < 10 ^ 7) :
    fractionMicroseconds (Numeral.padded microsecondDigits microseconds).toList =
      microseconds / 10 := by
  have width : (Numeral.digits microseconds).length = 7 :=
    Numeral.length_digits (by decide) sevenDigits.1 sevenDigits.2
  have unpadded :
      (Numeral.padded microsecondDigits microseconds).toList = Numeral.digits microseconds := by
    rw [Numeral.toList_padded, width]
    rfl
  have areDigits : ∀ digit ∈ Numeral.digits microseconds, digit.isDigit = true :=
    Numeral.isDigit_of_natural? (Numeral.natural?_digits microseconds)
  have enough : microsecondDigits ≤ (Numeral.digits microseconds).length := by
    rw [width]
    decide
  rw [unpadded, fractionMicroseconds_of_length_ge areDigits enough, width,
    Numeral.value_digits]
  rfl

namespace TimeOfDay

/-- The time of day with the last digit of its microseconds dropped, as a tenth of them. -/
def shortened (time : TimeOfDay) : TimeOfDay where
  hour := time.hour
  minute := time.minute
  second := time.second
  nanosecond := 1000 * (time.microseconds / 10)
  onClock := by
    obtain ⟨hour, minute, second, nanosecond⟩ := time.onClock
    simp only [nanosecondsPerSecond] at nanosecond
    simp only [OnClock, microseconds, nanosecondsPerSecond]
    omega

theorem keepsClock_shortened : KeepsClock shortened :=
  ⟨fun _ => rfl, fun _ _ => rfl⟩

/-- A tenth of the microseconds of a leap second is less than a second. -/
theorem ofMicroseconds?_shortened (time : TimeOfDay) :
    ofMicroseconds? time.hour time.minute time.second (time.microseconds / 10) =
      some time.shortened := by
  have small : 1000 * (time.microseconds / 10) < nanosecondsPerSecond := by
    have nanosecond := time.onClock.2.2.2
    simp only [nanosecondsPerSecond] at nanosecond ⊢
    simp only [microseconds]
    omega
  exact ofMicroseconds?_eq_some_iff.mpr ⟨.inr small, rfl, rfl, rfl, rfl⟩

end TimeOfDay

namespace DateTime

/-- The date-time with the last digit of its microseconds dropped. -/
def shortened : DateTime → DateTime :=
  withTime TimeOfDay.shortened

variable {dateTime localTime : DateTime} {offset : Option ZoneOffset}

theorem sevenDigits_of_inLeapSecond (inLeapSecond : dateTime.InLeapSecond) :
    10 ^ 6 ≤ dateTime.time.microseconds ∧ dateTime.time.microseconds < 10 ^ 7 := by
  have nanosecond := dateTime.time.onClock.2.2.2
  simp only [InLeapSecond, nanosecondsPerSecond] at inLeapSecond nanosecond
  simp only [TimeOfDay.microseconds]
  omega

/-- In a leap second, dropping a digit of the microseconds gives another date-time. -/
theorem shortened_ne_cut (inLeapSecond : dateTime.InLeapSecond) :
    dateTime.shortened ≠ dateTime.cut microsecondDigits := by
  intro same
  have sevenDigits := sevenDigits_of_inLeapSecond inLeapSecond
  have sameFraction :
      1000 * (dateTime.time.microseconds / 10) = dateTime.time.microseconds * 1000 :=
    congrArg (fun other => other.time.nanosecond) same
  omega

/-- A leap second has a name in local time if minutes begin together. -/
theorem isNamed_of_localTime?_iff
    (isLocal : dateTime.localTime? offset = some localTime)
    (inLeapSecond : dateTime.InLeapSecond)
    (lastSecond : dateTime.time.second = 59) :
    localTime.time.IsNamed ↔ MovesByMinutes offset := by
  -- The fraction is the same in local time, so that the second alone decides.
  have localLeapSecond : ¬ localTime.time.nanosecond < nanosecondsPerSecond :=
    Nat.not_lt.mpr ((inLeapSecond_of_localTime? isLocal).mpr inLeapSecond)
  rw [TimeOfDay.IsNamed, or_iff_left localLeapSecond,
    second_of_localTime?_eq_iff isLocal lastSecond]

end DateTime

/-! ## Both encodings -/

namespace DateTimeCodec

variable {column : Column} {dateTime localTime : DateTime} {offset : Option ZoneOffset}

/-- The text between the quotes of a literal with a fraction. -/
def fractionalText (dateTime : DateTime) : String :=
  dateTime.date.literal ++ " " ++
    clockText dateTime.time.hour dateTime.time.minute dateTime.time.second ++
    ("." ++ Numeral.padded microsecondDigits dateTime.time.microseconds)

theorem writeLocalLiteral_of_fraction (hasFraction : dateTime.time.microseconds ≠ 0) :
    writeLocalLiteral dateTime = Text.encode ("'" ++ fractionalText dateTime ++ "'") := by
  simp only [writeLocalLiteral, fractionalText, if_neg hasFraction, String.append_assoc]

/-- The literal of a leap second is read with the last digit of its microseconds dropped. -/
theorem parseDateTime_fractionalText
    (fromYearZero : 0 ≤ dateTime.date.year)
    (inLeapSecond : dateTime.InLeapSecond) :
    parseDateTime (fractionalText dateTime) = .ok (some dateTime.shortened) := by
  have isDate := DateCodec.parseDate_literal fromYearZero
  obtain ⟨year, sameYear⟩ := Int.eq_ofNat_of_zero_le fromYearZero
  rw [Date.literal, sameYear] at isDate
  let time := dateTime.time
  let digits := (Numeral.padded microsecondDigits time.microseconds).toList
  have spelled :
      (fractionalText dateTime).toList =
        (dateText year dateTime.date.month dateTime.date.day).toList ++
          ' ' :: ((clockText time.hour time.minute time.second).toList ++
            fractionSuffix (some digits)) := by
    simp [fractionalText, fractionSuffix, Date.literal, sameYear, time, digits]
  have isTime :
      TimeOfDay.ofMicroseconds? time.hour time.minute time.second
          (fractionMicroseconds digits) =
        some time.shortened := by
    rw [fractionMicroseconds_of_seven_digits (DateTime.sevenDigits_of_inLeapSecond inLeapSecond)]
    exact time.ofMicroseconds?_shortened
  exact parseDateTime_of_toList spelled (Numeral.isDigit_padded _ _) isDate isTime

/-- The literal of a leap second reads as a moment of the second itself. -/
theorem literalReadsAs_shortened
    (isTimestamp : column.shape.type = .dateTime ∨ column.shape.type = .timestamp)
    (isLocal : dateTime.localTime? offset = some localTime)
    (fromYearZero : 0 ≤ localTime.date.year)
    (inLeapSecond : dateTime.InLeapSecond) :
    dateTimeCodec.LiteralReadsAs column offset dateTime dateTime.shortened := by
  have localLeapSecond : localTime.InLeapSecond :=
    (DateTime.inLeapSecond_of_localTime? isLocal).mpr inLeapSecond
  have hasFraction : localTime.time.microseconds ≠ 0 := by
    have sevenDigits := DateTime.sevenDigits_of_inLeapSecond localLeapSecond
    omega
  have written :
      dateTimeCodec.write ⟨.text, offset⟩ dateTime =
        .ok (Text.encode ("'" ++ fractionalText localTime ++ "'")) := by
    rw [← writeLocalLiteral_of_fraction hasFraction,
      ← DateTime.universalToLocal_of_localTime? isLocal]
    rfl
  have universal :
      localTime.shortened.localToUniversal offset = dateTime.shortened := by
    rw [DateTime.shortened,
      DateTime.localToUniversal_withTime TimeOfDay.keepsClock_shortened,
      DateTime.localToUniversal_of_localTime? isLocal]
  refine Codec.literalReadsAs_of_text written (reader_text isTimestamp offset) ?_
  simp only [parseDateTime_fractionalText fromYearZero localLeapSecond, bind, Except.bind,
    Option.map_some, universal]
  rfl

/-- The parameter of a leap second is read back if local time has that second. -/
theorem verdict_decodeParameter_of_inLeapSecond
    (isDateTime : column.shape.type = .dateTime)
    (isLocal : dateTime.localTime? offset = some localTime)
    (isPacked : IsPackedYear localTime.date.year)
    (inLeapSecond : dateTime.InLeapSecond)
    (lastSecond : dateTime.time.second = 59) :
    (dateTimeCodec.decodeParameter column ⟨.binary, offset⟩).verdict
        (Cursor.ofPacket (writeLocalParameter localTime)) =
      if DateTime.MovesByMinutes offset then
        .ok (some (dateTime.cut microsecondDigits))
      else
        .error (.value .malformed) := by
  rw [verdict_decodeParameter isDateTime, DateTime.sent?_of_isPackedYear isPacked]
  simp only [DateTime.isNamed_of_localTime?_iff isLocal inLeapSecond lastSecond]
  by_cases sameMinutes : DateTime.MovesByMinutes offset
  · simp only [if_pos sameMinutes, DateTime.localToUniversal_of_localTime? isLocal]
  · simp only [if_neg sameMinutes]

end DateTimeCodec

/--
The literal of a date-time in a leap second is read as a moment in the second itself.  Its
packed parameter is read back, but for digits below a microsecond, where local time is
universal time moved by whole minutes, and is malformed in every other zone.
-/
theorem leap_seconds_are_lost_in_literals
    {column : Column}
    (isDateTime : column.shape.type = .dateTime)
    {offset : Option ZoneOffset}
    {dateTime localTime : DateTime}
    (isLocal : dateTime.localTime? offset = some localTime)
    (isPacked : IsPackedYear localTime.date.year)
    (inLeapSecond : dateTime.InLeapSecond)
    (lastSecond : dateTime.time.second = 59) :
    (dateTimeCodec.LiteralReadsAs column offset dateTime dateTime.shortened ∧
        dateTime.shortened ≠ dateTime.cut microsecondDigits) ∧
      ∃ octets,
        dateTimeCodec.write ⟨.binary, offset⟩ dateTime = .ok octets ∧
          (dateTimeCodec.decodeParameter column ⟨.binary, offset⟩).verdict
              (Cursor.ofPacket octets) =
            if DateTime.MovesByMinutes offset then
              .ok (some (dateTime.cut microsecondDigits))
            else
              .error (.value .malformed) := by
  refine ⟨⟨DateTimeCodec.literalReadsAs_shortened (.inl isDateTime) isLocal isPacked.1
    inLeapSecond, DateTime.shortened_ne_cut inLeapSecond⟩,
    DateTimeCodec.writeLocalParameter localTime, ?_,
    DateTimeCodec.verdict_decodeParameter_of_inLeapSecond isDateTime isLocal isPacked
      inLeapSecond lastSecond⟩
  rw [← DateTime.universalToLocal_of_localTime? isLocal]
  rfl

/-- The leap second of the year 2016 in a zone of whole hours, where it is in the year after. -/
theorem leap_second_of_2016_is_kept_when_packed :
    let column := Column.generated "at" .dateTime 26 0
    let offset : Option ZoneOffset := some ⟨3600, by decide⟩
    let dateTime : DateTime :=
      ⟨⟨2016, 12, 31, by decide⟩, ⟨23, 59, 59, 1500000000, by decide⟩⟩
    let localTime : DateTime :=
      ⟨⟨2017, 1, 1, by decide⟩, ⟨0, 59, 59, 1500000000, by decide⟩⟩
    let early : DateTime :=
      ⟨⟨2016, 12, 31, by decide⟩, ⟨23, 59, 59, 150000000, by decide⟩⟩
    dateTime.localTime? offset = some localTime ∧
      IsPackedYear localTime.date.year ∧
      dateTime.InLeapSecond ∧
      dateTime.time.second = 59 ∧
      dateTimeCodec.LiteralReadsAs column offset dateTime early ∧
      ∃ octets,
        dateTimeCodec.write ⟨.binary, offset⟩ dateTime = .ok octets ∧
          (dateTimeCodec.decodeParameter column ⟨.binary, offset⟩).verdict
              (Cursor.ofPacket octets) =
            .ok (some dateTime) := by
  intro column offset dateTime localTime early
  have isDateTime : column.shape.type = .dateTime := rfl
  have isLocal : dateTime.localTime? offset = some localTime := by decide
  have isPacked : IsPackedYear localTime.date.year := by decide
  have inLeapSecond : dateTime.InLeapSecond := by decide
  obtain ⟨⟨readsAs, -⟩, packed⟩ :=
    leap_seconds_are_lost_in_literals isDateTime isLocal isPacked inLeapSecond rfl
  have isEarly : dateTime.shortened = early := by decide
  have isWhole : dateTime.cut microsecondDigits = dateTime := by decide
  rw [isEarly] at readsAs
  rw [isWhole] at packed
  exact ⟨isLocal, isPacked, inLeapSecond, rfl, readsAs, packed⟩

/--
The leap second of the year 2016 is read from its literal more than a second early, and its
parameter is not read at all in a zone half a minute ahead.
-/
theorem leap_second_of_2016_is_not_read_back :
    let column := Column.generated "at" .dateTime 26 0
    let halfMinute : Option ZoneOffset := some ⟨30, by decide⟩
    let dateTime : DateTime :=
      ⟨⟨2016, 12, 31, by decide⟩, ⟨23, 59, 59, 1500000000, by decide⟩⟩
    let early : DateTime :=
      ⟨⟨2016, 12, 31, by decide⟩, ⟨23, 59, 59, 150000000, by decide⟩⟩
    let parameter : Octets :=
      [11, 0xE1, 0x07, 1, 1, 0, 0, 29, 0x60, 0xE3, 0x16, 0x00]
    dateTime.InLeapSecond ∧
      dateTime.cut microsecondDigits = dateTime ∧
      (dateTimeCodec.write ⟨.text, none⟩ dateTime =
          .ok (Text.encode "'2016-12-31 23:59:59.1500000'") ∧
        (dateTimeCodec.decode column ⟨.text, none⟩ 27).verdict
            (Cursor.ofPacket (Text.encode "2016-12-31 23:59:59.1500000")) =
          .ok (some early) ∧
        early ≠ dateTime) ∧
      dateTimeCodec.write ⟨.binary, halfMinute⟩ dateTime = .ok parameter ∧
        (dateTimeCodec.decodeParameter column ⟨.binary, halfMinute⟩).verdict
            (Cursor.ofPacket parameter) =
          .error (.value .malformed) := by
  intro column halfMinute dateTime early parameter
  refine ⟨by decide, by decide, ⟨?_, ?_, by decide⟩, ?_, ?_⟩
  · decide +kernel
  · decide +kernel
  · decide +kernel
  · decide +kernel

end ResultSet
