import ResultSet.Proofs.Calendar.Literal
import ResultSet.Proofs.Field.Interpretation
import ResultSet.Proofs.Text.Utf8

namespace ResultSet

/-!
# Dates and date-times in both encodings

The text of a packed date or date-time is what a plain query sends for it.  So it
must come to the same value when it is read in the text encoding: the same date,
or the same date-time as far as the column shows its fraction.  The date of all
zeros is no value in both.
-/

/-- The value with the fraction of a date-time cut after so many digits. -/
def Value.cut (digits : Nat) : Value → Value
  | .dateTime moment => .dateTime (moment.cut digits)
  | value => value

namespace PackedDateTime

variable {packed : PackedDateTime} {octets : Octets}

/-- The microseconds are those of their group of octets, and zero when it is not sent. -/
theorem microseconds_of_ofOctets
    (means : ofOctets octets = .ok packed) :
    packed.microseconds =
      if 11 ≤ octets.length then Octets.littleEndian ((octets.drop 7).take 4) else 0 := by
  rw [ofOctets.eq_def] at means
  split at means
  · cases means
    rfl
  · cases means
    rw [withClock, PackedClock.ofOctets_eq]
    simp
  · cases means

end PackedDateTime

namespace TemporalField

variable
  {shape : Shape}
  {offset : Option ZoneOffset}
  {octets : Octets}
  {length : Nat}
  {value : Value}

/-! ## What packed octets mean -/

theorem exists_packed_of_date
    (means : (date .binary .natural shape length).interpret octets = .ok value) :
    ∃ packed result,
      PackedDateTime.ofOctets octets = .ok packed ∧
        packed.date = .ok result ∧
        value = dateValue result := by
  obtain ⟨packed, spelled, behind⟩ := exists_of_bind_eq_ok means
  obtain ⟨result, named, isValue⟩ := exists_of_bind_eq_ok behind
  exact ⟨packed, result, spelled, named, (Except.ok.inj isValue).symm⟩

theorem exists_packed_of_timestamp
    (means : (timestamp .binary .natural shape offset length).interpret octets = .ok value) :
    ∃ packed result,
      PackedDateTime.ofOctets octets = .ok packed ∧
        packed.dateTime = .ok result ∧
        value = dateTimeValue offset result := by
  obtain ⟨packed, spelled, behind⟩ := exists_of_bind_eq_ok means
  obtain ⟨result, named, isValue⟩ := exists_of_bind_eq_ok behind
  exact ⟨packed, result, spelled, named, (Except.ok.inj isValue).symm⟩

/-! ## What their text means -/

theorem interpret_date_literal
    {packed : PackedDateTime}
    {result : Option Date}
    (named : packed.date = .ok result) :
    (date .text .natural shape length).interpret (Text.encode packed.dateLiteral) =
      .ok (dateValue result) := by
  simp only [date, FieldReader.text, FieldReader.whole, Text.decode_encode,
    PackedDateTime.parseDate_dateLiteral named]
  rfl

theorem interpret_timestamp_literal
    {packed : PackedDateTime}
    {decimals : Nat}
    {result : Option DateTime}
    (small : packed.microseconds < 10 ^ microsecondDigits)
    (named : packed.dateTime = .ok result) :
    (timestamp .text .natural shape offset length).interpret
        (Text.encode (packed.literal decimals)) =
      .ok (dateTimeValue offset (result.map (DateTime.cut (shownDigits decimals)))) := by
  simp only [timestamp, FieldReader.text, FieldReader.whole, Text.decode_encode,
    PackedDateTime.parseDateTime_literal small named]
  rfl

theorem cut_dateValue
    (digits : Nat)
    (result : Option Date) :
    (dateValue result).cut digits = dateValue result := by
  cases result <;> rfl

theorem cut_dateTimeValue
    (digits : Nat)
    (result : Option DateTime) :
    (dateTimeValue offset result).cut digits =
      dateTimeValue offset (result.map (DateTime.cut digits)) := by
  cases result with
  | none => rfl
  | some moment =>
      simp only [dateTimeValue, Value.cut, Option.map_some, DateTime.localToUniversal_cut]

/-! ## Both encodings -/

/--
A value and a text for packed octets belong together when the text reads as the value
with its fraction cut to the digits that the column shows.
-/
structure TextFor
    (shape : Shape)
    (offset : Option ZoneOffset)
    (octets : Octets)
    (value : Value)
    (text : String) : Prop where
  written :
    (shape.reader ⟨.binary, offset⟩ .text octets.length).interpret octets = .ok text
  read :
    (shape.reader ⟨.text, offset⟩ .natural (Text.encode text).length).interpret
        (Text.encode text) =
      .ok (value.cut (shownDigits shape.decimals.toNat))

theorem exists_textFor_of_date
    (isDate : shape.type.family = .date)
    (means :
      (shape.reader ⟨.binary, offset⟩ .natural octets.length).interpret octets = .ok value) :
    ∃ text, TextFor shape offset octets value text := by
  simp only [Shape.reader, isDate, Family.reader] at means
  obtain ⟨packed, result, spelled, named, rfl⟩ := exists_packed_of_date means
  refine ⟨packed.dateLiteral, ?_, ?_⟩
  · simp only [Shape.reader, isDate, Family.reader, date, packedDateTextReader,
      PackedDateTime.textOfDate_eq, spelled]
    rfl
  · simp only [Shape.reader, isDate, Family.reader, interpret_date_literal named,
      cut_dateValue]

theorem exists_textFor_of_timestamp
    (isTimestamp : shape.type.family = .timestamp)
    (small : 11 ≤ octets.length →
      Octets.littleEndian ((octets.drop 7).take 4) < 10 ^ microsecondDigits)
    (means :
      (shape.reader ⟨.binary, offset⟩ .natural octets.length).interpret octets = .ok value) :
    ∃ text, TextFor shape offset octets value text := by
  simp only [Shape.reader, isTimestamp, Family.reader] at means
  obtain ⟨packed, result, spelled, named, rfl⟩ := exists_packed_of_timestamp means
  have smallFraction : packed.microseconds < 10 ^ microsecondDigits := by
    rw [PackedDateTime.microseconds_of_ofOctets spelled]
    split
    · rename_i hasGroup
      exact small hasGroup
    · decide
  refine ⟨packed.literal shape.decimals.toNat, ?_, ?_⟩
  · simp only [Shape.reader, isTimestamp, Family.reader, timestamp,
      FieldReader.interpret_map, packedReader, spelled]
    rfl
  · simp only [Shape.reader, isTimestamp, Family.reader,
      interpret_timestamp_literal smallFraction named, cut_dateTimeValue]

end TemporalField

/--
A packed date or date-time with a value has a text too, and the text reads as the
value, with the fraction of a date-time cut to the digits that the column shows.
-/
theorem packed_temporal_text_reads_as_value
    {column : Column}
    (isTemporal :
      column.shape.type.family = .date ∨ column.shape.type.family = .timestamp)
    (offset : Option ZoneOffset)
    {payload : Octets}
    (small : 11 ≤ payload.length →
      Octets.littleEndian ((payload.drop 7).take 4) < 10 ^ microsecondDigits)
    {packed : Cursor}
    (packedNext : payload <+: packed.rest)
    {value : Value}
    (succeeds :
      (column.decode ⟨.binary, offset⟩ .natural payload.length).outcome packed = .ok value) :
    ∃ text : String,
      (column.decode ⟨.binary, offset⟩ .text payload.length).outcome packed =
          .ok (.text text) ∧
        ∀ spelled : Cursor,
          Text.encode text <+: spelled.rest →
            (column.decode ⟨.text, offset⟩ .natural (Text.encode text).length).outcome
                spelled =
              .ok (value.cut (shownDigits column.shape.decimals.toNat)) := by
  have isNotFloat : column.shape.type.family ≠ .float := by
    rcases isTemporal with isDate | isTimestamp
    · rw [isDate]
      decide
    · rw [isTimestamp]
      decide
  obtain ⟨_, means, rfl⟩ := (Column.outcome_decode_eq_ok_iff isNotFloat packedNext).mp succeeds
  obtain ⟨text, written, read⟩ :
      ∃ text, TemporalField.TextFor column.shape offset payload _ text := by
    rcases isTemporal with isDate | isTimestamp
    · exact TemporalField.exists_textFor_of_date isDate means
    · exact TemporalField.exists_textFor_of_timestamp isTimestamp small means
  refine ⟨text, ?_, fun spelled spelledNext => ?_⟩
  · exact (Column.outcome_decode_eq_ok_iff isNotFloat packedNext).mpr ⟨text, written, rfl⟩
  · exact (Column.outcome_decode_eq_ok_iff isNotFloat spelledNext).mpr ⟨_, read, rfl⟩

/-- A column that shows milliseconds, and a zone whose universal day is the leap day before. -/
theorem millisecond_text_reads_as_value :
    let column : Column :=
      { Column.generated "at" .dateTime 26 0 with
        shape := ⟨Collation.utf8General, 26, .dateTime, 0, 3⟩ }
    let offset : Option ZoneOffset := some ⟨7200, by decide⟩
    let payload : Octets :=
      [0xE8, 0x07, 0x03, 0x01, 0x00, 0x24, 0x05, 0x40, 0xE2, 0x01, 0x00]
    let packed := Cursor.ofPacket payload
    let value : Value :=
      .dateTime ⟨⟨2024, 2, 29, by decide⟩, ⟨22, 36, 5, 123456000, by decide⟩⟩
    (column.decode ⟨.binary, offset⟩ .natural payload.length).outcome packed = .ok value ∧
      ∃ text : String,
        (column.decode ⟨.binary, offset⟩ .text payload.length).outcome packed =
            .ok (.text text) ∧
          ∀ spelled : Cursor,
            Text.encode text <+: spelled.rest →
              (column.decode ⟨.text, offset⟩ .natural (Text.encode text).length).outcome
                  spelled =
                .ok (value.cut 3) := by
  intro column offset payload packed value
  have succeeds :
      (column.decode ⟨.binary, offset⟩ .natural payload.length).outcome packed = .ok value := by
    decide
  exact ⟨succeeds,
    packed_temporal_text_reads_as_value (.inr rfl) offset (by decide)
      (List.prefix_refl payload) succeeds⟩

end ResultSet
