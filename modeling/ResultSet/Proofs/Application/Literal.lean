import ResultSet.Application.Temporal
import ResultSet.Proofs.Calendar.Literal
import ResultSet.Proofs.Field.Interpretation
import ResultSet.Proofs.Text.Utf8

namespace ResultSet

/-!
# Literals of application types

A date or date-time is written into a statement as a quoted literal.  What stands
between the quotes is read from a column as the value that was written: a date as
it was, and a date-time but for its digits below a microsecond, whatever the zone
is and however many digits the year has.
-/

/-- The octet of the quotes around a literal. -/
def quote : UInt8 := 0x27

theorem encode_quoted (text : String) :
    Text.encode ("'" ++ text ++ "'") = quote :: (Text.encode text ++ [quote]) := by
  simp only [Text.encode, String.toList_append, List.flatMap_append]
  rfl

/--
A value is written as a quoted literal, and what stands between the quotes reads as a
result, in any packet and to its end.
-/
def Codec.LiteralReadsAs
    {type : ApplicationType}
    (codec : Codec type)
    (column : Column)
    (offset : Option ZoneOffset)
    (value result : type.Carrier) : Prop :=
  ∃ literal : Octets,
    codec.write ⟨.text, offset⟩ value = .ok (quote :: (literal ++ [quote])) ∧
      ∀ packet,
        Read.Accepts packet literal (codec.decode column ⟨.text, offset⟩ literal.length)
          (· = some result)

/-- A literal reads as what its text means. -/
theorem Codec.literalReadsAs_of_text
    {type : ApplicationType}
    {codec : Codec type}
    {column : Column}
    {offset : Option ZoneOffset}
    {value result : type.Carrier}
    {text : String}
    {interpret : String → Except ValueError (Option type.Carrier)}
    (written : codec.write ⟨.text, offset⟩ value = .ok (Text.encode ("'" ++ text ++ "'")))
    (reads : ∀ length,
      codec.reader ⟨.text, offset⟩ column.shape length = .text length interpret)
    (means : interpret text = .ok (some result)) :
    codec.LiteralReadsAs column offset value result := by
  refine ⟨Text.encode text, written.trans (congrArg _ (encode_quoted text)), fun packet => ?_⟩
  apply FieldReader.accepts_framed
  · rw [reads, FieldReader.size_text]
  · rw [reads]
    simp only [FieldReader.text, FieldReader.whole, Text.decode_encode]
    exact means

namespace DateCodec

variable {date : Date}

/-- The literal of a date of a year from zero on is read as the date. -/
theorem parseDate_literal (fromYearZero : 0 ≤ date.year) :
    parseDate date.literal = .ok (some date) := by
  have named := dateOfParts_parts date
  obtain ⟨year, sameYear⟩ := Int.eq_ofNat_of_zero_le fromYearZero
  rw [sameYear] at named
  rw [Date.literal, sameYear, parseDate_dateText (fits_of_dateOfParts named)]
  exact named

theorem literalReadsAs
    {column : Column}
    (isDate : column.shape.type = .date)
    (offset : Option ZoneOffset)
    (fromYearZero : 0 ≤ date.year) :
    dateCodec.LiteralReadsAs column offset date date := by
  have reads (length : Nat) :
      dateCodec.reader ⟨.text, offset⟩ column.shape length = .text length parseDate := by
    simp only [dateCodec, reader, isDate]
  exact Codec.literalReadsAs_of_text rfl reads (parseDate_literal fromYearZero)

end DateCodec

namespace DateTimeCodec

variable {dateTime : DateTime}

/-- A local date-time is written as its parts are by a column that declares no digits. -/
theorem writeLocalLiteral_eq
    (fromYearZero : 0 ≤ dateTime.date.year)
    (noLeapSecond : ¬ dateTime.InLeapSecond) :
    writeLocalLiteral dateTime =
      Text.encode ("'" ++ dateTime.packed.literal 0 ++ "'") := by
  have sameYear : (dateTime.packed.year : Int) = dateTime.date.year :=
    Int.toNat_of_nonneg fromYearZero
  have date : dateTime.packed.dateLiteral = dateTime.date.literal := by
    rw [PackedDateTime.dateLiteral, sameYear]
    rfl
  have isDate := DateTime.date_packed fromYearZero
  rw [PackedDateTime.literal_of_date isDate, PackedDateTime.spelled, date,
    fractionText_undeclared (DateTime.microseconds_packed_lt noLeapSecond)]
  simp only [writeLocalLiteral, DateTime.packed, String.append_assoc]
  rfl

theorem reader_text
    {shape : Shape}
    (isTimestamp : shape.type = .dateTime ∨ shape.type = .timestamp)
    (offset : Option ZoneOffset)
    (length : Nat) :
    dateTimeCodec.reader ⟨.text, offset⟩ shape length =
      .text length fun literal => do
        return (← parseDateTime literal).map (DateTime.localToUniversal offset) := by
  rcases isTimestamp with isDateTime | isTimestamp
  · simp only [dateTimeCodec, reader, isDateTime]
  · simp only [dateTimeCodec, reader, isTimestamp]

theorem literalReadsAs
    {column : Column}
    (isTimestamp : column.shape.type = .dateTime ∨ column.shape.type = .timestamp)
    {offset : Option ZoneOffset}
    {localTime : DateTime}
    (isLocal : dateTime.localTime? offset = some localTime)
    (fromYearZero : 0 ≤ localTime.date.year)
    (noLeapSecond : ¬ dateTime.InLeapSecond) :
    dateTimeCodec.LiteralReadsAs column offset dateTime (dateTime.cut microsecondDigits) := by
  have noLocalLeapSecond : ¬ localTime.InLeapSecond :=
    fun inLeapSecond =>
      noLeapSecond ((DateTime.inLeapSecond_of_localTime? isLocal).mp inLeapSecond)
  have written :
      dateTimeCodec.write ⟨.text, offset⟩ dateTime =
        .ok (Text.encode ("'" ++ localTime.packed.literal 0 ++ "'")) := by
    rw [← writeLocalLiteral_eq fromYearZero noLocalLeapSecond,
      ← DateTime.universalToLocal_of_localTime? isLocal]
    rfl
  have parsed :
      parseDateTime (localTime.packed.literal 0) =
        .ok (some (localTime.cut microsecondDigits)) := by
    rw [PackedDateTime.parseDateTime_literal
      (DateTime.microseconds_packed_lt noLocalLeapSecond)
      (DateTime.dateTime_packed fromYearZero noLocalLeapSecond)]
    have sameDigits : shownDigits 0 = microsecondDigits := rfl
    rw [Option.map_some, sameDigits, DateTime.cut_cut]
  refine Codec.literalReadsAs_of_text written (reader_text isTimestamp offset) ?_
  simp only [parsed, bind, Except.bind, Option.map_some, DateTime.localToUniversal_cut,
    DateTime.localToUniversal_of_localTime? isLocal]
  rfl

end DateTimeCodec

/--
A date of a year from zero on is read back from its literal.  So is a date-time whose
local time is on the calendar, in a year from zero on and in no leap second, but for
its digits below a microsecond.
-/
theorem literals_are_read_back (offset : Option ZoneOffset) :
    (∀ column date,
      column.shape.type = .date →
        0 ≤ date.year →
          dateCodec.LiteralReadsAs column offset date date) ∧
      (∀ column dateTime localTime,
        column.shape.type = .dateTime ∨ column.shape.type = .timestamp →
          dateTime.localTime? offset = some localTime →
            0 ≤ localTime.date.year →
              ¬ dateTime.InLeapSecond →
                dateTimeCodec.LiteralReadsAs column offset dateTime
                  (dateTime.cut microsecondDigits)) :=
  ⟨fun _ _ isDate fromYearZero =>
      DateCodec.literalReadsAs isDate offset fromYearZero,
    fun _ _ _ isTimestamp isLocal fromYearZero noLeapSecond =>
      DateTimeCodec.literalReadsAs isTimestamp isLocal fromYearZero noLeapSecond⟩

/-- A day of a year of six digits, and a moment whose local time is in the year after. -/
theorem date_and_dateTime_literals_are_read_back :
    let offset : Option ZoneOffset := some ⟨3600, by decide⟩
    let date : Date := ⟨262142, 2, 28, by decide⟩
    let dateTime : DateTime :=
      ⟨⟨9999, 12, 31, by decide⟩, ⟨23, 30, 0, 120999, by decide⟩⟩
    let localTime : DateTime :=
      ⟨⟨10000, 1, 1, by decide⟩, ⟨0, 30, 0, 120999, by decide⟩⟩
    let day := Column.generated "day" .date 10 0
    let moment := Column.generated "at" .timestamp 26 0
    (0 ≤ date.year ∧ dateCodec.LiteralReadsAs day offset date date) ∧
      dateTime.localTime? offset = some localTime ∧
        0 ≤ localTime.date.year ∧
        ¬ dateTime.InLeapSecond ∧
        dateTimeCodec.LiteralReadsAs moment offset dateTime
          (dateTime.cut microsecondDigits) := by
  intro offset date dateTime localTime day moment
  have isLocal : dateTime.localTime? offset = some localTime := by decide
  have noLeapSecond : ¬ dateTime.InLeapSecond := by decide
  obtain ⟨dates, dateTimes⟩ := literals_are_read_back offset
  exact ⟨⟨by decide, dates day date rfl (by decide)⟩, isLocal, by decide, noLeapSecond,
    dateTimes moment dateTime localTime (.inr rfl) isLocal (by decide) noLeapSecond⟩

end ResultSet
