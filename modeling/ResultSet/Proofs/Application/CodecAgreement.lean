import ResultSet.Proofs.Application.BothEncodings
import ResultSet.Proofs.Calendar.DatePart

namespace ResultSet

/-!
# The day of a date-time

A column can be read with the codec of dates and with that of date-times.  If it is read
with both, the date is the day of the date-time, for both codecs read the same literals and
the same packed parts.  There are two exceptions, both of packed values: only the codec of
dates has years of two digits in columns of dates, and only this codec takes octets behind
the two of a year for a month and a day.
-/

/-- A year of two digits is never the year that it is expanded to. -/
theorem expandYear_ne (year : Int) : expandYear true year ≠ year := by
  simp only [expandYear, ↓reduceIte]
  split <;> omega

/-- A packed date-time is of the day of its parts. -/
theorem PackedDateTime.date_of_dateTime
    {packed : PackedDateTime}
    {moment : Option DateTime}
    (named : packed.dateTime = .ok moment) :
    packed.date = .ok (moment.map DateTime.date) := by
  rcases dateTime_cases named with ⟨noDate, rfl⟩ | ⟨date, time, isDate, -, rfl⟩
  · exact noDate
  · exact isDate

namespace Shape

/-- Packed octets of which the codecs of dates and of date-times do not read the same day. -/
def ReadsApart (shape : Shape) (octets : Octets) : Prop :=
  match shape.type with
  | .date | .newDate => shape.length = twoDigitLength ∧ octets ≠ []
  | .year => 4 ≤ octets.length ∧ (octets.drop 2).take 2 ≠ [1, 1]
  | _ => False

/-- Both codecs read some octets, and no zone is given. -/
structure ReadByBoth
    (shape : Shape)
    (protocol : Protocol)
    (length : Nat)
    (octets : Octets)
    (day : Option Date)
    (moment : Option DateTime) :
    Prop where
  day : (dateCodec.reader ⟨protocol, none⟩ shape length).interpret octets = .ok day
  moment : (dateTimeCodec.reader ⟨protocol, none⟩ shape length).interpret octets = .ok moment

variable
  {shape : Shape}
  {protocol : Protocol}
  {encoding : Encoding}
  {length : Nat}
  {octets : Octets}
  {day : Option Date}
  {moment : Option DateTime}

/-! ## Literals -/

theorem parse_of_spelledReader
    {Result : Type}
    {label : String}
    {parse : String → Except ValueError Result}
    {result : Result}
    (reads : (spelledReader label parse shape length).interpret octets = .ok result) :
    parse (Text.decode octets) = .ok result := by
  rw [spelledReader] at reads
  split at reads
  · split at reads
    · cases reads
    · exact reads
  · cases reads

/-- Columns of no temporal type are read by what they spell. -/
theorem dateCodec_reader_spelled
    (notTemporal : shape.type ∉ [.date, .newDate, .dateTime, .timestamp, .year]) :
    dateCodec.reader encoding shape length =
      spelledReader DateCodec.label parseDate shape length := by
  simp only [List.mem_cons, List.not_mem_nil, or_false, not_or] at notTemporal
  simp only [dateCodec]
  rw [DateCodec.reader.eq_def]
  split
  all_goals first | rfl | exact absurd ‹shape.type = _› (by simp [notTemporal])

theorem dateTimeCodec_reader_spelled
    (notTemporal : shape.type ∉ [.date, .newDate, .dateTime, .timestamp, .year]) :
    dateTimeCodec.reader encoding shape length =
      spelledReader DateTimeCodec.label parseDateTime shape length := by
  simp only [List.mem_cons, List.not_mem_nil, or_false, not_or] at notTemporal
  simp only [dateTimeCodec]
  rw [DateTimeCodec.reader.eq_def]
  split
  all_goals first | rfl | exact absurd ‹shape.type = _› (by simp [notTemporal])

namespace ReadByBoth

/-- What a column of characters spells has one date. -/
theorem same_of_spelled
    (reads : shape.ReadByBoth protocol length octets day moment)
    (notTemporal : shape.type ∉ [.date, .newDate, .dateTime, .timestamp, .year]) :
    day = moment.map DateTime.date := by
  have readsDay := reads.day
  have readsMoment := reads.moment
  rw [dateCodec_reader_spelled notTemporal] at readsDay
  rw [dateTimeCodec_reader_spelled notTemporal] at readsMoment
  exact date_of_parseDateTime (parse_of_spelledReader readsDay)
    (parse_of_spelledReader readsMoment)

/-! ## Date-times -/

/-- Without a zone the codec of date-times takes local time for what it is. -/
theorem map_localToUniversal_none (moment : Option DateTime) :
    moment.map (DateTime.localToUniversal none) = moment := by
  cases moment <;> rfl

theorem same_of_timestamp
    (reads : shape.ReadByBoth protocol length octets day moment)
    (isTimestamp : shape.type = .dateTime ∨ shape.type = .timestamp) :
    day = moment.map DateTime.date := by
  have readsDay := reads.day
  have readsMoment := reads.moment
  rw [DateTimeCodec.reader_timestamp isTimestamp] at readsMoment
  obtain ⟨sent, means, isMoment⟩ := exists_of_bind_eq_ok readsMoment
  rw [map_localToUniversal_none] at isMoment
  cases isMoment
  cases protocol with
  | text =>
      rw [DateCodec.reader_timestamp_text isTimestamp, FieldReader.interpret_map, means]
        at readsDay
      exact (Except.ok.inj readsDay).symm
  | binary =>
      rw [DateCodec.reader_timestamp_binary isTimestamp] at readsDay
      obtain ⟨packed, spelled, named⟩ := exists_of_bind_eq_ok means
      obtain ⟨other, alsoSpelled, namesDay⟩ := exists_of_bind_eq_ok readsDay
      have same : packed = other := Except.ok.inj (spelled.symm.trans alsoSpelled)
      rw [← same, PackedDateTime.date_of_dateTime named] at namesDay
      exact (Except.ok.inj namesDay).symm

end ReadByBoth

end Shape

/-! ## Packed days -/

namespace DateCodec

variable {shape : Shape} {octets : Octets} {day other : Option Date}

/-- A packed day is read as it is, unless its year is taken for one of two digits. -/
theorem ofPacked_eq_date_iff
    (readsDay : ofPacked shape octets = .ok day)
    (readsDate : PackedDateTime.ofOctets octets >>= PackedDateTime.date = .ok other) :
    day = other ↔ ¬ (shape.length = twoDigitLength ∧ octets ≠ []) := by
  match octets with
  | [] =>
      cases readsDay
      cases readsDate
      simp
  | [_] | [_, _] | [_, _, _] => cases readsDate
  | yearLow :: yearHigh :: month :: day :: behind =>
      let sent : PackedDateTime :=
        { year := Octets.littleEndian [yearLow, yearHigh]
          month := month.toNat
          day := day.toNat }
      have namesDate : sent.date = .ok other := readsDate
      rw [ofPacked] at readsDay
      by_cases isShort : shape.length = twoDigitLength
      · refine iff_of_false ?_ (not_not_intro ⟨isShort, List.cons_ne_nil _ _⟩)
        rintro rfl
        rw [packedYear, decide_eq_true isShort] at readsDay
        exact expandYear_ne _ (dateOfParts_inj readsDay namesDate).1
      · refine iff_of_true ?_ fun isApart => isShort isApart.1
        rw [packedYear_of_fourDigits isShort] at readsDay
        exact Except.ok.inj (readsDay.symm.trans namesDate)

/-- A packed year is read as its first day, unless octets behind it name another one. -/
theorem ofPacked_eq_ofPackedYear_iff
    (readsDay : ofPacked shape octets = .ok day)
    (readsYear : DateTimeCodec.ofPackedYear shape octets = .ok other) :
    day = other ↔ ¬ (4 ≤ octets.length ∧ (octets.drop 2).take 2 ≠ [1, 1]) := by
  match octets with
  | [] =>
      cases readsDay
      cases readsYear
      simp
  | [_] => cases readsYear
  | [_, _] | [_, _, _] =>
      refine iff_of_true (Except.ok.inj (readsDay.symm.trans readsYear)) ?_
      simp
  | yearLow :: yearHigh :: month :: day :: behind =>
      rw [ofPacked] at readsDay
      rw [DateTimeCodec.ofPackedYear] at readsYear
      constructor
      · rintro rfl ⟨-, notFirst⟩
        obtain ⟨-, isJanuary, isFirst⟩ := dateOfParts_inj readsDay readsYear
        have sameMonth : month = 1 := UInt8.toNat_inj.mp isJanuary
        have sameDay : day = 1 := UInt8.toNat_inj.mp isFirst
        exact notFirst (by rw [sameMonth, sameDay]; rfl)
      · intro isFirst
        have sameOctets : [month, day] = [1, 1] := by
          by_contra notFirst
          exact isFirst ⟨by simp, notFirst⟩
        cases sameOctets
        exact Except.ok.inj (readsDay.symm.trans readsYear)

end DateCodec

/-! ## Both codecs -/

namespace Shape

variable
  {shape : Shape}
  {protocol : Protocol}
  {length : Nat}
  {octets : Octets}
  {day : Option Date}
  {moment : Option DateTime}

/-- The beginning of a day is of that day. -/
theorem date_atMidnight (day : Option Date) :
    (DateTimeCodec.atMidnight day).map DateTime.date = day := by
  cases day <;> rfl

theorem readsApart_of_date
    (isDate : shape.type = .date ∨ shape.type = .newDate) :
    shape.ReadsApart octets ↔ shape.length = twoDigitLength ∧ octets ≠ [] := by
  rcases isDate with isType | isType
  · rw [ReadsApart, isType]
  · rw [ReadsApart, isType]

theorem readsApart_of_year (isYear : shape.type = .year) :
    shape.ReadsApart octets ↔ 4 ≤ octets.length ∧ (octets.drop 2).take 2 ≠ [1, 1] := by
  rw [ReadsApart, isYear]

theorem not_readsApart (neither : shape.type ∉ [.date, .newDate, .year]) :
    ¬ shape.ReadsApart octets := by
  simp only [List.mem_cons, List.not_mem_nil, or_false, not_or] at neither
  rw [ReadsApart.eq_def]
  split
  · exact absurd ‹shape.type = _› neither.1
  · exact absurd ‹shape.type = _› neither.2.1
  · exact absurd ‹shape.type = _› neither.2.2
  · exact not_false

namespace ReadByBoth

theorem same_iff_of_date
    (reads : shape.ReadByBoth protocol length octets day moment)
    (isDate : shape.type = .date ∨ shape.type = .newDate) :
    day = moment.map DateTime.date ↔ ¬ (protocol = .binary ∧ shape.ReadsApart octets) := by
  have readsDay := reads.day
  have readsMoment := reads.moment
  rw [DateTimeCodec.reader_date isDate] at readsMoment
  obtain ⟨other, means, isBeginning⟩ := exists_of_bind_eq_ok readsMoment
  cases isBeginning
  rw [date_atMidnight]
  cases protocol with
  | text =>
      rw [DateCodec.reader_date_text isDate] at readsDay
      exact iff_of_true (Except.ok.inj (readsDay.symm.trans means)) fun isApart => nomatch isApart.1
  | binary =>
      rw [DateCodec.reader_date_binary isDate] at readsDay
      rw [readsApart_of_date isDate, and_iff_right rfl]
      exact DateCodec.ofPacked_eq_date_iff readsDay means

theorem same_iff_of_year
    (reads : shape.ReadByBoth protocol length octets day moment)
    (isYear : shape.type = .year) :
    day = moment.map DateTime.date ↔ ¬ (protocol = .binary ∧ shape.ReadsApart octets) := by
  have readsDay := reads.day
  have readsMoment := reads.moment
  cases protocol with
  | text =>
      rw [DateCodec.reader_year_text isYear] at readsDay
      rw [DateTimeCodec.reader_year_text isYear] at readsMoment
      obtain ⟨other, means, isBeginning⟩ := exists_of_bind_eq_ok readsMoment
      cases isBeginning
      rw [date_atMidnight]
      exact iff_of_true (Except.ok.inj (readsDay.symm.trans means)) fun isApart => nomatch isApart.1
  | binary =>
      rw [DateCodec.reader_year_binary isYear] at readsDay
      rw [DateTimeCodec.reader_year_binary isYear] at readsMoment
      obtain ⟨other, means, isBeginning⟩ := exists_of_bind_eq_ok readsMoment
      cases isBeginning
      rw [date_atMidnight, readsApart_of_year isYear, and_iff_right rfl]
      exact DateCodec.ofPacked_eq_ofPackedYear_iff readsDay means

/-- The two codecs read one day, but for packed octets that they read apart. -/
theorem same_iff (reads : shape.ReadByBoth protocol length octets day moment) :
    day = moment.map DateTime.date ↔ ¬ (protocol = .binary ∧ shape.ReadsApart octets) := by
  by_cases isDate : shape.type = .date ∨ shape.type = .newDate
  · exact reads.same_iff_of_date isDate
  · by_cases isYear : shape.type = .year
    · exact reads.same_iff_of_year isYear
    · obtain ⟨noDate, noNewDate⟩ := not_or.mp isDate
      have neverApart : ¬ shape.ReadsApart octets :=
        not_readsApart (by simp [noDate, noNewDate, isYear])
      refine iff_of_true ?_ fun isApart => neverApart isApart.2
      by_cases isTimestamp : shape.type = .dateTime ∨ shape.type = .timestamp
      · exact reads.same_of_timestamp isTimestamp
      · obtain ⟨noDateTime, noTimestamp⟩ := not_or.mp isTimestamp
        exact reads.same_of_spelled
          (by simp [noDate, noNewDate, isYear, noDateTime, noTimestamp])

end ReadByBoth

end Shape

/--
When both codecs read a field and no zone is given, the date is the day of the date-time, or
both have no value.  Just two kinds of packed octets are read apart: those of a date in a
column of years of two digits, and those of a year that has a month and a day behind it
other than the first of January.
-/
theorem codecs_read_one_day
    {column : Column}
    {protocol : Protocol}
    {length : Nat}
    {start : Cursor}
    {day : Option Date}
    {moment : Option DateTime}
    (readsDay : (dateCodec.decode column ⟨protocol, none⟩ length).outcome start = .ok day)
    (readsMoment :
      (dateTimeCodec.decode column ⟨protocol, none⟩ length).outcome start = .ok moment) :
    day = moment.map DateTime.date ↔
      ¬ (protocol = .binary ∧ column.shape.ReadsApart (start.rest.take length)) := by
  obtain ⟨-, -, meansDay⟩ := FieldReader.outcome_framed_eq_ok_iff.mp readsDay
  obtain ⟨-, -, meansMoment⟩ := FieldReader.outcome_framed_eq_ok_iff.mp readsMoment
  exact Shape.ReadByBoth.same_iff ⟨meansDay, meansMoment⟩

/-- A date and a time of day in a column of characters, of which one codec reads the date alone. -/
theorem codecs_read_one_day_of_characters :
    let column := Column.generated "text" .varChar 40 0
    let start := Cursor.ofPacket (Text.encode "2024-10-21 08:30:00")
    let day : Date := ⟨2024, 10, 21, by decide⟩
    let moment : DateTime := ⟨day, ⟨8, 30, 0, 0, by decide⟩⟩
    (dateCodec.decode column ⟨.text, none⟩ 19).outcome start = .ok (some day) ∧
      (dateTimeCodec.decode column ⟨.text, none⟩ 19).outcome start = .ok (some moment) ∧
      (some day = (some moment).map DateTime.date ↔
        ¬ (Protocol.text = .binary ∧ column.shape.ReadsApart (start.rest.take 19))) := by
  intro column start day moment
  have readsDay :
      (dateCodec.decode column ⟨.text, none⟩ 19).outcome start = .ok (some day) := by
    decide +kernel
  have readsMoment :
      (dateTimeCodec.decode column ⟨.text, none⟩ 19).outcome start = .ok (some moment) := by
    decide +kernel
  exact ⟨readsDay, readsMoment, codecs_read_one_day readsDay readsMoment⟩

/--
In a column of years of two digits only one codec takes year 24 for one of this century, and
only this codec takes the octets behind a year for the third of February.
-/
theorem codecs_read_two_days_of_packed_years :
    let column := Column.generated "d" .date 2 0
    let packed := Cursor.ofPacket [0x18, 0x00, 0x03, 0x01]
    let inCentury : Date := ⟨2024, 3, 1, by decide⟩
    let asSent : DateTime := .atMidnight ⟨24, 3, 1, by decide⟩
    let year := Column.generated "y" .year 4 0
    let withDay := Cursor.ofPacket [0xE8, 0x07, 0x02, 0x03]
    let inFebruary : Date := ⟨2024, 2, 3, by decide⟩
    let firstDay : DateTime := .atMidnight ⟨2024, 1, 1, by decide⟩
    ((dateCodec.decode column ⟨.binary, none⟩ 4).outcome packed = .ok (some inCentury) ∧
        (dateTimeCodec.decode column ⟨.binary, none⟩ 4).outcome packed = .ok (some asSent) ∧
        some inCentury ≠ (some asSent).map DateTime.date) ∧
      (dateCodec.decode year ⟨.binary, none⟩ 4).outcome withDay = .ok (some inFebruary) ∧
        (dateTimeCodec.decode year ⟨.binary, none⟩ 4).outcome withDay = .ok (some firstDay) ∧
        some inFebruary ≠ (some firstDay).map DateTime.date := by
  intro column packed inCentury asSent year withDay inFebruary firstDay
  exact ⟨⟨by decide, by decide, by decide⟩, by decide, by decide, by decide⟩

end ResultSet
