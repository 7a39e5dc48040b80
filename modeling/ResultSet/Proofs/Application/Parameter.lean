import ResultSet.Application.Temporal
import ResultSet.Proofs.Calendar.Packed
import ResultSet.Proofs.Field.Interpretation
import ResultSet.Proofs.Number.Positional

namespace ResultSet

/-!
# Parameters of statements

The parameters of a statement are written one behind the other, each with its
length in one octet in front.  Reading them in their order gives them back: a date
as it was, and a date-time but for its digits below a microsecond, whatever the zone
is.  A year has two octets in a packed value, so that no other years are sent.
-/

variable {packet : Octets}

/-! ## One octet for the length -/

/-- A packed parameter is read behind its length, wherever it stands. -/
theorem Codec.accepts_decodeParameter
    {type : ApplicationType}
    {codec : Codec type}
    {column : Column}
    {encoding : Encoding}
    {payload : Octets}
    {result : Option type.Carrier}
    (short : payload.length < 256)
    (exact : (codec.reader encoding column.shape payload.length).size = payload.length)
    (means :
      (codec.reader encoding column.shape payload.length).interpret payload = .ok result) :
    Read.Accepts packet (Message.unsigned 1 payload.length ++ payload)
      (codec.decodeParameter column encoding) (· = result) := by
  apply (Read.accepts_unsigned short).bind
  rintro _ rfl
  exact FieldReader.accepts_framed exact means

/-- An octet is enough for each of the month and the day. -/
theorem Date.toNat_ofNat_parts (date : Date) :
    (UInt8.ofNat date.month).toNat = date.month ∧
      (UInt8.ofNat date.day).toNat = date.day := by
  obtain ⟨-, ⟨-, lastMonth⟩, -, lastDay⟩ := date.onCalendar
  have daysAtMost := daysInMonth_le date.year date.month
  have smallDay : date.day ≤ 31 := Nat.le_trans lastDay daysAtMost
  exact ⟨UInt8.toNat_ofNat_of_lt' (Nat.lt_of_le_of_lt lastMonth (by decide)),
    UInt8.toNat_ofNat_of_lt' (Nat.lt_of_le_of_lt smallDay (by decide))⟩

/-- An octet is enough for each of the hour, the minute and the second. -/
theorem TimeOfDay.toNat_ofNat_parts (time : TimeOfDay) :
    (UInt8.ofNat time.hour).toNat = time.hour ∧
      (UInt8.ofNat time.minute).toNat = time.minute ∧
      (UInt8.ofNat time.second).toNat = time.second := by
  obtain ⟨hour, minute, second, -⟩ := time.onClock
  exact ⟨UInt8.toNat_ofNat_of_lt' (Nat.lt_trans hour (by decide)),
    UInt8.toNat_ofNat_of_lt' (Nat.lt_trans minute (by decide)),
    UInt8.toNat_ofNat_of_lt' (Nat.lt_trans second (by decide))⟩

/-- Whether a year has two octets at most. -/
def IsPackedYear (year : Int) : Prop :=
  0 ≤ year ∧ year ≤ 65535

instance (year : Int) : Decidable (IsPackedYear year) := by
  unfold IsPackedYear
  infer_instance

/-- The year that the two octets written for a year spell. -/
def sentYear (year : Int) : Int :=
  year % 256 ^ 2

theorem littleEndian_year (year : Int) :
    (Octets.littleEndian (Octets.ofInt 2 year) : Int) = sentYear year :=
  Octets.littleEndian_ofInt 2 year

/-- A year arrives as it is when two octets are enough for it. -/
theorem sentYear_eq_self_iff {year : Int} : sentYear year = year ↔ IsPackedYear year := by
  rw [sentYear, IsPackedYear]
  omega

/-- Without two-digit years, the two octets of a year mean the year. -/
theorem packedYear_of_fourDigits
    {shape : Shape}
    (fourDigits : shape.length ≠ twoDigitLength)
    (yearLow yearHigh : UInt8) :
    packedYear shape yearLow yearHigh = Octets.littleEndian [yearLow, yearHigh] := by
  rw [packedYear, expandYear, if_neg (by simpa using fourDigits)]

/-! ## Dates -/

namespace DateCodec

/-- The octets of a packed date behind its length. -/
def payload (date : Date) : Octets :=
  Octets.ofInt 2 date.year ++ Message.unsigned 1 date.month ++ Message.unsigned 1 date.day ++
    Message.zeros 3

theorem writeParameter_eq (date : Date) :
    writeParameter date = Message.unsigned 1 (payload date).length ++ payload date := by
  simp only [writeParameter, payload, List.append_assoc]
  rfl

theorem length_payload (date : Date) : (payload date).length = 7 :=
  rfl

/-- The octets of a packed date mean its month and its day in the year that is sent. -/
theorem ofPacked_payload
    {shape : Shape}
    (fourDigits : shape.length ≠ twoDigitLength)
    (date : Date) :
    ofPacked shape (payload date) = dateOfParts (sentYear date.year) date.month date.day := by
  obtain ⟨month, day⟩ := date.toNat_ofNat_parts
  obtain ⟨yearLow, yearHigh, twoOctets⟩ :
      ∃ yearLow yearHigh, Octets.ofInt 2 date.year = [yearLow, yearHigh] :=
    ⟨_, _, rfl⟩
  have year := littleEndian_year date.year
  rw [twoOctets] at year
  have octets :
      payload date =
        [yearLow, yearHigh, UInt8.ofNat date.month, UInt8.ofNat date.day, 0, 0, 0] := by
    rw [payload, twoOctets]
    rfl
  rw [octets, ofPacked, packedYear_of_fourDigits fourDigits, year, month, day]

theorem reader_payload
    {shape : Shape}
    (isDate : shape.type = .date)
    (offset : Option ZoneOffset)
    (date : Date) :
    dateCodec.reader ⟨.binary, offset⟩ shape (payload date).length =
      ⟨packedGroups (payload date).length, ofPacked shape⟩ := by
  simp only [dateCodec, DateCodec.reader, isDate]

theorem size_reader_payload
    {shape : Shape}
    (isDate : shape.type = .date)
    (offset : Option ZoneOffset)
    (date : Date) :
    (dateCodec.reader ⟨.binary, offset⟩ shape (payload date).length).size =
      (payload date).length := by
  rw [reader_payload isDate]
  rfl

theorem interpret_payload
    {shape : Shape}
    (isDate : shape.type = .date)
    (fourDigits : shape.length ≠ twoDigitLength)
    (offset : Option ZoneOffset)
    (date : Date) :
    (dateCodec.reader ⟨.binary, offset⟩ shape (payload date).length).interpret
        (payload date) =
      dateOfParts (sentYear date.year) date.month date.day := by
  rw [reader_payload isDate]
  exact ofPacked_payload fourDigits date

theorem accepts_decodeParameter
    {column : Column}
    {date : Date}
    (isDate : column.shape.type = .date)
    (fourDigits : column.shape.length ≠ twoDigitLength)
    (isPacked : IsPackedYear date.year)
    (offset : Option ZoneOffset) :
    Read.Accepts packet (writeParameter date)
      (dateCodec.decodeParameter column ⟨.binary, offset⟩) (· = some date) := by
  rw [writeParameter_eq]
  apply Codec.accepts_decodeParameter
  · rw [length_payload]
    decide
  · exact size_reader_payload isDate offset date
  · rw [interpret_payload isDate fourDigits, sentYear_eq_self_iff.mpr isPacked]
    exact dateOfParts_parts date

end DateCodec

/-! ## Date-times -/

namespace DateTimeCodec

/-- The octets of the date and the clock of a packed date-time. -/
def wholeOctets (dateTime : DateTime) : Octets :=
  Octets.ofInt 2 dateTime.date.year ++ Message.unsigned 1 dateTime.date.month ++
    Message.unsigned 1 dateTime.date.day ++ Message.unsigned 1 dateTime.time.hour ++
    Message.unsigned 1 dateTime.time.minute ++ Message.unsigned 1 dateTime.time.second

/-- The octets of the microseconds of a packed date-time, of which there are none for zero. -/
def fractionOctets (dateTime : DateTime) : Octets :=
  if dateTime.time.microseconds = 0 then []
  else Message.unsigned 4 dateTime.time.microseconds

/-- The octets of a packed date-time behind its length. -/
def payload (dateTime : DateTime) : Octets :=
  wholeOctets dateTime ++ fractionOctets dateTime

/-- A packed date-time has seven octets, and eleven when there are microseconds. -/
theorem length_payload (dateTime : DateTime) :
    (payload dateTime).length = if dateTime.time.microseconds = 0 then 7 else 11 := by
  have whole : (wholeOctets dateTime).length = 7 := rfl
  rw [payload, List.length_append, whole, fractionOctets]
  split
  · rfl
  · rw [Message.unsigned, Octets.length_ofNat]

/-- The octet in front of a packed date-time is the number of octets behind it. -/
theorem writeLocalParameter_eq (dateTime : DateTime) :
    writeLocalParameter dateTime =
      Message.unsigned 1 (payload dateTime).length ++ payload dateTime := by
  rw [length_payload, payload, ← List.append_assoc]
  rfl

theorem length_payload_le (dateTime : DateTime) : (payload dateTime).length ≤ 11 := by
  rw [length_payload]
  split <;> decide

variable {dateTime : DateTime}

/-- The octets of the microseconds spell them, also when there are none. -/
theorem fraction_fractionOctets :
    PackedClock.fraction (fractionOctets dateTime) = dateTime.time.microseconds := by
  rw [fractionOctets]
  split
  · rename_i isZero
    exact isZero.symm
  · have small : dateTime.time.microseconds < 256 ^ 4 :=
      Nat.lt_of_le_of_lt (Nat.div_le_self _ _)
        (Nat.lt_trans dateTime.time.onClock.2.2.2 (by decide))
    obtain ⟨lowest, low, high, highest, fourOctets, spelled⟩ := Octets.exists_ofNat_four small
    rw [Message.unsigned, fourOctets, PackedClock.fraction, spelled]

/-- The parts of a date-time, and of its year what is sent. -/
def sentParts (dateTime : DateTime) : PackedDateTime :=
  { dateTime.packed with year := (sentYear dateTime.date.year).toNat }

theorem ofOctets_payload (dateTime : DateTime) :
    PackedDateTime.ofOctets (payload dateTime) = .ok (sentParts dateTime) := by
  obtain ⟨month, day⟩ := dateTime.date.toNat_ofNat_parts
  obtain ⟨hour, minute, second⟩ := dateTime.time.toNat_ofNat_parts
  -- The reader matches on single octets, so that those of the year are named.
  obtain ⟨yearLow, yearHigh, twoOctets⟩ :
      ∃ yearLow yearHigh, Octets.ofInt 2 dateTime.date.year = [yearLow, yearHigh] :=
    ⟨_, _, rfl⟩
  have year :
      Octets.littleEndian [yearLow, yearHigh] = (sentYear dateTime.date.year).toNat := by
    have spelled := littleEndian_year dateTime.date.year
    rw [twoOctets] at spelled
    omega
  have octets :
      payload dateTime =
        yearLow :: yearHigh :: UInt8.ofNat dateTime.date.month ::
          UInt8.ofNat dateTime.date.day :: UInt8.ofNat dateTime.time.hour ::
          UInt8.ofNat dateTime.time.minute :: UInt8.ofNat dateTime.time.second ::
          fractionOctets dateTime := by
    rw [payload, wholeOctets, twoOctets]
    rfl
  rw [octets, PackedDateTime.ofOctets, PackedClock.ofOctets, fraction_fractionOctets, year,
    month, day, hour, minute, second]
  rfl

theorem reader_payload
    {shape : Shape}
    (isDateTime : shape.type = .dateTime)
    (offset : Option ZoneOffset)
    (localTime : DateTime) :
    dateTimeCodec.reader ⟨.binary, offset⟩ shape (payload localTime).length =
      (TemporalField.packedReader (payload localTime).length).bind fun packed => do
        return (← packed.dateTime).map (DateTime.localToUniversal offset) := by
  simp only [dateTimeCodec, DateTimeCodec.reader, isDateTime]

theorem size_reader_payload
    {shape : Shape}
    (isDateTime : shape.type = .dateTime)
    (offset : Option ZoneOffset)
    (localTime : DateTime) :
    (dateTimeCodec.reader ⟨.binary, offset⟩ shape (payload localTime).length).size =
      (payload localTime).length := by
  rw [reader_payload isDateTime, FieldReader.size_bind]
  exact TemporalField.size_packedReader (payload localTime).length

theorem interpret_payload
    {shape : Shape}
    (isDateTime : shape.type = .dateTime)
    (offset : Option ZoneOffset)
    (localTime : DateTime) :
    (dateTimeCodec.reader ⟨.binary, offset⟩ shape (payload localTime).length).interpret
        (payload localTime) =
      (sentParts localTime).dateTime.map (Option.map (DateTime.localToUniversal offset)) := by
  rw [reader_payload isDateTime]
  simp only [FieldReader.bind, TemporalField.packedReader, ofOctets_payload]
  rfl

/-- A packed local date-time is read as the universal time whose local time it is. -/
theorem accepts_decodeParameter
    {column : Column}
    {offset : Option ZoneOffset}
    {localTime : DateTime}
    (isDateTime : column.shape.type = .dateTime)
    (isLocal : dateTime.localTime? offset = some localTime)
    (isPacked : IsPackedYear localTime.date.year)
    (noLeapSecond : ¬ dateTime.InLeapSecond) :
    Read.Accepts packet (writeLocalParameter (dateTime.universalToLocal offset))
      (dateTimeCodec.decodeParameter column ⟨.binary, offset⟩)
      (· = some (dateTime.cut microsecondDigits)) := by
  have noLocalLeapSecond : ¬ localTime.InLeapSecond :=
    fun inLeapSecond =>
      noLeapSecond ((DateTime.inLeapSecond_of_localTime? isLocal).mp inLeapSecond)
  have sameParts : sentParts localTime = localTime.packed := by
    rw [sentParts, sentYear_eq_self_iff.mpr isPacked]
    rfl
  rw [DateTime.universalToLocal_of_localTime? isLocal, writeLocalParameter_eq]
  apply Codec.accepts_decodeParameter
  · exact Nat.lt_of_le_of_lt (length_payload_le localTime) (by decide)
  · exact size_reader_payload isDateTime offset localTime
  · rw [interpret_payload isDateTime, sameParts,
      DateTime.dateTime_packed isPacked.1 noLocalLeapSecond]
    change Except.ok (some ((localTime.cut microsecondDigits).localToUniversal offset)) = _
    rw [DateTime.localToUniversal_cut, DateTime.localToUniversal_of_localTime? isLocal]

end DateTimeCodec

/-! ## Lists of parameters -/

/-- A parameter of a statement: the column it is read as, the zone of the caller, and its value. -/
inductive Parameter where
  | date (column : Column) (offset : Option ZoneOffset) (value : Date)
  | dateTime (column : Column) (offset : Option ZoneOffset) (value : DateTime)

namespace Parameter

/-- The octets of a parameter, its length in front. -/
def write : Parameter → Except Fault Octets
  | date _ offset value => dateCodec.write ⟨.binary, offset⟩ value
  | dateTime _ offset value => dateTimeCodec.write ⟨.binary, offset⟩ value

/-- Read a parameter; there is no value for the date of all zeros. -/
def read : Parameter → Read (Option Value)
  | date column offset _ =>
      Option.map Value.date <$> dateCodec.decodeParameter column ⟨.binary, offset⟩
  | dateTime column offset _ =>
      Option.map Value.dateTime <$> dateTimeCodec.decodeParameter column ⟨.binary, offset⟩

/-- The value that is expected back: digits below a microsecond are not sent. -/
def received : Parameter → Value
  | date _ _ value => .date value
  | dateTime _ _ value => .dateTime (value.cut microsecondDigits)

/-- The type and the width of a column that parameters of a type are read as. -/
def FitsColumn (column : Column) (type : ServerType) : Prop :=
  column.shape.type = type ∧ column.shape.length ≠ twoDigitLength

/--
Whether a parameter can be sent: the year that is sent has two octets, and a
date-time is in no leap second.
-/
def Sendable : Parameter → Prop
  | date column _ value =>
      FitsColumn column dateCodec.parameterType ∧ IsPackedYear value.year
  | dateTime column offset value =>
      FitsColumn column dateTimeCodec.parameterType ∧
        ¬ value.InLeapSecond ∧
        ∃ localTime,
          value.localTime? offset = some localTime ∧ IsPackedYear localTime.date.year

/-- The octets that are written for a parameter. -/
def octets : Parameter → Octets
  | date _ _ value => DateCodec.writeParameter value
  | dateTime _ offset value =>
      DateTimeCodec.writeLocalParameter (value.universalToLocal offset)

/-- Writing a parameter never fails. -/
theorem write_eq_ok (parameter : Parameter) : parameter.write = .ok parameter.octets := by
  cases parameter <;> rfl

/-- A parameter that can be sent is read back, wherever its octets stand. -/
theorem accepts_read
    {parameter : Parameter}
    (sendable : parameter.Sendable) :
    Read.Accepts packet parameter.octets parameter.read (· = some parameter.received) := by
  cases parameter with
  | date column offset value =>
      obtain ⟨⟨isDate, fourDigits⟩, isPacked⟩ := sendable
      rw [read, map_eq_pure_bind]
      apply (DateCodec.accepts_decodeParameter isDate fourDigits isPacked offset).andThen
      rintro _ rfl
      exact .pure rfl
  | dateTime column offset value =>
      obtain ⟨⟨isDateTime, -⟩, noLeapSecond, localTime, isLocal, isPacked⟩ := sendable
      rw [read, map_eq_pure_bind]
      apply (DateTimeCodec.accepts_decodeParameter isDateTime isLocal isPacked
        noLeapSecond).andThen
      rintro _ rfl
      exact .pure rfl

/-- The octets of all parameters in their order. -/
def writeAll (parameters : List Parameter) : Except Fault Octets :=
  List.flatten <$> parameters.mapM write

theorem writeAll_eq_ok (parameters : List Parameter) :
    writeAll parameters = .ok (parameters.flatMap octets) := by
  have never : write = fun parameter => pure parameter.octets := funext write_eq_ok
  rw [writeAll, never, List.mapM_pure]
  rfl

/-- Read all parameters in their order. -/
def readAll (parameters : List Parameter) : Read (List (Option Value)) :=
  parameters.mapM read

end Parameter

/--
Parameters that can be sent are written without failure and read back in their order,
each with its value, and no octet is left.
-/
theorem parameters_are_read_back
    {parameters : List Parameter}
    (sendable : ∀ parameter ∈ parameters, parameter.Sendable) :
    ∃ packet behind,
      Parameter.writeAll parameters = .ok packet ∧
        (Parameter.readAll parameters).run (Cursor.ofPacket packet) =
          .ok (parameters.map fun parameter => some parameter.received) behind ∧
        behind.remaining = 0 := by
  let packet := parameters.flatMap Parameter.octets
  have accepts :
      Read.Accepts packet packet (Parameter.readAll parameters)
        (List.Forall₂ (fun parameter result => result = some parameter.received)
          parameters) :=
    .mapM fun parameter member => Parameter.accepts_read (sendable parameter member)
  obtain ⟨results, reads, areReceived⟩ :=
    accepts (Cursor.ofPacket packet) rfl (List.prefix_refl packet)
  have inOrder : results = parameters.map fun parameter => some parameter.received := by
    rw [← List.forall₂_eq_eq_eq, List.forall₂_map_right_iff]
    exact areReceived.flip
  refine ⟨packet, _, Parameter.writeAll_eq_ok parameters, inOrder ▸ reads, ?_⟩
  rw [Cursor.remaining_advanced]
  exact Nat.sub_self _

/-- The first day of year zero, and a moment whose local time is in the year before. -/
theorem date_and_dateTime_are_read_back :
    let parameters : List Parameter :=
      [.date (Column.generated "day" .date 10 0) none ⟨0, 1, 1, by decide⟩,
        .dateTime (Column.generated "at" .dateTime 26 0) (some ⟨-3600, by decide⟩)
          ⟨⟨2024, 1, 1, by decide⟩, ⟨0, 30, 0, 123456789, by decide⟩⟩]
    (∀ parameter ∈ parameters, parameter.Sendable) ∧
      ∃ packet behind,
        Parameter.writeAll parameters = .ok packet ∧
          (Parameter.readAll parameters).run (Cursor.ofPacket packet) =
            .ok (parameters.map fun parameter => some parameter.received) behind ∧
          behind.remaining = 0 := by
  intro parameters
  have sendable : ∀ parameter ∈ parameters, parameter.Sendable := by
    intro parameter member
    rcases List.mem_pair.mp member with rfl | rfl
    · exact ⟨⟨rfl, by decide⟩, by decide⟩
    · refine ⟨⟨rfl, by decide⟩, by decide,
        ⟨⟨2023, 12, 31, by decide⟩, ⟨23, 30, 0, 123456789, by decide⟩⟩, ?_, ?_⟩
      · decide
      · decide
  exact ⟨sendable, parameters_are_read_back sendable⟩

end ResultSet
