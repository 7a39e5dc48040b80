import ResultSet.Proofs.Application.Parameter
import ResultSet.Proofs.Field.Verdict

namespace ResultSet

/-!
# Years that two octets do not hold

A packed value has two octets for its year.  A date of any other year is written too, and
never refused: what is sent is the remainder of the year by the modulus of two octets.
So the reader comes to the same day of another year, and to a failure only when that
year has no such day.
-/

/-! ## The year that is sent -/

theorem isPackedYear_sentYear (year : Int) : IsPackedYear (sentYear year) := by
  rw [sentYear, IsPackedYear]
  omega

namespace Date

/-- The same month and day in the year that is sent, if that year has them. -/
def sent? (date : Date) : Option Date :=
  ofParts? (sentYear date.year) date.month date.day

/-- A day that arrives in its own year has a year of two octets. -/
theorem isPackedYear_of_sent?
    {date sent : Date}
    (arrives : date.sent? = some sent)
    (sameYear : sent.year = date.year) :
    IsPackedYear date.year := by
  rw [← sentYear_eq_self_iff, ← (parts_of_ofParts? arrives).1]
  exact sameYear

theorem isPackedYear_year_of_sent?
    {date sent : Date}
    (arrives : date.sent? = some sent) :
    IsPackedYear sent.year := by
  rw [(parts_of_ofParts? arrives).1]
  exact isPackedYear_sentYear date.year

/-- The parts that are sent name the day of the year that is sent, or no day. -/
theorem judged_dateOfParts (date : Date) :
    judged (dateOfParts (sentYear date.year) date.month date.day) =
      match date.sent? with
      | some sent => .ok (some sent)
      | none => .error .malformed := by
  have firstMonth : 1 ≤ date.month := date.onCalendar.2.1.1
  rw [dateOfParts, if_neg (by omega), sent?]
  cases ofParts? (sentYear date.year) date.month date.day <;> rfl

end Date

namespace DateTime

/-- The same time of the same day in the year that is sent, if the parts name one. -/
def sent? (dateTime : DateTime) : Option DateTime :=
  if dateTime.time.IsNamed then
    dateTime.date.sent?.map fun date => ⟨date, dateTime.time⟩
  else
    none

/-- In a year of two octets a date-time arrives as it is, or not at all. -/
theorem sent?_of_isPackedYear
    {dateTime : DateTime}
    (isPacked : IsPackedYear dateTime.date.year) :
    dateTime.sent? = if dateTime.time.IsNamed then some dateTime else none := by
  rw [sent?, Date.sent?, sentYear_eq_self_iff.mpr isPacked, dateTime.date.ofParts?_parts]
  rfl

theorem date_sent?_of_sent?
    {dateTime sent : DateTime}
    (arrives : dateTime.sent? = some sent) :
    dateTime.date.sent? = some sent.date := by
  rw [sent?] at arrives
  split at arrives
  · obtain ⟨date, dateArrives, rfl⟩ := Option.map_eq_some_iff.mp arrives
    exact dateArrives
  · cases arrives

theorem date_sentParts (dateTime : DateTime) :
    (DateTimeCodec.sentParts dateTime).date =
      dateOfParts (sentYear dateTime.date.year) dateTime.date.month dateTime.date.day := by
  have sameYear :
      ((DateTimeCodec.sentParts dateTime).year : Int) = sentYear dateTime.date.year :=
    Int.toNat_of_nonneg (isPackedYear_sentYear dateTime.date.year).1
  rw [PackedDateTime.date, sameYear]
  rfl

/-- The parts that are sent name the date-time of the year that is sent, or none. -/
theorem judged_dateTime (dateTime : DateTime) :
    judged (DateTimeCodec.sentParts dateTime).dateTime =
      match dateTime.sent? with
      | some sent => .ok (some (sent.cut microsecondDigits))
      | none => .error .malformed := by
  have clock :
      TimeOfDay.ofMicroseconds? (DateTimeCodec.sentParts dateTime).hour
          (DateTimeCodec.sentParts dateTime).minute (DateTimeCodec.sentParts dateTime).second
          (DateTimeCodec.sentParts dateTime).microseconds =
        if dateTime.time.IsNamed then some (dateTime.time.cut microsecondDigits) else none :=
    TimeOfDay.ofMicroseconds?_parts dateTime.time
  rw [PackedDateTime.dateTime, judged_bind, date_sentParts, Date.judged_dateOfParts, sent?]
  simp only [clock]
  by_cases isNamed : dateTime.time.IsNamed
  · simp only [if_pos isNamed]
    cases dateTime.date.sent? <;> rfl
  · simp only [if_neg isNamed]
    cases dateTime.date.sent? <;> rfl

end DateTime

/-! ## One parameter -/

/-- A packed parameter is judged by what its octets mean. -/
theorem Codec.verdict_decodeParameter
    {type : ApplicationType}
    {codec : Codec type}
    {column : Column}
    {encoding : Encoding}
    {payload : Octets}
    (short : payload.length < 256)
    (exact : (codec.reader encoding column.shape payload.length).size = payload.length) :
    (codec.decodeParameter column encoding).verdict
        (Cursor.ofPacket (Message.unsigned 1 payload.length ++ payload)) =
      (judged ((codec.reader encoding column.shape payload.length).interpret
        payload)).mapError .value := by
  let start := Cursor.ofPacket (Message.unsigned 1 payload.length ++ payload)
  obtain ⟨lengthNext, payloadNext⟩ :=
    Read.Accepts.next_of_append (List.prefix_refl start.rest)
  obtain ⟨_, readsLength, rfl⟩ := Read.accepts_unsigned short start rfl lengthNext
  rw [decodeParameter, Read.verdict_bind_of_ok readsLength]
  exact FieldReader.verdict_framed_of_next exact payloadNext

/-- What is read of a local date-time is the one that is sent, or malformed if there is none. -/
theorem DateTimeCodec.verdict_decodeParameter
    {column : Column}
    (isDateTime : column.shape.type = .dateTime)
    (offset : Option ZoneOffset)
    (localTime : DateTime) :
    (dateTimeCodec.decodeParameter column ⟨.binary, offset⟩).verdict
        (Cursor.ofPacket (writeLocalParameter localTime)) =
      match localTime.sent? with
      | some sent => .ok (some ((sent.localToUniversal offset).cut microsecondDigits))
      | none => .error (.value .malformed) := by
  have short : (payload localTime).length < 256 :=
    Nat.lt_of_le_of_lt (length_payload_le localTime) (by decide)
  rw [writeLocalParameter_eq,
    Codec.verdict_decodeParameter short (size_reader_payload isDateTime offset localTime),
    interpret_payload isDateTime, judged_map, DateTime.judged_dateTime localTime]
  cases localTime.sent? with
  | none => rfl
  | some sent =>
      change Except.ok (some ((sent.cut microsecondDigits).localToUniversal offset)) = _
      rw [DateTime.localToUniversal_cut]

namespace Parameter

/--
Whether the column of a parameter is one that its type is read from, and a date-time has
a local time in the zone of the caller.
-/
def Legible : Parameter → Prop
  | date column _ _ => FitsColumn column dateCodec.parameterType
  | dateTime column offset value =>
      FitsColumn column dateTimeCodec.parameterType ∧
        ∃ localTime, value.localTime? offset = some localTime

/-- The year that is written, which is the local one. -/
def writtenYear : Parameter → Int
  | date _ _ value => value.year
  | dateTime _ offset value => (value.universalToLocal offset).date.year

/-- The parameter with the year that is sent in the place of the one that is written. -/
def sent? : Parameter → Option Parameter
  | date column offset value => value.sent?.map (date column offset)
  | dateTime column offset value =>
      (value.universalToLocal offset).sent?.map fun sent =>
        dateTime column offset (sent.localToUniversal offset)

/-- What is read is the parameter that is sent, or malformed if there is none. -/
theorem verdict_read
    {parameter : Parameter}
    (legible : parameter.Legible) :
    parameter.read.verdict (Cursor.ofPacket parameter.octets) =
      match parameter.sent? with
      | some sent => .ok (some sent.received)
      | none => .error (.value .malformed) := by
  cases parameter with
  | date column offset value =>
      obtain ⟨isDate, fourDigits⟩ := legible
      have short : (DateCodec.payload value).length < 256 := by
        rw [DateCodec.length_payload]
        decide
      have judgement := Date.judged_dateOfParts value
      rw [← DateCodec.interpret_payload isDate fourDigits offset] at judgement
      rw [read, Read.verdict_map, octets, DateCodec.writeParameter_eq,
        Codec.verdict_decodeParameter short
          (DateCodec.size_reader_payload isDate offset value),
        judgement, sent?]
      cases value.sent? <;> rfl
  | dateTime column offset value =>
      obtain ⟨⟨isDateTime, -⟩, -⟩ := legible
      rw [read, Read.verdict_map, octets,
        DateTimeCodec.verdict_decodeParameter isDateTime, sent?]
      cases (value.universalToLocal offset).sent? <;> rfl

/-- A parameter that is read back as it was has a year of two octets. -/
theorem isPackedYear_of_received
    {parameter other : Parameter}
    (legible : parameter.Legible)
    (arrives : parameter.sent? = some other)
    (same : other.received = parameter.received) :
    IsPackedYear parameter.writtenYear := by
  cases parameter with
  | date column offset value =>
      obtain ⟨sent, dateArrives, rfl⟩ := Option.map_eq_some_iff.mp arrives
      exact Date.isPackedYear_of_sent? dateArrives (congrArg Date.year (Value.date.inj same))
  | dateTime column offset value =>
      obtain ⟨-, localTime, isLocal⟩ := legible
      rw [sent?, DateTime.universalToLocal_of_localTime? isLocal] at arrives
      rw [writtenYear, DateTime.universalToLocal_of_localTime? isLocal]
      obtain ⟨sent, dateTimeArrives, rfl⟩ := Option.map_eq_some_iff.mp arrives
      have dateArrives := DateTime.date_sent?_of_sent? dateTimeArrives
      have packedYear := Date.isPackedYear_year_of_sent? dateArrives
      have inside : firstYear < sent.date.year ∧ sent.date.year < lastYear :=
        ⟨Int.lt_of_lt_of_le (by decide) packedYear.1,
          Int.lt_of_le_of_lt packedYear.2 (by decide)⟩
      -- Both have the same local time, for cutting commutes with moving between zones.
      have sameLocal :=
        congrArg (DateTime.localTime? offset) (Value.dateTime.inj same)
      rw [DateTime.localTime?_cut, DateTime.localTime?_cut, isLocal,
        DateTime.localTime?_localToUniversal inside] at sameLocal
      have sameDate :
          (sent.cut microsecondDigits).date = (localTime.cut microsecondDigits).date :=
        congrArg DateTime.date (Option.some.inj sameLocal)
      exact Date.isPackedYear_of_sent? dateArrives (congrArg Date.year sameDate)

end Parameter

/--
A parameter of any year is written without failure, and read as the parameter of the year
that is sent; so it is read back as it was only if two octets are enough for its year.
-/
theorem no_year_is_refused
    {parameter : Parameter}
    (legible : parameter.Legible) :
    parameter.write = .ok parameter.octets ∧
      parameter.read.verdict (Cursor.ofPacket parameter.octets) =
        (match parameter.sent? with
        | some sent => .ok (some sent.received)
        | none => .error (.value .malformed)) ∧
      (parameter.read.verdict (Cursor.ofPacket parameter.octets) =
          .ok (some parameter.received) →
        IsPackedYear parameter.writtenYear) := by
  refine ⟨parameter.write_eq_ok, Parameter.verdict_read legible, ?_⟩
  rw [Parameter.verdict_read legible]
  intro readBack
  split at readBack
  · rename_i other arrives
    exact Parameter.isPackedYear_of_received legible arrives
      (Option.some.inj (Except.ok.inj readBack))
  · cases readBack

/-- The local time of a moment of year zero is in the year before, which arrives as year 65535. -/
theorem moment_before_year_zero_is_written :
    let parameter : Parameter :=
      .dateTime (Column.generated "at" .dateTime 26 0) (some ⟨-3600, by decide⟩)
        ⟨⟨0, 1, 1, by decide⟩, ⟨0, 30, 0, 0, by decide⟩⟩
    ¬ IsPackedYear parameter.writtenYear ∧
      parameter.write = .ok parameter.octets ∧
      parameter.read.verdict (Cursor.ofPacket parameter.octets) =
        .ok (some (.dateTime
          ⟨⟨65536, 1, 1, by decide⟩, ⟨0, 30, 0, 0, by decide⟩⟩)) := by
  intro parameter
  have legible : parameter.Legible :=
    ⟨⟨rfl, by decide⟩, ⟨⟨-1, 12, 31, by decide⟩, ⟨23, 30, 0, 0, by decide⟩⟩, by decide⟩
  obtain ⟨writes, reads, -⟩ := no_year_is_refused legible
  exact ⟨by decide, writes, reads.trans rfl⟩

/-- A day of the year 65537 is written without failure, as the same day of the year one. -/
theorem year_65537_is_written_as_year_one :
    let parameter : Parameter :=
      .date (Column.generated "day" .date 10 0) none ⟨65537, 2, 3, by decide⟩
    ¬ IsPackedYear parameter.writtenYear ∧
      parameter.write = .ok [7, 1, 0, 2, 3, 0, 0, 0] ∧
      parameter.read.verdict (Cursor.ofPacket [7, 1, 0, 2, 3, 0, 0, 0]) =
        .ok (some (.date ⟨1, 2, 3, by decide⟩)) := by
  intro parameter
  exact ⟨by decide, rfl, rfl⟩

end ResultSet
