import ResultSet.Proofs.Application.Parameter

namespace ResultSet

/-!
# Natural representations and codecs

A caller may ask for the natural representation of a column of dates or date-times, or
read it with the codec of its application type.  The two are readers of their own, and
they must come to the same: the same value or failure, and the cursor at the same place.
For date-times they are one reader.  A packed date has other groups in its codec, which
is not seen when the packet holds them; and what the codec adds, years of two digits and
dates of a year alone, is found in columns and at lengths of its own.
-/

namespace FieldReader

variable {First Second Third Result : Type}

theorem map_map
    (second : Second → Third)
    (first : First → Second)
    (reader : FieldReader First) :
    (reader.map first).map second = reader.map (second ∘ first) := by
  simp only [map, bind, bind_assoc]
  rfl

/-- Changing what is made of a reading is making something else of it. -/
theorem map_bind
    (change : Second → Third)
    (reader : FieldReader First)
    (next : First → Except ValueError Second) :
    (reader.bind next).map change = reader.bind fun first => do return change (← next first) := by
  simp only [map, bind, bind_assoc]
  rfl

/-- A frame around octets that the packet holds comes to their meaning and ends behind them. -/
theorem run_framed_of_le
    {reader : FieldReader Result}
    {length : Nat}
    {start : Cursor}
    (exact : reader.size = length)
    (fits : length ≤ start.remaining) :
    (Read.framed length reader.read).run start =
      match reader.interpret (start.rest.take length) with
      | .ok result => .ok result (start.advanced length)
      | .error error => .error (.value error) (start.advanced length) := by
  subst exact
  cases means : reader.interpret (start.rest.take reader.size) with
  | ok result =>
      rw [Read.run_framed_of_ok fits (run_read_of_ok fits means), if_pos rfl]
  | error error =>
      rw [Read.run_framed_of_error (run_read_of_error fits means),
        Cursor.realigned_advanced_of_le reader.size fits]

end FieldReader

/-! ## Days and moments -/

namespace TemporalField

/-- Read a day. -/
def dayReader (protocol : Protocol) (length : Nat) : FieldReader (Option Date) :=
  match protocol with
  | .text => .text length parseDate
  | .binary => (packedReader length).bind PackedDateTime.date

/-- Read a local date-time. -/
def momentReader (protocol : Protocol) (length : Nat) : FieldReader (Option DateTime) :=
  match protocol with
  | .text => .text length parseDateTime
  | .binary => (packedReader length).bind PackedDateTime.dateTime

variable {shape : Shape} {protocol : Protocol} {length : Nat}

theorem size_dayReader : (dayReader protocol length).size = length := by
  cases protocol with
  | text => exact FieldReader.size_text length _
  | binary => exact size_packedReader length

theorem date_natural :
    date protocol .natural shape length = (dayReader protocol length).map dateValue := by
  cases protocol with
  | text => rfl
  | binary => exact (FieldReader.map_bind dateValue (packedReader length) _).symm

theorem timestamp_natural
    (offset : Option ZoneOffset) :
    timestamp protocol .natural shape offset length =
      (momentReader protocol length).map (dateTimeValue offset) := by
  cases protocol with
  | text => rfl
  | binary => exact (FieldReader.map_bind (dateTimeValue offset) (packedReader length) _).symm

end TemporalField

namespace DateTimeCodec

variable {shape : Shape} {encoding : Encoding} {length : Nat}

theorem reader_timestamp
    (isTimestamp : shape.type = .dateTime ∨ shape.type = .timestamp) :
    dateTimeCodec.reader encoding shape length =
      (TemporalField.momentReader encoding.protocol length).map
        (Option.map (DateTime.localToUniversal encoding.offset)) := by
  rcases encoding with ⟨protocol, offset⟩
  cases protocol with
  | text =>
      rcases isTimestamp with isType | isType
      · simp only [dateTimeCodec, reader, isType]
        rfl
      · simp only [dateTimeCodec, reader, isType]
        rfl
  | binary =>
      rw [TemporalField.momentReader, FieldReader.map_bind]
      rcases isTimestamp with isType | isType
      · simp only [dateTimeCodec, reader, isType]
      · simp only [dateTimeCodec, reader, isType]

theorem reader_date
    (isDate : shape.type = .date ∨ shape.type = .newDate) :
    dateTimeCodec.reader encoding shape length =
      (TemporalField.dayReader encoding.protocol length).map atMidnight := by
  rcases encoding with ⟨protocol, offset⟩
  cases protocol with
  | text =>
      rcases isDate with isType | isType
      · simp only [dateTimeCodec, reader, isType]
        rfl
      · simp only [dateTimeCodec, reader, isType]
        rfl
  | binary =>
      rw [TemporalField.dayReader, FieldReader.map_bind]
      rcases isDate with isType | isType
      · simp only [dateTimeCodec, reader, isType]
      · simp only [dateTimeCodec, reader, isType]

end DateTimeCodec

namespace DateCodec

variable {shape : Shape} {encoding : Encoding} {length : Nat}

theorem reader_date_text
    (isDate : shape.type = .date ∨ shape.type = .newDate)
    (offset : Option ZoneOffset) :
    dateCodec.reader ⟨.text, offset⟩ shape length = TemporalField.dayReader .text length := by
  rcases isDate with isType | isType
  · simp only [dateCodec, reader, isType]
    rfl
  · simp only [dateCodec, reader, isType]
    rfl

theorem reader_date_binary
    (isDate : shape.type = .date ∨ shape.type = .newDate)
    (offset : Option ZoneOffset) :
    dateCodec.reader ⟨.binary, offset⟩ shape length =
      ⟨packedGroups length, ofPacked shape⟩ := by
  rcases isDate with isType | isType
  · simp only [dateCodec, reader, isType]
  · simp only [dateCodec, reader, isType]

theorem size_packed :
    (⟨packedGroups length, ofPacked shape⟩ : FieldReader (Option Date)).size = length := by
  simp only [FieldReader.size, packedGroups]
  split
  · exact Nat.add_zero length
  · split
    · simp only [List.sum_cons, List.sum_nil]
      omega
    · simp only [List.sum_cons, List.sum_nil]
      omega

/--
Without two-digit years the codec takes a packed date for what it is, but where the octets
end behind the year.
-/
theorem ofPacked_eq
    (fourDigits : shape.length ≠ twoDigitLength)
    {octets : Octets}
    (notYearAlone : octets.length ≠ 2 ∧ octets.length ≠ 3) :
    ofPacked shape octets = PackedDateTime.ofOctets octets >>= PackedDateTime.date := by
  match octets with
  | [] => rfl
  | [_] => rfl
  | [_, _] => exact absurd rfl notYearAlone.1
  | [_, _, _] => exact absurd rfl notYearAlone.2
  | yearLow :: yearHigh :: month :: day :: behind =>
      rw [ofPacked, packedYear_of_fourDigits fourDigits]
      -- The clock and the microseconds do not change the day.
      rfl

end DateCodec

/-! ## Both readings of a field -/

/-- A result that may be missing, as a value. -/
def Value.ofOption
    {Result : Type}
    (wrap : Result → Value) :
    Option Result → Value
  | some result => wrap result
  | none => .null

namespace Column

variable {column : Column} {encoding : Encoding} {length : Nat} {start : Cursor}

/-- The natural representation of a moment is the local date-time, moved to universal time. -/
theorem reader_natural_moment
    {shape : Shape}
    (isMoment : shape.type.family = .timestamp) :
    shape.reader encoding .natural length =
      (TemporalField.momentReader encoding.protocol length).map
        (TemporalField.dateTimeValue encoding.offset) := by
  rw [Shape.reader, isMoment]
  exact TemporalField.timestamp_natural encoding.offset

/-- The natural representation of a moment is what the codec of date-times reads. -/
theorem decode_natural_timestamp
    (isTimestamp : column.shape.type = .dateTime ∨ column.shape.type = .timestamp) :
    column.decode encoding .natural length =
      Value.ofOption .dateTime <$> dateTimeCodec.decode column encoding length := by
  have family : column.shape.type.family = .timestamp := by
    rcases isTimestamp with isType | isType
    · rw [isType]
      rfl
    · rw [isType]
      rfl
  have sameValue :
      Value.ofOption .dateTime ∘ Option.map (DateTime.localToUniversal encoding.offset) =
        TemporalField.dateTimeValue encoding.offset := by
    funext result
    cases result <;> rfl
  have reading :
      (dateTimeCodec.reader encoding column.shape length).map (Value.ofOption .dateTime) =
        column.shape.reader encoding .natural length := by
    rw [DateTimeCodec.reader_timestamp isTimestamp, FieldReader.map_map, sameValue,
      reader_natural_moment family]
  rw [Codec.decode, Codec.read, FieldReader.map_framed, reading]
  exact id_map _

/-- The natural representation of a day is the day that is read. -/
theorem decode_natural_date
    (isDate : column.shape.type = .date ∨ column.shape.type = .newDate) :
    column.decode encoding .natural length =
      Value.ofOption .date <$>
        Read.framed length (TemporalField.dayReader encoding.protocol length).read := by
  have family : column.shape.type.family = .date := by
    rcases isDate with isType | isType
    · rw [isType]
      rfl
    · rw [isType]
      rfl
  have sameValue : Value.ofOption .date = TemporalField.dateValue := by
    funext result
    cases result <;> rfl
  have reading :
      (TemporalField.dayReader encoding.protocol length).map (Value.ofOption .date) =
        column.shape.reader encoding .natural length := by
    rw [sameValue, Shape.reader, family]
    exact TemporalField.date_natural.symm
  rw [FieldReader.map_framed, reading]
  exact id_map _

/-- The codec of dates reads a packed day that the packet holds, if it is no year alone. -/
theorem run_decode_packed_date
    (isDate : column.shape.type = .date ∨ column.shape.type = .newDate)
    (fourDigits : column.shape.length ≠ twoDigitLength)
    (offset : Option ZoneOffset)
    (fits : length ≤ start.remaining)
    (notYearAlone : length ≠ 2 ∧ length ≠ 3) :
    (dateCodec.decode column ⟨.binary, offset⟩ length).run start =
      (Read.framed length (TemporalField.dayReader .binary length).read).run start := by
  have octetsTaken : (start.rest.take length).length = length := by
    rw [List.length_take, Cursor.length_rest, Nat.min_eq_left fits]
  rw [← octetsTaken] at notYearAlone
  have sameMeaning := DateCodec.ofPacked_eq fourDigits notYearAlone
  rw [Codec.decode, Codec.read, DateCodec.reader_date_binary isDate,
    FieldReader.run_framed_of_le DateCodec.size_packed fits,
    FieldReader.run_framed_of_le TemporalField.size_dayReader fits]
  simp only [sameMeaning]
  rfl

end Column

/--
The natural representation of a date-time is what the codec of date-times reads, from
wherever and whatever is there.  That of a date is what the codec of dates reads from its
text, and from packed octets that the packet holds, where the column shows years of four
digits and the octets are not those of a year alone.
-/
theorem natural_is_what_codecs_read
    (column : Column)
    (encoding : Encoding)
    (length : Nat)
    (start : Cursor) :
    (column.shape.type = .dateTime ∨ column.shape.type = .timestamp →
      (column.decode encoding .natural length).run start =
        (Value.ofOption .dateTime <$> dateTimeCodec.decode column encoding length).run
          start) ∧
      (column.shape.type = .date ∨ column.shape.type = .newDate →
        encoding.protocol = .text ∨
            column.shape.length ≠ twoDigitLength ∧
              length ≤ start.remaining ∧
              length ≠ 2 ∧ length ≠ 3 →
          (column.decode encoding .natural length).run start =
            (Value.ofOption .date <$> dateCodec.decode column encoding length).run start) := by
  rcases encoding with ⟨protocol, offset⟩
  constructor
  · intro isTimestamp
    rw [Column.decode_natural_timestamp isTimestamp]
  · intro isDate isAlike
    rw [Column.decode_natural_date isDate]
    cases protocol with
    | text => rw [Codec.decode, Codec.read, DateCodec.reader_date_text isDate]
    | binary =>
        obtain ⟨fourDigits, fits, notYearAlone⟩ := isAlike.resolve_left nofun
        rw [map_eq_pure_bind, map_eq_pure_bind, EStateM.run_bind, EStateM.run_bind,
          Column.run_decode_packed_date isDate fourDigits offset fits notYearAlone]

/-- The first minutes of a day, two hours ahead of universal time, as a moment and as a day. -/
theorem natural_and_codecs_read_the_day_after_a_leap_day :
    let encoding : Encoding := ⟨.binary, some ⟨7200, by decide⟩⟩
    let moment := Column.generated "at" .dateTime 26 0
    let day := Column.generated "day" .date 10 0
    let start := Cursor.ofPacket [0xE8, 0x07, 0x03, 0x01, 0x00, 0x24, 0x05]
    (moment.decode encoding .natural 7).run start =
        (Value.ofOption .dateTime <$> dateTimeCodec.decode moment encoding 7).run start ∧
      (moment.decode encoding .natural 7).outcome start =
        .ok (.dateTime ⟨⟨2024, 2, 29, by decide⟩, ⟨22, 36, 5, 0, by decide⟩⟩) ∧
      (day.decode encoding .natural 7).run start =
        (Value.ofOption .date <$> dateCodec.decode day encoding 7).run start ∧
      (day.decode encoding .natural 7).outcome start =
        .ok (.date ⟨2024, 3, 1, by decide⟩) := by
  intro encoding moment day start
  obtain ⟨moments, -⟩ := natural_is_what_codecs_read moment encoding 7 start
  obtain ⟨-, days⟩ := natural_is_what_codecs_read day encoding 7 start
  refine ⟨moments (.inl rfl), by decide, days (.inl rfl) (.inr ?_), by decide⟩
  exact ⟨by decide, by decide, by decide, by decide⟩

end ResultSet
