import ResultSet.Proofs.Application.Natural
import ResultSet.Proofs.Field.Narrowing
import ResultSet.Proofs.Field.ServerMoment
import ResultSet.Proofs.Text.Utf8

namespace ResultSet

/-!
# Codecs in both encodings

A plain query is answered with texts and a prepared one with packed octets, and a caller
of a codec does not see which of the two it was.  So whatever a server sends for a value,
the codecs of dates and of date-times have to come to the same: the day, and the moment in
universal time where the column holds local time.  A year stands for its first day, and what
is sent for it depends on how many digits the column shows.
-/

/-! ## Readers and what octets mean to them -/

/-- A reader takes just some octets, and they have a meaning to it. -/
structure FieldReader.Means
    {Result : Type}
    (reader : FieldReader Result)
    (octets : Octets)
    (result : Result) :
    Prop where
  exact : reader.size = octets.length
  means : reader.interpret octets = .ok result

namespace FieldReader.Means

variable {First Result : Type} {octets : Octets} {result : Result}

theorem text
    {literal : String}
    {interpret : String → Except ValueError Result}
    (means : interpret literal = .ok result) :
    (FieldReader.text (Text.encode literal).length interpret).Means (Text.encode literal)
      result where
  exact := size_text _ _
  means := by simp only [FieldReader.text, whole, Text.decode_encode, means]

theorem bind
    {reader : FieldReader First}
    {first : First}
    {next : First → Except ValueError Result}
    (isFirst : reader.Means octets first)
    (isResult : next first = .ok result) :
    (reader.bind next).Means octets result where
  exact := isFirst.exact
  means := by
    simp only [FieldReader.bind, isFirst.means]
    exact isResult

theorem map
    {reader : FieldReader First}
    {first : First}
    (isFirst : reader.Means octets first)
    (change : First → Result) :
    (reader.map change).Means octets (change first) :=
  isFirst.bind rfl

/-- Octets with a meaning are decoded wherever they stand. -/
theorem outcome_framed
    {reader : FieldReader Result}
    {start : Cursor}
    (isResult : reader.Means octets result)
    (next : octets <+: start.rest) :
    (Read.framed octets.length reader.read).outcome start = .ok result := by
  rw [outcome_framed_of_next isResult.exact next, isResult.means]
  rfl

end FieldReader.Means

/-! ## Values of a server -/

namespace Shape

/-- The digits that a column of years shows. -/
def yearDigits (shape : Shape) : Nat :=
  if shape.length = twoDigitLength then 2 else 4

theorem yearDigits_le (shape : Shape) : shape.yearDigits ≤ 4 := by
  rw [yearDigits]
  split <;> decide

theorem shown_lt
    {shape : Shape}
    (shown : Fin (10 ^ shape.yearDigits)) :
    (shown : Nat) < 10 ^ 4 :=
  Nat.lt_of_lt_of_le shown.isLt (Nat.pow_le_pow_right (by decide) shape.yearDigits_le)

/-- A year that a column shows is the first day of it. -/
def firstDay
    (shape : Shape)
    (shown : Fin (10 ^ shape.yearDigits)) :
    Date where
  year := expandYear (shape.length = twoDigitLength) shown
  month := 1
  day := 1
  onCalendar := by
    have fourDigits := shown_lt shown
    refine ⟨?_, by decide, Nat.le_refl 1, by simp [daysInMonth]⟩
    simp only [expandYear, firstYear, lastYear]
    split
    · split <;> omega
    · omega

/--
What a server sends for a value of a column: a text in a plain query, and packed octets in
a prepared one.
-/
inductive Sends (shape : Shape) : Option DateTime → String → Octets → Prop where
  | date
      {day : Option Date}
      {octets : Octets}
      (isDate : shape.type = .date ∨ shape.type = .newDate)
      (fourDigits : shape.length ≠ twoDigitLength)
      (onServer : ∀ date ∈ day, FourDigits date.year)
      (sent : (PackedDateTime.ofMoment (day.map .atMidnight)).SentAs octets) :
      Sends shape (day.map .atMidnight)
        (PackedDateTime.ofMoment (day.map .atMidnight)).dateLiteral octets
  | dateTime
      {moment : Option DateTime}
      {text : String}
      {octets : Octets}
      (isTimestamp : shape.type = .dateTime ∨ shape.type = .timestamp)
      (onServer : ∀ dateTime ∈ moment, dateTime.OnServer)
      (written : (PackedDateTime.ofMoment moment).WrittenAs text)
      (sent : (PackedDateTime.ofMoment moment).SentAs octets) :
      Sends shape moment text octets
  | year
      (isYear : shape.type = .year)
      (shown : Fin (10 ^ shape.yearDigits)) :
      Sends shape (some (.atMidnight (shape.firstDay shown)))
        (Numeral.padded shape.yearDigits shown) (Octets.ofNat 2 shown)

end Shape

/-! ## Days and moments in both encodings -/

namespace TemporalField

variable {moment : Option DateTime} {octets : Octets}

theorem means_dayReader_text (onServer : ∀ dateTime ∈ moment, dateTime.OnServer) :
    (dayReader .text (Text.encode (PackedDateTime.ofMoment moment).dateLiteral).length).Means
      (Text.encode (PackedDateTime.ofMoment moment).dateLiteral) (moment.map DateTime.date) :=
  .text (PackedDateTime.parseDate_dateLiteral (PackedDateTime.date_ofMoment onServer))

theorem means_momentReader_text
    {text : String}
    (onServer : ∀ dateTime ∈ moment, dateTime.OnServer)
    (written : (PackedDateTime.ofMoment moment).WrittenAs text) :
    (momentReader .text (Text.encode text).length).Means (Text.encode text) moment :=
  .text (written.parseDateTime_ofMoment onServer)

theorem means_packedReader
    (onServer : ∀ dateTime ∈ moment, dateTime.OnServer)
    (sent : (PackedDateTime.ofMoment moment).SentAs octets) :
    (packedReader octets.length).Means octets (PackedDateTime.ofMoment moment) where
  exact := size_packedReader octets.length
  means := sent.ofOctets_eq (PackedDateTime.fitsGroups_ofMoment onServer)

theorem means_dayReader_binary
    (onServer : ∀ dateTime ∈ moment, dateTime.OnServer)
    (sent : (PackedDateTime.ofMoment moment).SentAs octets) :
    (dayReader .binary octets.length).Means octets (moment.map DateTime.date) :=
  (means_packedReader onServer sent).bind (PackedDateTime.date_ofMoment onServer)

theorem means_momentReader_binary
    (onServer : ∀ dateTime ∈ moment, dateTime.OnServer)
    (sent : (PackedDateTime.ofMoment moment).SentAs octets) :
    (momentReader .binary octets.length).Means octets moment :=
  (means_packedReader onServer sent).bind (PackedDateTime.dateTime_ofMoment onServer)

end TemporalField

/-! ## Years in both encodings -/

section Years

variable {shape : Shape}

theorem parseYear_padded
    {year : Nat}
    (small : year < 10 ^ 4)
    (width : Nat) :
    parseYear (Numeral.padded width year) = .ok (year : Int) := by
  let characters := (Numeral.padded width year).toList
  have noneBlank : Text.trim characters = characters :=
    Text.trim_of_forall fun digit member =>
      Text.isBlank_of_isDigit (Numeral.isDigit_padded width year digit member)
  have fitsBits : Numeral.fitsSigned 32 year = true := decide_eq_true ⟨by omega, by omega⟩
  have fits : IntegerWidth.int.fits year = true := fitsBits
  have within : Numeral.signedWithin? fullWidth characters = some (year : Int) :=
    (Numeral.signedWithin?_of_natural? (Numeral.natural?_padded width year)).trans
      (if_pos (IntegerWidth.fitsSigned_fullWidth_of_fits fits))
  have whole : parseWhole (Numeral.padded width year) = .ok (year : Int) := by
    rw [parseWhole, noneBlank, within]
  simp only [parseYear, noneBlank, characters, String.ofList_toList, whole, bind, Except.bind,
    if_pos fits]
  rfl

/-- A shown year has all its digits, so that two of them are sent where two are announced. -/
theorem length_encode_shown (shown : Fin (10 ^ shape.yearDigits)) :
    (Text.encode (Numeral.padded shape.yearDigits shown)).length = shape.yearDigits := by
  have positive : 0 < shape.yearDigits := by
    rw [Shape.yearDigits]
    split <;> decide
  rw [Text.length_encode_of_digits (Numeral.isDigit_padded _ _),
    Numeral.length_padded positive shown.isLt]

theorem means_yearTextReader (shown : Fin (10 ^ shape.yearDigits)) :
    (yearTextReader shape (Text.encode (Numeral.padded shape.yearDigits shown)).length).Means
      (Text.encode (Numeral.padded shape.yearDigits shown)) (some (shape.firstDay shown)) := by
  have sameRule :
      (shape.yearDigits = 2 ∧ shape.length = twoDigitLength) =
        (shape.length = twoDigitLength) := by
    rw [Shape.yearDigits]
    split <;> simp_all
  apply FieldReader.Means.text
  simp only [parseYear_padded (Shape.shown_lt shown), length_encode_shown, sameRule, bind,
    Except.bind]
  exact dateOfParts_parts (shape.firstDay shown)

/-- Both codecs take the two octets of a year for its first day. -/
theorem ofPacked_shown (shown : Fin (10 ^ shape.yearDigits)) :
    DateCodec.ofPacked shape (Octets.ofNat 2 shown) = .ok (some (shape.firstDay shown)) ∧
      DateTimeCodec.ofPackedYear shape (Octets.ofNat 2 shown) =
        .ok (some (shape.firstDay shown)) := by
  have small : (shown : Nat) < 256 ^ 2 := Nat.lt_trans (Shape.shown_lt shown) (by decide)
  obtain ⟨yearLow, yearHigh, twoOctets, sent⟩ := Octets.exists_ofNat_two small
  have sameYear : packedYear shape yearLow yearHigh = (shape.firstDay shown).year := by
    rw [packedYear, sent]
    rfl
  have named := dateOfParts_parts (shape.firstDay shown)
  rw [← sameYear] at named
  rw [twoOctets]
  exact ⟨named, named⟩

end Years

/-! ## The codecs -/

/-- A codec comes to one result with a text and with packed octets. -/
structure Codec.ReadsBoth
    {type : ApplicationType}
    (codec : Codec type)
    (shape : Shape)
    (offset : Option ZoneOffset)
    (text : String)
    (octets : Octets)
    (result : Option type.Carrier) :
    Prop where
  plain :
    (codec.reader ⟨.text, offset⟩ shape (Text.encode text).length).Means (Text.encode text)
      result
  prepared : (codec.reader ⟨.binary, offset⟩ shape octets.length).Means octets result

/-- What a codec of date-times makes of a moment: universal time, if the column is local. -/
def Shape.universal
    (shape : Shape)
    (offset : Option ZoneOffset)
    (moment : Option DateTime) :
    Option DateTime :=
  if shape.type = .dateTime ∨ shape.type = .timestamp then
    moment.map (DateTime.localToUniversal offset)
  else
    moment

theorem Shape.universal_eq_self
    {shape : Shape}
    (notLocal : ¬ (shape.type = .dateTime ∨ shape.type = .timestamp))
    (offset : Option ZoneOffset)
    (moment : Option DateTime) :
    shape.universal offset moment = moment :=
  if_neg notLocal

variable
  {shape : Shape}
  {offset : Option ZoneOffset}
  {moment : Option DateTime}
  {text : String}
  {octets : Octets}
  {length : Nat}

/-- The days of a server, each as the beginning of it. -/
theorem onServer_beginning
    {day : Option Date}
    (years : ∀ date ∈ day, FourDigits date.year) :
    ∀ dateTime ∈ day.map DateTime.atMidnight, dateTime.OnServer := by
  intro dateTime isBeginning
  obtain ⟨date, isDay, rfl⟩ := Option.map_eq_some_iff.mp isBeginning
  exact DateTime.onServer_atMidnight (years date isDay)

namespace DateCodec

theorem reader_timestamp_text
    (isTimestamp : shape.type = .dateTime ∨ shape.type = .timestamp) :
    dateCodec.reader ⟨.text, offset⟩ shape length =
      (TemporalField.momentReader .text length).map (Option.map DateTime.date) := by
  rcases isTimestamp with isType | isType
  · simp only [dateCodec, reader, isType]
    rfl
  · simp only [dateCodec, reader, isType]
    rfl

theorem reader_timestamp_binary
    (isTimestamp : shape.type = .dateTime ∨ shape.type = .timestamp) :
    dateCodec.reader ⟨.binary, offset⟩ shape length =
      TemporalField.dayReader .binary length := by
  rcases isTimestamp with isType | isType
  · simp only [dateCodec, reader, isType]
    rfl
  · simp only [dateCodec, reader, isType]
    rfl

theorem reader_year_text (isYear : shape.type = .year) :
    dateCodec.reader ⟨.text, offset⟩ shape length = yearTextReader shape length := by
  simp only [dateCodec, reader, isYear]

theorem reader_year_binary (isYear : shape.type = .year) :
    dateCodec.reader ⟨.binary, offset⟩ shape length =
      ⟨packedGroups length, ofPacked shape⟩ := by
  simp only [dateCodec, reader, isYear]

theorem readsBoth
    (sends : shape.Sends moment text octets)
    (offset : Option ZoneOffset) :
    dateCodec.ReadsBoth shape offset text octets (moment.map DateTime.date) := by
  cases sends with
  | @date day _ isDate fourDigits years sent =>
      have onServer := onServer_beginning years
      constructor
      · rw [reader_date_text isDate]
        exact TemporalField.means_dayReader_text onServer
      · have notYearAlone : octets.length ≠ 2 ∧ octets.length ≠ 3 := by
          have ends := sent.endsBehindGroup
          simp only [List.mem_cons, List.not_mem_nil, or_false] at ends
          omega
        rw [reader_date_binary isDate]
        exact ⟨size_packed, (ofPacked_eq fourDigits notYearAlone).trans
          (TemporalField.means_dayReader_binary onServer sent).means⟩
  | dateTime isTimestamp onServer written sent =>
      constructor
      · rw [reader_timestamp_text isTimestamp]
        exact (TemporalField.means_momentReader_text onServer written).map _
      · rw [reader_timestamp_binary isTimestamp]
        exact TemporalField.means_dayReader_binary onServer sent
  | year isYear shown =>
      constructor
      · rw [reader_year_text isYear]
        exact means_yearTextReader shown
      · rw [reader_year_binary isYear]
        exact ⟨size_packed, (ofPacked_shown shown).1⟩

end DateCodec

namespace DateTimeCodec

theorem reader_year_text (isYear : shape.type = .year) :
    dateTimeCodec.reader ⟨.text, offset⟩ shape length =
      (yearTextReader shape length).map atMidnight := by
  simp only [dateTimeCodec, reader, isYear]

theorem reader_year_binary (isYear : shape.type = .year) :
    dateTimeCodec.reader ⟨.binary, offset⟩ shape length =
      FieldReader.map atMidnight ⟨packedYearGroups length, ofPackedYear shape⟩ := by
  simp only [dateTimeCodec, reader, isYear]

theorem size_packedYear :
    (⟨packedYearGroups length, ofPackedYear shape⟩ : FieldReader (Option Date)).size = length := by
  simp only [FieldReader.size, packedYearGroups]
  split
  · exact Nat.add_zero length
  · simp only [List.sum_cons, List.sum_nil]
    omega

theorem readsBoth
    (sends : shape.Sends moment text octets)
    (offset : Option ZoneOffset) :
    dateTimeCodec.ReadsBoth shape offset text octets (shape.universal offset moment) := by
  cases sends with
  | @date day _ isDate fourDigits years sent =>
      have onServer := onServer_beginning years
      have notLocal : ¬ (shape.type = .dateTime ∨ shape.type = .timestamp) := by
        rcases isDate with isType | isType
        · simp [isType]
        · simp [isType]
      have beginning :
          atMidnight ((day.map DateTime.atMidnight).map DateTime.date) =
            day.map DateTime.atMidnight := by
        cases day <;> rfl
      rw [Shape.universal_eq_self notLocal]
      have plain := (TemporalField.means_dayReader_text onServer).map atMidnight
      have prepared := (TemporalField.means_dayReader_binary onServer sent).map atMidnight
      rw [beginning] at plain prepared
      constructor
      · rw [reader_date isDate]
        exact plain
      · rw [reader_date isDate]
        exact prepared
  | dateTime isTimestamp onServer written sent =>
      rw [Shape.universal, if_pos isTimestamp]
      constructor
      · rw [reader_timestamp isTimestamp]
        exact (TemporalField.means_momentReader_text onServer written).map _
      · rw [reader_timestamp isTimestamp]
        exact (TemporalField.means_momentReader_binary onServer sent).map _
  | year isYear shown =>
      have notLocal : ¬ (shape.type = .dateTime ∨ shape.type = .timestamp) := by
        simp [isYear]
      have isDay :
          (⟨packedYearGroups (Octets.ofNat 2 shown).length, ofPackedYear shape⟩ :
              FieldReader (Option Date)).Means
            (Octets.ofNat 2 shown) (some (shape.firstDay shown)) :=
        ⟨size_packedYear, (ofPacked_shown shown).2⟩
      rw [Shape.universal_eq_self notLocal]
      constructor
      · rw [reader_year_text isYear]
        exact (means_yearTextReader shown).map atMidnight
      · rw [reader_year_binary isYear]
        exact isDay.map atMidnight

end DateTimeCodec

/-- Both encodings come to the result, wherever in a packet their octets stand. -/
theorem Codec.ReadsBoth.outcome
    {type : ApplicationType}
    {codec : Codec type}
    {column : Column}
    {result : Option type.Carrier}
    {plain prepared : Cursor}
    (reads : codec.ReadsBoth column.shape offset text octets result)
    (textNext : Text.encode text <+: plain.rest)
    (octetsNext : octets <+: prepared.rest) :
    (codec.decode column ⟨.text, offset⟩ (Text.encode text).length).outcome plain =
        .ok result ∧
      (codec.decode column ⟨.binary, offset⟩ octets.length).outcome prepared = .ok result :=
  ⟨reads.plain.outcome_framed textNext, reads.prepared.outcome_framed octetsNext⟩

/--
Whatever a server sends for a value, the codecs make the same of its text and of its packed
octets: the day, and the moment, which is moved to universal time if the column is local.
-/
theorem codecs_read_both_encodings_alike
    {column : Column}
    {moment : Option DateTime}
    {text : String}
    {octets : Octets}
    (sends : column.shape.Sends moment text octets)
    (offset : Option ZoneOffset)
    {plain prepared : Cursor}
    (textNext : Text.encode text <+: plain.rest)
    (octetsNext : octets <+: prepared.rest) :
    ((dateCodec.decode column ⟨.text, offset⟩ (Text.encode text).length).outcome plain =
          .ok (moment.map DateTime.date) ∧
        (dateCodec.decode column ⟨.binary, offset⟩ octets.length).outcome prepared =
          .ok (moment.map DateTime.date)) ∧
      (dateTimeCodec.decode column ⟨.text, offset⟩ (Text.encode text).length).outcome plain =
          .ok (column.shape.universal offset moment) ∧
        (dateTimeCodec.decode column ⟨.binary, offset⟩ octets.length).outcome prepared =
          .ok (column.shape.universal offset moment) :=
  ⟨(DateCodec.readsBoth sends offset).outcome textNext octetsNext,
    (DateTimeCodec.readsBoth sends offset).outcome textNext octetsNext⟩

/-- A moment of whole seconds, whose fraction is not sent, two hours ahead of universal time. -/
theorem whole_seconds_are_read_alike :
    let column := Column.generated "at" .dateTime 26 0
    let offset : Option ZoneOffset := some ⟨7200, by decide⟩
    let moment : DateTime := ⟨⟨2024, 3, 1, by decide⟩, ⟨0, 36, 5, 0, by decide⟩⟩
    let universal : DateTime := ⟨⟨2024, 2, 29, by decide⟩, ⟨22, 36, 5, 0, by decide⟩⟩
    let plain := Cursor.ofPacket (Text.encode "2024-03-01 00:36:05")
    let prepared := Cursor.ofPacket [0xE8, 0x07, 0x03, 0x01, 0x00, 0x24, 0x05]
    ((dateCodec.decode column ⟨.text, offset⟩ 19).outcome plain = .ok (some moment.date) ∧
        (dateCodec.decode column ⟨.binary, offset⟩ 7).outcome prepared =
          .ok (some moment.date)) ∧
      (dateTimeCodec.decode column ⟨.text, offset⟩ 19).outcome plain = .ok (some universal) ∧
        (dateTimeCodec.decode column ⟨.binary, offset⟩ 7).outcome prepared =
          .ok (some universal) := by
  intro column offset moment universal plain prepared
  let octets : Octets := [0xE8, 0x07, 0x03, 0x01, 0x00, 0x24, 0x05]
  have onServer : ∀ dateTime ∈ some moment, dateTime.OnServer := by
    rintro _ ⟨⟩
    exact ⟨by decide, by decide, by decide⟩
  have spelled :
      "2024-03-01 00:36:05" =
        moment.packed.dateLiteral ++ " " ++
          clockText moment.packed.hour moment.packed.minute moment.packed.second := by
    decide +kernel
  have written : moment.packed.WrittenAs "2024-03-01 00:36:05" := spelled ▸ .whole (by decide)
  have sent : moment.packed.SentAs octets := ⟨by decide, by decide⟩
  have moved : column.shape.universal offset (some moment) = some universal := by
    decide
  have sends : column.shape.Sends (some moment) "2024-03-01 00:36:05" octets :=
    .dateTime (.inl rfl) onServer written sent
  have alike :=
    codecs_read_both_encodings_alike sends offset (List.prefix_refl plain.rest)
      (List.prefix_refl prepared.rest)
  rwa [moved] at alike

end ResultSet
