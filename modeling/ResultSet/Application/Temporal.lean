import ResultSet.Application.Codec

namespace ResultSet

/-!
# The codecs of dates and date-times

Both codecs read the same columns.  A year stands for its first day, and a column
of characters for the date or date-time that it spells.

A date is read from the date part of a column, and a missing month or day of a
packed date is the first.  It has no zone.

Columns of date-times hold local time; a date-time is universal time.  Reading
moves it from the zone of the caller to universal time, and writing moves it
back.  Dates, years and columns of characters are read as they were sent.
-/

/-! ## The columns of both codecs -/

/-- The types of the columns that dates and date-times are read from. -/
def temporalTypes : List ServerType :=
  [.date, .newDate, .dateTime, .timestamp, .year, .varString, .varChar, .string, .blob,
    .tinyBlob, .mediumBlob, .longBlob]

/-- Whether a type is a type of characters that dates and date-times are read from. -/
def spellsTemporal (type : ServerType) : Bool :=
  type.isCharacterLike && temporalTypes.contains type

/--
Read what a column of characters spells.  A large object of data is refused, and
so is a column of any other type.
-/
def spelledReader
    {Result : Type}
    (label : String)
    (parse : String → Except ValueError Result)
    (shape : Shape)
    (length : Nat) :
    FieldReader Result :=
  if spellsTemporal shape.type then
    if shape.type.isBlob ∧ shape.isBinary then
      .refuse length shape.type label
    else
      .text length parse
  else
    .refuse length shape.type label

/-- The number that the literal of a year spells. -/
def parseYear (literal : String) : Except ValueError Int := do
  let year ← parseWhole (String.ofList (Text.trim literal.toList))
  if IntegerWidth.int.fits year then
    return year
  else
    throw (.literal literal dateLabel)

/-- The display width at which a year has two digits. -/
def twoDigitLength : UInt32 := 2

/-- Read the literal of a year as its first day; two digits must be announced and sent. -/
def yearTextReader
    (shape : Shape)
    (length : Nat) :
    FieldReader (Option Date) :=
  .text length fun literal => do
    let twoDigit := length = 2 ∧ shape.length = twoDigitLength
    dateOfParts (expandYear twoDigit (← parseYear literal)) 1 1

/-- A packed year in a column of some display width. -/
def packedYear (shape : Shape) (yearLow yearHigh : UInt8) : Int :=
  expandYear (shape.length = twoDigitLength) (Octets.littleEndian [yearLow, yearHigh])

/-! ## Dates -/

namespace DateCodec

/-- The name of dates in messages of their codec. -/
def label : String := dateLabel

/-- The groups in which a packed date or year of some length is taken. -/
def packedGroups (length : Nat) : List Nat :=
  if length < 2 then [length]
  else if length < 4 then [2, length - 2]
  else [2, 1, 1, length - 4]

/-- The day of a packed date or year. -/
def ofPacked
    (shape : Shape) :
    Octets → Except ValueError (Option Date)
  | [] => .ok none
  | yearLow :: yearHigh :: month :: day :: _ =>
      dateOfParts (packedYear shape yearLow yearHigh) month.toNat day.toNat
  | yearLow :: yearHigh :: _ => dateOfParts (packedYear shape yearLow yearHigh) 1 1
  | octets => .error (.shortDate octets.length)

/-- Read a date from a column. -/
def reader
    (encoding : Encoding)
    (shape : Shape)
    (length : Nat) :
    FieldReader (Option Date) :=
  match encoding.protocol, shape.type with
  | .text, .year => yearTextReader shape length
  | .text, .date | .text, .newDate => .text length parseDate
  | .text, .dateTime | .text, .timestamp => .text length fun literal => do
      return (← parseDateTime literal).map DateTime.date
  | .binary, .dateTime | .binary, .timestamp =>
      (TemporalField.packedReader length).bind PackedDateTime.date
  | .binary, .date | .binary, .newDate | .binary, .year =>
      ⟨packedGroups length, ofPacked shape⟩
  | _, _ => spelledReader label parseDate shape length

/-- The quoted literal of a date. -/
def writeLiteral (date : Date) : Octets :=
  Text.encode ("'" ++ date.literal ++ "'")

/-- The packed date with a clock of zeros; of the year only the low two octets are sent. -/
def writeParameter (date : Date) : Octets :=
  Message.unsigned 1 7 ++ Octets.ofInt 2 date.year ++ Message.unsigned 1 date.month ++
    Message.unsigned 1 date.day ++ Message.zeros 3

end DateCodec

/-- The codec of dates. -/
def dateCodec : Codec .date where
  label := DateCodec.label
  readableTypes := temporalTypes
  parameterType := .date
  reader := DateCodec.reader
  writeLiteral := fun _ date => .ok (DateCodec.writeLiteral date)
  writeParameter := fun _ date => .ok (DateCodec.writeParameter date)

/-! ## Date-times -/

namespace DateTimeCodec

/-- The name of date-times in messages of their codec. -/
def label : String := "DateTime"

/-- The groups in which a packed year of some length is taken. -/
def packedYearGroups (length : Nat) : List Nat :=
  if length < 2 then [length] else [2, length - 2]

/-- The first day of a packed year. -/
def ofPackedYear
    (shape : Shape) :
    Octets → Except ValueError (Option Date)
  | [] => .ok none
  | yearLow :: yearHigh :: _ => dateOfParts (packedYear shape yearLow yearHigh) 1 1
  | octets => .error (.shortDate octets.length)

/-- The beginning of a day, if there is a day. -/
def atMidnight : Option Date → Option DateTime :=
  Option.map DateTime.atMidnight

/-- Read a date-time from a column. -/
def reader
    (encoding : Encoding)
    (shape : Shape)
    (length : Nat) :
    FieldReader (Option DateTime) :=
  match encoding.protocol, shape.type with
  | .text, .year => (yearTextReader shape length).map atMidnight
  | .text, .date | .text, .newDate => .text length fun literal => do
      return atMidnight (← parseDate literal)
  | .text, .dateTime | .text, .timestamp => .text length fun literal => do
      return (← parseDateTime literal).map (DateTime.localToUniversal encoding.offset)
  | .binary, .dateTime | .binary, .timestamp =>
      (TemporalField.packedReader length).bind fun packed => do
        return (← packed.dateTime).map (DateTime.localToUniversal encoding.offset)
  | .binary, .date | .binary, .newDate =>
      (TemporalField.packedReader length).bind fun packed => do
        return atMidnight (← packed.date)
  | .binary, .year =>
      FieldReader.map atMidnight ⟨packedYearGroups length, ofPackedYear shape⟩
  | _, _ => spelledReader label parseDateTime shape length

/-- The quoted literal of a local date-time, with six digits of a fraction if there is one. -/
def writeLocalLiteral (dateTime : DateTime) : Octets :=
  let time := dateTime.time
  let fraction :=
    if time.microseconds = 0 then
      ""
    else
      "." ++ Numeral.padded microsecondDigits time.microseconds
  Text.encode
    ("'" ++ dateTime.date.literal ++ " " ++ clockText time.hour time.minute time.second ++
      fraction ++ "'")

/--
The packed local date-time, without the group of microseconds when there are none;
of the year only the low two octets are sent.
-/
def writeLocalParameter (dateTime : DateTime) : Octets :=
  let date := dateTime.date
  let time := dateTime.time
  let length := if time.microseconds = 0 then 7 else 11
  let whole :=
    Octets.ofInt 2 date.year ++ Message.unsigned 1 date.month ++ Message.unsigned 1 date.day ++
      Message.unsigned 1 time.hour ++ Message.unsigned 1 time.minute ++
      Message.unsigned 1 time.second
  let fraction :=
    if time.microseconds = 0 then [] else Message.unsigned 4 time.microseconds
  Message.unsigned 1 length ++ whole ++ fraction

end DateTimeCodec

/-- The codec of date-times. -/
def dateTimeCodec : Codec .dateTime where
  label := DateTimeCodec.label
  readableTypes := temporalTypes
  parameterType := .dateTime
  reader := DateTimeCodec.reader
  writeLiteral := fun offset dateTime =>
    .ok (DateTimeCodec.writeLocalLiteral (dateTime.universalToLocal offset))
  writeParameter := fun offset dateTime =>
    .ok (DateTimeCodec.writeLocalParameter (dateTime.universalToLocal offset))

end ResultSet
