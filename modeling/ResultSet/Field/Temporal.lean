import ResultSet.Calendar.Packed
import ResultSet.Column.Shape
import ResultSet.Field.Reader
import ResultSet.Value

namespace ResultSet

/-!
# Fields of dates, durations and date-times

These fields are read as text or in their natural representation and serve
nothing else.  A duration is no time of day, so that its natural representation
is its text.  A date-time is local to a zone, if the caller names one, and its
natural representation is universal time; its text is left as it was sent.
-/

namespace TemporalField

/-- A day as a value; no day is no value. -/
def dateValue : Option Date → Value
  | some date => .date date
  | none => .null

/-- A local date-time as a value in universal time; no date-time is no value. -/
def dateTimeValue
    (offset : Option ZoneOffset) :
    Option DateTime → Value
  | some dateTime => .dateTime (dateTime.localToUniversal offset)
  | none => .null

/-- Take a packed date-time. -/
def packedReader (length : Nat) : FieldReader PackedDateTime :=
  ⟨PackedDateTime.groups length, PackedDateTime.ofOctets⟩

/-- Take a packed date as its text. -/
def packedDateTextReader (length : Nat) : FieldReader String :=
  ⟨PackedDateTime.groups length, PackedDateTime.textOfDate⟩

/-- Take a packed duration as its text. -/
def durationReader (shape : Shape) (length : Nat) : FieldReader String :=
  ⟨PackedDuration.groups length, PackedDuration.text shape.decimals.toNat⟩

/-- Read a date. -/
def date
    (protocol : Protocol)
    (target : Target)
    (shape : Shape)
    (length : Nat) :
    FieldReader target.Result :=
  match protocol, target with
  | .text, .text => .text length .ok
  | .text, .natural => .text length fun literal => do
      return dateValue (← parseDate literal)
  | .binary, .text => packedDateTextReader length
  | .binary, .natural => (packedReader length).bind fun packed => do
      return dateValue (← packed.date)
  | _, target => .refuse length shape.type target.label

/-- Read a duration. -/
def time
    (protocol : Protocol)
    (target : Target)
    (shape : Shape)
    (length : Nat) :
    FieldReader target.Result :=
  match protocol, target with
  | .text, .text => .text length .ok
  | .text, .natural => .text length fun literal => .ok (.text literal)
  | .binary, .text => durationReader shape length
  | .binary, .natural => (durationReader shape length).map .text
  | _, target => .refuse length shape.type target.label

/-- Read a date-time. -/
def timestamp
    (protocol : Protocol)
    (target : Target)
    (shape : Shape)
    (offset : Option ZoneOffset)
    (length : Nat) :
    FieldReader target.Result :=
  match protocol, target with
  | .text, .text => .text length .ok
  | .text, .natural => .text length fun literal => do
      return dateTimeValue offset (← parseDateTime literal)
  | .binary, .text =>
      (packedReader length).map fun packed => packed.literal shape.decimals.toNat
  | .binary, .natural => (packedReader length).bind fun packed => do
      return dateTimeValue offset (← packed.dateTime)
  | _, target => .refuse length shape.type target.label

end TemporalField

end ResultSet
