import ResultSet.Calendar.DateTime
import ResultSet.Fault
import ResultSet.Text.Literal

namespace ResultSet

/-!
# Literals of dates and date-times

A date is a year, a month and a day; a date-time may follow it with a time of
day, whose fraction is cut after six digits.  The date of all zeros is no date:
it reads as the absence of a value, whatever time follows it.
-/

/-- The name of dates in messages. -/
def dateLabel : String := "Date"

/-- The name of date-times in messages. -/
def timestampLabel : String := "Timestamp"

/-- The day with the given parts; all zeros are no day. -/
def dateOfParts
    (year : Int)
    (month day : Nat) :
    Except ValueError (Option Date) :=
  if year = 0 ∧ month = 0 ∧ day = 0 then
    .ok none
  else
    match Date.ofParts? year month day with
    | some date => .ok (some date)
    | none => .error (.literal (dateText year month day) dateLabel)

/-- A two-digit year: up to 69 it is in this century, and from 70 on in the last one. -/
def expandYear
    (twoDigit : Bool)
    (year : Int) :
    Int :=
  if twoDigit then
    if year ≤ 69 then 2000 + year else 1900 + year
  else
    year

/-- Whether a character stands between the parts of a date, or behind it. -/
def isDateSeparator (character : Char) : Bool :=
  character == '-' || character == ' ' || character == 'T'

/-- The numbers in the first three parts of a date literal. -/
def dateParts? (characters : List Char) : Option (Int × Nat × Nat) := do
  let (yearPart, afterYear) := Text.splitFirst isDateSeparator characters
  let (monthPart, afterMonth) := Text.splitFirst isDateSeparator (← afterYear)
  let (dayPart, _) := Text.splitFirst isDateSeparator (← afterMonth)
  let year ← Numeral.signedWithin? 32 yearPart
  let month ← Numeral.unsignedWithin? 32 monthPart
  let day ← Numeral.unsignedWithin? 32 dayPart
  return (year, month, day)

/-- The day that the first three parts of a literal name. -/
def parseDate (literal : String) : Except ValueError (Option Date) :=
  match dateParts? (Text.trim literal.toList) with
  | some (year, month, day) => dateOfParts year month day
  | none => .error (.literal literal dateLabel)

/-- The digits of a microsecond; later digits of a fraction are dropped. -/
def microsecondDigits : Nat := 6

/-- The microseconds of a fraction given by its digits. -/
def fractionMicroseconds (digits : List Char) : Nat :=
  Numeral.value
    (digits.take microsecondDigits ++
      List.replicate (microsecondDigits - digits.length) '0')

/-- The time of day that a literal spells. -/
def parseTimeOfDay? (characters : List Char) : Option TimeOfDay := do
  let (hourPart, afterHour) := Text.splitFirst (· == ':') characters
  let (minutePart, afterMinute) := Text.splitFirst (· == ':') (← afterHour)
  let (secondPart, afterSecond) := Text.splitFirst (· == '.') (← afterMinute)
  let fraction := afterSecond.getD []
  let hour ← Numeral.unsignedWithin? 32 hourPart
  let minute ← Numeral.unsignedWithin? 32 minutePart
  let second ← Numeral.unsignedWithin? 32 secondPart
  if fraction.all Char.isDigit then
    TimeOfDay.ofMicroseconds? hour minute second (fractionMicroseconds fraction)
  else
    none

/-- Whether a character stands between a date and a time of day. -/
def isTimeSeparator (character : Char) : Bool :=
  character == ' ' || character == 'T'

/-- The date-time that a literal spells; without a time of day it is midnight. -/
def parseDateTime (literal : String) : Except ValueError (Option DateTime) := do
  let (datePart, timePart) := Text.splitFirst isTimeSeparator (Text.trim literal.toList)
  match ← parseDate (String.ofList datePart), timePart with
  | none, _ => return none
  | some date, none => return some (DateTime.atMidnight date)
  | some date, some time =>
      match parseTimeOfDay? (Text.trim time) with
      | some timeOfDay => return some ⟨date, timeOfDay⟩
      | none => throw (.literal literal timestampLabel)

end ResultSet
