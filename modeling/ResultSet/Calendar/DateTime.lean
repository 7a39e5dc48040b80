import ResultSet.Calendar.Date

namespace ResultSet

/-!
# Times of day and date-times

A time of day counts nanoseconds up to two seconds, so that a leap second is the
second half of the last second of its minute.  A zone offset moves a date-time
by less than a day; the nanoseconds stay, also those of a leap second.
-/

/-- Nanoseconds in a second. -/
def nanosecondsPerSecond : Nat := 1000000000

/-- Seconds in a day without leap seconds. -/
def secondsPerDay : Nat := 86400

/-- Whether the parts are those of a time of day, leap seconds included. -/
def OnClock
    (hour minute second nanosecond : Nat) :
    Prop :=
  hour < 24 ∧ minute < 60 ∧ second < 60 ∧ nanosecond < 2 * nanosecondsPerSecond

instance
    (hour minute second nanosecond : Nat) :
    Decidable (OnClock hour minute second nanosecond) := by
  unfold OnClock
  infer_instance

/-- A time of day. -/
structure TimeOfDay where
  hour : Nat
  minute : Nat
  second : Nat
  nanosecond : Nat
  onClock : OnClock hour minute second nanosecond
  deriving Repr, DecidableEq

/-- The text of the whole seconds of a time of day. -/
def clockText (hour minute second : Nat) : String :=
  Numeral.padded 2 hour ++ ":" ++ Numeral.padded 2 minute ++ ":" ++ Numeral.padded 2 second

namespace TimeOfDay

/--
The time of day with the given parts.  More than a second of nanoseconds is
allowed in second 59 only.
-/
def ofParts?
    (hour minute second nanosecond : Nat) :
    Option TimeOfDay :=
  if second ≠ 59 ∧ nanosecondsPerSecond ≤ nanosecond then
    none
  else if onClock : OnClock hour minute second nanosecond then
    some ⟨hour, minute, second, nanosecond, onClock⟩
  else
    none

/-- The time of day with its fraction in microseconds. -/
def ofMicroseconds?
    (hour minute second microseconds : Nat) :
    Option TimeOfDay :=
  ofParts? hour minute second (1000 * microseconds)

/-- The beginning of a day. -/
def midnight : TimeOfDay :=
  ⟨0, 0, 0, 0, by decide⟩

/-- Whole seconds since midnight. -/
def secondOfDay (time : TimeOfDay) : Nat :=
  3600 * time.hour + 60 * time.minute + time.second

/-- Put the clock to so many seconds after midnight and keep the nanoseconds. -/
def atSecondOfDay
    (time : TimeOfDay)
    (seconds : Nat) :
    TimeOfDay where
  hour := seconds / 3600 % 24
  minute := seconds / 60 % 60
  second := seconds % 60
  nanosecond := time.nanosecond
  onClock :=
    ⟨Nat.mod_lt _ (by decide), Nat.mod_lt _ (by decide), Nat.mod_lt _ (by decide),
      time.onClock.2.2.2⟩

/-- The whole microseconds of the fraction, a million and more in a leap second. -/
def microseconds (time : TimeOfDay) : Nat :=
  time.nanosecond / 1000

/-- The shortest of no digits, three, six and nine that shows a fraction of a second exactly. -/
def fractionText (nanosecond : Nat) : String :=
  if nanosecond = 0 then ""
  else if nanosecond % 1000000 = 0 then "." ++ Numeral.padded 3 (nanosecond / 1000000)
  else if nanosecond % 1000 = 0 then "." ++ Numeral.padded 6 (nanosecond / 1000)
  else "." ++ Numeral.padded 9 nanosecond

/-- The text of a time of day as a value; a leap second is second 60. -/
def render (time : TimeOfDay) : String :=
  clockText time.hour time.minute (time.second + time.nanosecond / nanosecondsPerSecond) ++
    fractionText (time.nanosecond % nanosecondsPerSecond)

end TimeOfDay

/-- A day and a time of that day. -/
structure DateTime where
  date : Date
  time : TimeOfDay
  deriving Repr, DecidableEq

/-- How far local time is ahead of universal time, less than a day either way. -/
structure ZoneOffset where
  seconds : Int
  withinDay : -86400 < seconds ∧ seconds < 86400
  deriving Repr, DecidableEq

/-- The offset of so many seconds, if it is less than a day. -/
def ZoneOffset.ofSeconds? (seconds : Int) : Option ZoneOffset :=
  if withinDay : -86400 < seconds ∧ seconds < 86400 then
    some ⟨seconds, withinDay⟩
  else
    none

namespace DateTime

/-- The beginning of a day. -/
def atMidnight (date : Date) : DateTime :=
  ⟨date, TimeOfDay.midnight⟩

/-- The date-time so many seconds later, for less than a day, if the calendar has it. -/
def moved?
    (dateTime : DateTime)
    (seconds : Int) :
    Option DateTime :=
  let total := dateTime.time.secondOfDay + seconds
  let time := dateTime.time.atSecondOfDay (total % secondsPerDay).toNat
  if total < 0 then
    dateTime.date.previous?.map fun date => ⟨date, time⟩
  else if total < secondsPerDay then
    some ⟨dateTime.date, time⟩
  else
    dateTime.date.next?.map fun date => ⟨date, time⟩

/-- Universal time of a local time; a local time whose universal time is off the calendar is kept. -/
def localToUniversal
    (offset : Option ZoneOffset)
    (dateTime : DateTime) :
    DateTime :=
  match offset with
  | none => dateTime
  | some offset => (dateTime.moved? (-offset.seconds)).getD dateTime

/-- Local time of a universal time; a universal time whose local time is off the calendar is kept. -/
def universalToLocal
    (offset : Option ZoneOffset)
    (dateTime : DateTime) :
    DateTime :=
  match offset with
  | none => dateTime
  | some offset => (dateTime.moved? offset.seconds).getD dateTime

/-- The text of a date-time as a value. -/
def render (dateTime : DateTime) : String :=
  dateTime.date.render ++ " " ++ dateTime.time.render

end DateTime

end ResultSet
