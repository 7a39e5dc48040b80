import ResultSet.Text.Literal

namespace ResultSet

/-!
# Days of the Gregorian calendar

The calendar is extended to all years from -262143 to 262142, year zero
included.  A `Date` is always a day of this calendar.
-/

/-- Whether a year has a 29th of February. -/
def isLeapYear (year : Int) : Bool :=
  year % 4 == 0 && (year % 100 != 0 || year % 400 == 0)

/-- The number of days of a month. -/
def daysInMonth
    (year : Int)
    (month : Nat) :
    Nat :=
  match month with
  | 2 => if isLeapYear year then 29 else 28
  | 4 | 6 | 9 | 11 => 30
  | _ => 31

/-- The first year of the calendar. -/
def firstYear : Int := -262143

/-- The last year of the calendar. -/
def lastYear : Int := 262142

/-- Whether a year, a month and a day name a day of the calendar. -/
def OnCalendar
    (year : Int)
    (month day : Nat) :
    Prop :=
  (firstYear ≤ year ∧ year ≤ lastYear) ∧
    (1 ≤ month ∧ month ≤ 12) ∧
    (1 ≤ day ∧ day ≤ daysInMonth year month)

instance
    (year : Int)
    (month day : Nat) :
    Decidable (OnCalendar year month day) := by
  unfold OnCalendar
  infer_instance

/-- A day of the calendar. -/
structure Date where
  year : Int
  month : Nat
  day : Nat
  onCalendar : OnCalendar year month day
  deriving Repr, DecidableEq

/-- The text of a day with at least four digits for the year. -/
def dateText
    (year : Int)
    (month day : Nat) :
    String :=
  Numeral.paddedInt 4 year ++ "-" ++ Numeral.padded 2 month ++ "-" ++ Numeral.padded 2 day

namespace Date

/-- The day with the given parts, if the calendar has it. -/
def ofParts?
    (year : Int)
    (month day : Nat) :
    Option Date :=
  if onCalendar : OnCalendar year month day then
    some ⟨year, month, day, onCalendar⟩
  else
    none

/-- The day after, if the calendar has it. -/
def next? (date : Date) : Option Date :=
  if date.day < daysInMonth date.year date.month then
    ofParts? date.year date.month (date.day + 1)
  else if date.month < 12 then
    ofParts? date.year (date.month + 1) 1
  else
    ofParts? (date.year + 1) 1 1

/-- The day before, if the calendar has it. -/
def previous? (date : Date) : Option Date :=
  if 1 < date.day then
    ofParts? date.year date.month (date.day - 1)
  else if 1 < date.month then
    ofParts? date.year (date.month - 1) (daysInMonth date.year (date.month - 1))
  else
    ofParts? (date.year - 1) 12 31

/-- The literal of a day, in which the sign of a year counts as one of four characters. -/
def literal (date : Date) : String :=
  dateText date.year date.month date.day

/-- The text of a year: four digits, and a sign with all years that need more or are negative. -/
def yearText (year : Int) : String :=
  if year < 0 then
    "-" ++ Numeral.padded 4 year.natAbs
  else if year ≤ 9999 then
    Numeral.padded 4 year.natAbs
  else
    "+" ++ Numeral.padded 4 year.natAbs

/-- The text of a day as a value. -/
def render (date : Date) : String :=
  yearText date.year ++ "-" ++ Numeral.padded 2 date.month ++ "-" ++
    Numeral.padded 2 date.day

end Date

end ResultSet
