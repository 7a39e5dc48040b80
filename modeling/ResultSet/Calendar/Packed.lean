import ResultSet.Calendar.Literal
import ResultSet.Octets

namespace ResultSet

/-!
# Packed date-times and durations

A packed date-time has a group for the date, one for the clock and one for the
microseconds.  A packed duration has its sign and its days in the first group.
Groups missing at the end mean zero, and octets that do not fill a group mean
nothing; but a value that is not empty has its first group.

The parts are kept as they were sent, whether or not the calendar has them, for
their text shows them as they are.  A value that is not sent, and the date of all
zeros, have texts of their own.
-/

/-- The most digits of a fraction of a second. -/
def fractionDigits (decimals : Nat) : Nat :=
  min decimals microsecondDigits

/--
The text of a fraction of a second, cut to the digits that the column declares.  A
column that declares none shows a fraction in full, if there is one.
-/
def fractionText (microseconds decimals : Nat) : String :=
  if decimals = 0 ∧ microseconds = 0 then
    ""
  else
    let digits := if decimals = 0 then microsecondDigits else fractionDigits decimals
    "." ++ String.ofList ((Numeral.padded microsecondDigits microseconds).toList.take digits)

/-! ## Texts of zeros -/

/-- The text of no date. -/
def zeroDate : String := "0000-00-00"

/-- The text of no duration. -/
def zeroTime : String := "00:00:00"

/-- The text of no date-time. -/
def zeroDateTime : String := "0000-00-00 00:00:00"

/-- A text of zeros with a fraction of the digits that the column declares. -/
def zeroWithFraction (zero : String) (decimals : Nat) : String :=
  let digits := fractionDigits decimals
  if digits = 0 then
    zero
  else
    zero ++ "." ++ Numeral.zeros digits

/-! ## Clocks -/

/-- The parts of a packed value behind its first group. -/
structure PackedClock where
  hour : Nat := 0
  minute : Nat := 0
  second : Nat := 0
  microseconds : Nat := 0
  deriving Repr, DecidableEq

namespace PackedClock

/-- The groups in which the octets behind the first group are taken. -/
def groups (length : Nat) : List Nat :=
  if length < 3 then [length]
  else if length < 7 then [1, 1, 1, length - 3]
  else [1, 1, 1, 4, length - 7]

/--
The groups in which a packed value of some length is taken: those in front of the clock, if
all of their octets are there, and those of the clock.
-/
def groupsBehind
    (first : Nat)
    (front : List Nat)
    (length : Nat) :
    List Nat :=
  if length < first then [length] else front ++ groups (length - first)

/-- The microseconds that the octets behind a clock spell. -/
def fraction : Octets → Nat
  | first :: second :: third :: fourth :: _ =>
      Octets.littleEndian [first, second, third, fourth]
  | _ => 0

/-- The clock and the microseconds that the octets behind the first group spell. -/
def ofOctets : Octets → PackedClock
  | hour :: minute :: second :: behind =>
      { hour := hour.toNat
        minute := minute.toNat
        second := second.toNat
        microseconds := fraction behind }
  | _ => {}

end PackedClock

/-! ## Date-times -/

/-- The parts of a packed date-time. -/
structure PackedDateTime where
  year : Nat := 0
  month : Nat := 0
  day : Nat := 0
  hour : Nat := 0
  minute : Nat := 0
  second : Nat := 0
  microseconds : Nat := 0
  deriving Repr, DecidableEq

namespace PackedDateTime

/-- The groups in which a packed date-time of some length is taken. -/
def groups (length : Nat) : List Nat :=
  PackedClock.groupsBehind 4 [2, 1, 1] length

/-- The date with a clock behind it. -/
def withClock
    (packed : PackedDateTime)
    (clock : PackedClock) :
    PackedDateTime :=
  { packed with
    hour := clock.hour
    minute := clock.minute
    second := clock.second
    microseconds := clock.microseconds }

/-- The parts that the octets of a packed date-time spell. -/
def ofOctets : Octets → Except ValueError PackedDateTime
  | [] => .ok {}
  | yearLow :: yearHigh :: month :: day :: behind =>
      .ok (withClock
        { year := Octets.littleEndian [yearLow, yearHigh]
          month := month.toNat
          day := day.toNat }
        (PackedClock.ofOctets behind))
  | octets => .error (.shortDate octets.length)

/-- Whether the date is the one of all zeros. -/
def isZeroDate (packed : PackedDateTime) : Bool :=
  packed.year == 0 && packed.month == 0 && packed.day == 0

/-- The day, or no value for the date of all zeros. -/
def date (packed : PackedDateTime) : Except ValueError (Option Date) :=
  dateOfParts packed.year packed.month packed.day

/-- The date-time, or no value for the date of all zeros. -/
def dateTime (packed : PackedDateTime) : Except ValueError (Option DateTime) := do
  match ← packed.date with
  | none => return none
  | some date =>
      match
        TimeOfDay.ofMicroseconds? packed.hour packed.minute packed.second
          packed.microseconds
      with
      | some time => return some ⟨date, time⟩
      | none =>
          throw (.literal
            (clockText packed.hour packed.minute packed.second ++ "." ++
              Numeral.padded microsecondDigits packed.microseconds)
            timestampLabel)

/-- The text of the date alone. -/
def dateLiteral (packed : PackedDateTime) : String :=
  dateText packed.year packed.month packed.day

/-- The text of the parts as they are, with a fraction as the column shows it. -/
def spelled (packed : PackedDateTime) (decimals : Nat) : String :=
  packed.dateLiteral ++ " " ++ clockText packed.hour packed.minute packed.second ++
    fractionText packed.microseconds decimals

/-- The text of the date-time; the clock behind the date of all zeros is not shown. -/
def literal (packed : PackedDateTime) (decimals : Nat) : String :=
  if packed.isZeroDate then
    zeroWithFraction zeroDateTime decimals
  else
    packed.spelled decimals

/-- The text of the date that octets spell. -/
def textOfDate : Octets → Except ValueError String
  | [] => .ok zeroDate
  | octets => do return (← ofOctets octets).dateLiteral

end PackedDateTime

/-! ## Durations -/

/-- The parts of a packed duration. -/
structure PackedDuration where
  negative : Bool := false
  days : Nat := 0
  hours : Nat := 0
  minutes : Nat := 0
  seconds : Nat := 0
  microseconds : Nat := 0
  deriving Repr, DecidableEq

namespace PackedDuration

/-- The groups in which a packed duration of some length is taken. -/
def groups (length : Nat) : List Nat :=
  PackedClock.groupsBehind 5 [1, 4] length

/-- The days with a clock behind them. -/
def withClock
    (packed : PackedDuration)
    (clock : PackedClock) :
    PackedDuration :=
  { packed with
    hours := clock.hour
    minutes := clock.minute
    seconds := clock.second
    microseconds := clock.microseconds }

/-- The parts that the octets of a packed duration spell. -/
def ofOctets : Octets → Except ValueError PackedDuration
  | sign :: first :: second :: third :: fourth :: behind =>
      .ok (withClock
        { negative := sign == 1
          days := Octets.littleEndian [first, second, third, fourth] }
        (PackedClock.ofOctets behind))
  | octets => .error (.shortTime octets.length)

/-- The text of the duration, in which days are counted as hours. -/
def literal (packed : PackedDuration) (decimals : Nat) : String :=
  (if packed.negative then "-" else "") ++
    clockText (24 * packed.days + packed.hours) packed.minutes packed.seconds ++
    fractionText packed.microseconds decimals

/-- The text of the duration that octets spell. -/
def text (decimals : Nat) : Octets → Except ValueError String
  | [] => .ok (zeroWithFraction zeroTime decimals)
  | octets => do return (← ofOctets octets).literal decimals

end PackedDuration

end ResultSet
