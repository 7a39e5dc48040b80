import ResultSet.Calendar.Packed
import ResultSet.Proofs.Calendar.Shift

namespace ResultSet

/-!
# Date-times as packed parts

The parts of a packed clock are those that its octets spell, and zero where the octets of
their group are not there in full.

A date-time of a year from zero on is taken apart into the parts that are packed
or written as a literal.  The parts name the date-time again, as far as whole
microseconds go, unless it is in a leap second.
-/

namespace PackedClock

/-- The microseconds are those of their group of octets, and zero when it is not sent. -/
theorem fraction_eq (octets : Octets) :
    fraction octets =
      if 4 ≤ octets.length then Octets.littleEndian (octets.take 4) else 0 := by
  match octets with
  | first :: second :: third :: fourth :: behind => simp [fraction]
  | [] | [_] | [_, _] | [_, _, _] => rfl

/-- The octets of the clock are counted from the first one behind the first group. -/
theorem ofOctets_eq (octets : Octets) :
    ofOctets octets =
      { hour := if 3 ≤ octets.length then (octets.getD 0 0).toNat else 0
        minute := if 3 ≤ octets.length then (octets.getD 1 0).toNat else 0
        second := if 3 ≤ octets.length then (octets.getD 2 0).toNat else 0
        microseconds :=
          if 7 ≤ octets.length then Octets.littleEndian ((octets.drop 3).take 4) else 0 } := by
  match octets with
  | hour :: minute :: second :: behind =>
      rw [ofOctets, fraction_eq]
      simp
  | [] | [_] | [_, _] => rfl

end PackedClock

theorem daysInMonth_le (year : Int) (month : Nat) : daysInMonth year month ≤ 31 := by
  rw [daysInMonth.eq_def]
  split
  · split <;> decide
  all_goals decide

/-- The parts of a day name the day: no month is zero, so that they are not all zeros. -/
theorem dateOfParts_parts (date : Date) :
    dateOfParts date.year date.month date.day = .ok (some date) := by
  have firstMonth : 1 ≤ date.month := date.onCalendar.2.1.1
  rw [dateOfParts, if_neg (by omega), date.ofParts?_parts]

/-- A day names the parts that it was named by. -/
theorem parts_of_dateOfParts
    {year : Int}
    {month day : Nat}
    {date : Date}
    (named : dateOfParts year month day = .ok (some date)) :
    date.year = year ∧ date.month = month ∧ date.day = day := by
  rw [dateOfParts] at named
  split at named
  · cases named
  · split at named
    · rename_i isDate
      cases named
      exact Date.parts_of_ofParts? isDate
    · cases named

/-- No day is named by zeros alone. -/
theorem zeros_of_dateOfParts
    {year : Int}
    {month day : Nat}
    (named : dateOfParts year month day = .ok none) :
    year = 0 ∧ month = 0 ∧ day = 0 := by
  rw [dateOfParts] at named
  split at named
  · assumption
  · split at named <;> cases named

/-- Parts that name the same day, or no day, are the same. -/
theorem dateOfParts_inj
    {year otherYear : Int}
    {month day otherMonth otherDay : Nat}
    {result : Option Date}
    (named : dateOfParts year month day = .ok result)
    (otherNamed : dateOfParts otherYear otherMonth otherDay = .ok result) :
    year = otherYear ∧ month = otherMonth ∧ day = otherDay := by
  cases result with
  | none =>
      obtain ⟨rfl, rfl, rfl⟩ := zeros_of_dateOfParts named
      obtain ⟨rfl, rfl, rfl⟩ := zeros_of_dateOfParts otherNamed
      exact ⟨rfl, rfl, rfl⟩
  | some date =>
      obtain ⟨rfl, rfl, rfl⟩ := parts_of_dateOfParts named
      exact parts_of_dateOfParts otherNamed

/-- The parts that name a time of day are its own; only second 59 has a leap second behind it. -/
theorem TimeOfDay.ofMicroseconds?_eq_some_iff
    {hour minute second microseconds : Nat}
    {time : TimeOfDay} :
    ofMicroseconds? hour minute second microseconds = some time ↔
      (second = 59 ∨ 1000 * microseconds < nanosecondsPerSecond) ∧
        time.hour = hour ∧
        time.minute = minute ∧
        time.second = second ∧
        time.nanosecond = 1000 * microseconds := by
  rw [ofMicroseconds?, ofParts?]
  constructor
  · intro named
    split at named
    · cases named
    · split at named
      · cases named
        exact ⟨by omega, rfl, rfl, rfl, rfl⟩
      · cases named
  · rintro ⟨allowed, rfl, rfl, rfl, sameFraction⟩
    rw [← sameFraction] at allowed ⊢
    rw [if_neg (by omega)]
    exact dif_pos time.onClock

/-- Larger numbers are no time of any day. -/
theorem TimeOfDay.ofMicroseconds?_eq_none
    {hour minute second : Nat}
    (notInDay : ¬ (hour < 24 ∧ minute < 60 ∧ second < 60))
    (microseconds : Nat) :
    ofMicroseconds? hour minute second microseconds = none := by
  rw [Option.eq_none_iff_forall_ne_some]
  intro time named
  obtain ⟨-, rfl, rfl, rfl, -⟩ := ofMicroseconds?_eq_some_iff.mp named
  obtain ⟨hourSmall, minuteSmall, secondSmall, -⟩ := time.onClock
  exact notInDay ⟨hourSmall, minuteSmall, secondSmall⟩

/-- Whether a time of day is named by its parts: a leap second is named in second 59 only. -/
def TimeOfDay.IsNamed (time : TimeOfDay) : Prop :=
  time.second = 59 ∨ time.nanosecond < nanosecondsPerSecond

instance (time : TimeOfDay) : Decidable time.IsNamed := by
  unfold TimeOfDay.IsNamed
  infer_instance

/-- The parts of a time of day name it as far as whole microseconds go, or they name none. -/
theorem TimeOfDay.ofMicroseconds?_parts (time : TimeOfDay) :
    ofMicroseconds? time.hour time.minute time.second time.microseconds =
      if time.IsNamed then some (time.cut microsecondDigits) else none := by
  -- A second is a whole number of microseconds, so that cutting does not leave a leap second.
  have sameSide :
      1000 * time.microseconds < nanosecondsPerSecond ↔
        time.nanosecond < nanosecondsPerSecond := by
    simp only [TimeOfDay.microseconds, nanosecondsPerSecond]
    omega
  have fraction :
      (time.cut microsecondDigits).nanosecond = 1000 * time.microseconds :=
    Nat.mul_comm _ _
  split
  · rename_i isNamed
    rw [ofMicroseconds?_eq_some_iff, sameSide]
    exact ⟨isNamed, rfl, rfl, rfl, fraction⟩
  · rename_i notNamed
    rw [Option.eq_none_iff_forall_ne_some]
    intro other named
    rw [ofMicroseconds?_eq_some_iff, sameSide] at named
    exact notNamed named.1

namespace DateTime

/-- The parts of a date-time, its fraction in whole microseconds. -/
def packed (dateTime : DateTime) : PackedDateTime where
  year := dateTime.date.year.toNat
  month := dateTime.date.month
  day := dateTime.date.day
  hour := dateTime.time.hour
  minute := dateTime.time.minute
  second := dateTime.time.second
  microseconds := dateTime.time.microseconds

variable {dateTime : DateTime}

theorem microseconds_packed_lt (noLeapSecond : ¬ dateTime.InLeapSecond) :
    dateTime.packed.microseconds < 10 ^ microsecondDigits := by
  simp only [InLeapSecond, nanosecondsPerSecond] at noLeapSecond
  simp only [packed, TimeOfDay.microseconds, microsecondDigits]
  omega

theorem date_packed (fromYearZero : 0 ≤ dateTime.date.year) :
    dateTime.packed.date = .ok (some dateTime.date) := by
  have sameYear : (dateTime.packed.year : Int) = dateTime.date.year :=
    Int.toNat_of_nonneg fromYearZero
  rw [PackedDateTime.date, sameYear]
  exact dateOfParts_parts dateTime.date

theorem ofMicroseconds?_packed (noLeapSecond : ¬ dateTime.InLeapSecond) :
    TimeOfDay.ofMicroseconds? dateTime.packed.hour dateTime.packed.minute
        dateTime.packed.second dateTime.packed.microseconds =
      some (dateTime.time.cut microsecondDigits) := by
  have isNamed : dateTime.time.IsNamed := .inr (Nat.not_le.mp noLeapSecond)
  exact (TimeOfDay.ofMicroseconds?_parts dateTime.time).trans (if_pos isNamed)

/-- The parts of a date-time name it, but for the digits below a microsecond. -/
theorem dateTime_packed
    (fromYearZero : 0 ≤ dateTime.date.year)
    (noLeapSecond : ¬ dateTime.InLeapSecond) :
    dateTime.packed.dateTime = .ok (some (dateTime.cut microsecondDigits)) := by
  simp only [PackedDateTime.dateTime, date_packed fromYearZero, bind, Except.bind,
    ofMicroseconds?_packed noLeapSecond]
  rfl

end DateTime

end ResultSet
