import ResultSet.Proofs.Calendar.Shift

namespace ResultSet

/-!
# Date-times on one line

The days of the calendar are numbered without gaps, and so are the seconds of all its
days.  A date-time is known by the number of its second and its fraction.  Moving it by
so many seconds adds to this number, and it is possible whenever the calendar has a
date-time with the sum.
-/

/-! ## Numbers of days -/

/-- The number of days of the first months of a year. -/
def daysInMonths (year : Int) : Nat → Nat
  | 0 => 0
  | count + 1 => daysInMonths year count + daysInMonth year (count + 1)

/-- The number of the last day before a year; the first day of year one has number one. -/
def daysBeforeYear (year : Int) : Int :=
  365 * (year - 1) + (year - 1) / 4 - (year - 1) / 100 + (year - 1) / 400

theorem daysInMonths_mono
    (year : Int)
    {fewer more : Nat}
    (most : fewer ≤ more) :
    daysInMonths year fewer ≤ daysInMonths year more := by
  induction most with
  | refl => exact Nat.le_refl _
  | step _ inductionHypothesis => exact Nat.le_add_right_of_le inductionHypothesis

/-- The first months of a year up to a month, and the days of that month. -/
theorem daysInMonths_eq_add
    (year : Int)
    {month : Nat}
    (firstMonth : 1 ≤ month) :
    daysInMonths year month = daysInMonths year (month - 1) + daysInMonth year month := by
  obtain ⟨before, rfl⟩ := Nat.exists_eq_add_of_le' firstMonth
  rfl

/-- The days of a year lie between the last day before it and the first day behind it. -/
theorem daysBeforeYear_succ (year : Int) :
    daysBeforeYear (year + 1) = daysBeforeYear year + daysInMonths year 12 := by
  by_cases isLeap : isLeapYear year = true
  · have days : daysInMonths year 12 = 366 := by
      simp only [daysInMonths, daysInMonth, isLeap]
      decide
    simp only [isLeapYear, Bool.and_eq_true, Bool.or_eq_true, beq_iff_eq, bne_iff_ne] at isLeap
    simp only [daysBeforeYear, days]
    omega
  · have days : daysInMonths year 12 = 365 := by
      simp only [daysInMonths, daysInMonth, isLeap]
      decide
    simp only [isLeapYear, Bool.and_eq_true, Bool.or_eq_true, beq_iff_eq, bne_iff_ne] at isLeap
    simp only [daysBeforeYear, days]
    omega

theorem daysBeforeYear_mono
    {earlier later : Int}
    (inOrder : earlier ≤ later) :
    daysBeforeYear earlier ≤ daysBeforeYear later := by
  simp only [daysBeforeYear]
  omega

namespace Date

/-- The number of a day among all days of the calendar. -/
def dayNumber (date : Date) : Int :=
  daysBeforeYear date.year + daysInMonths date.year (date.month - 1) + date.day

example : dayNumber ⟨1970, 1, 1, by decide⟩ = 719163 := by decide

variable {date other : Date}

/-- A day lies behind the months before its own and not behind its own month. -/
theorem dayNumber_bounds (date : Date) :
    daysBeforeYear date.year + daysInMonths date.year (date.month - 1) < date.dayNumber ∧
      date.dayNumber ≤ daysBeforeYear date.year + daysInMonths date.year date.month := by
  obtain ⟨-, ⟨firstMonth, -⟩, firstDay, lastDay⟩ := date.onCalendar
  rw [dayNumber, daysInMonths_eq_add date.year firstMonth]
  omega

/-- A day lies in its year. -/
theorem dayNumber_bounds_of_year (date : Date) :
    daysBeforeYear date.year < date.dayNumber ∧
      date.dayNumber ≤ daysBeforeYear (date.year + 1) := by
  have bounds := date.dayNumber_bounds
  have wholeYear := daysInMonths_mono date.year date.onCalendar.2.1.2
  rw [daysBeforeYear_succ]
  omega

theorem dayNumber_lt_of_year_lt (before : date.year < other.year) :
    date.dayNumber < other.dayNumber := by
  have inYear := date.dayNumber_bounds_of_year
  have inOther := other.dayNumber_bounds_of_year
  have inOrder : daysBeforeYear (date.year + 1) ≤ daysBeforeYear other.year :=
    daysBeforeYear_mono before
  omega

theorem dayNumber_lt_of_month_lt
    (sameYear : date.year = other.year)
    (before : date.month < other.month) :
    date.dayNumber < other.dayNumber := by
  have inMonth := date.dayNumber_bounds
  have inOther := other.dayNumber_bounds
  have inOrder : daysInMonths other.year date.month ≤ daysInMonths other.year (other.month - 1) :=
    daysInMonths_mono other.year (by omega)
  rw [sameYear] at inMonth
  omega

/-- No two days have one number. -/
theorem eq_of_dayNumber_eq (same : date.dayNumber = other.dayNumber) : date = other := by
  have sameYear : date.year = other.year := by
    rcases Int.lt_trichotomy date.year other.year with before | sameYear | behind
    · exact absurd same (Int.ne_of_lt (dayNumber_lt_of_year_lt before))
    · exact sameYear
    · exact absurd same.symm (Int.ne_of_lt (dayNumber_lt_of_year_lt behind))
  have sameMonth : date.month = other.month := by
    rcases Nat.lt_trichotomy date.month other.month with before | sameMonth | behind
    · exact absurd same (Int.ne_of_lt (dayNumber_lt_of_month_lt sameYear before))
    · exact sameMonth
    · exact absurd same.symm (Int.ne_of_lt (dayNumber_lt_of_month_lt sameYear.symm behind))
  have sameDay : date.day = other.day := by
    rw [dayNumber, dayNumber, sameYear, sameMonth] at same
    omega
  rw [← Option.some_inj, ← ofParts?_parts date, ← ofParts?_parts other, sameYear, sameMonth,
    sameDay]

/-- The day behind has the next number. -/
theorem dayNumber_of_next? (follows : date.next? = some other) :
    other.dayNumber = date.dayNumber + 1 := by
  obtain ⟨-, ⟨firstMonth, lastMonth⟩, firstDay, lastDay⟩ := date.onCalendar
  have inMonth := daysInMonths_eq_add date.year firstMonth
  rw [next?] at follows
  split at follows
  · obtain ⟨sameYear, sameMonth, dayBehind⟩ := parts_of_ofParts? follows
    rw [dayNumber, dayNumber, sameYear, sameMonth, dayBehind]
    omega
  · split at follows
    · obtain ⟨sameYear, monthBehind, firstOfMonth⟩ := parts_of_ofParts? follows
      rw [dayNumber, dayNumber, sameYear, monthBehind, firstOfMonth, Nat.add_sub_cancel]
      omega
    · have isDecember : date.month = 12 := by omega
      have isLastDay : date.day = daysInMonth date.year date.month := by omega
      rw [← isLastDay, isDecember] at inMonth
      obtain ⟨yearBehind, isJanuary, firstOfYear⟩ := parts_of_ofParts? follows
      rw [dayNumber, dayNumber, yearBehind, isJanuary, firstOfYear, isDecember,
        daysBeforeYear_succ, inMonth, Nat.sub_self, daysInMonths]
      omega

/-- The day before has the number before. -/
theorem dayNumber_of_previous? (precedes : date.previous? = some other) :
    other.dayNumber = date.dayNumber - 1 := by
  have follows := dayNumber_of_next? (next?_of_previous? precedes)
  omega

/-- Where a day has a lower number, there is a day before. -/
theorem exists_previous?_of_dayNumber_lt (before : other.dayNumber < date.dayNumber) :
    ∃ earlier, date.previous? = some earlier := by
  refine exists_previous? fun ⟨isFirst, isJanuary, isFirstDay⟩ => ?_
  have inYear := other.dayNumber_bounds_of_year
  have inOrder : daysBeforeYear date.year ≤ daysBeforeYear other.year :=
    daysBeforeYear_mono (isFirst ▸ other.onCalendar.1.1)
  have isLeast : date.dayNumber = daysBeforeYear date.year + 1 := by
    rw [dayNumber, isJanuary, isFirstDay, Nat.sub_self, daysInMonths]
    omega
  omega

/-- Where a day has a higher number, there is a day behind. -/
theorem exists_next?_of_dayNumber_lt (behind : date.dayNumber < other.dayNumber) :
    ∃ later, date.next? = some later := by
  refine exists_next? fun ⟨isLast, isDecember, isLastDay⟩ => ?_
  have inYear := other.dayNumber_bounds_of_year
  have inOrder : daysBeforeYear (other.year + 1) ≤ daysBeforeYear (date.year + 1) :=
    daysBeforeYear_mono (Int.add_le_add_right (isLast ▸ other.onCalendar.1.2) 1)
  have isGreatest : date.dayNumber = daysBeforeYear (date.year + 1) := by
    rw [daysBeforeYear_succ, dayNumber, isDecember, isLastDay,
      daysInMonths_eq_add date.year (by decide : 1 ≤ 12), daysInMonth_december]
    omega
  omega

end Date

/-! ## Numbers of seconds -/

namespace TimeOfDay

/-- A time of day is known by its second and its fraction. -/
theorem eq_of_secondOfDay_eq
    {time other : TimeOfDay}
    (sameSecond : time.secondOfDay = other.secondOfDay)
    (sameFraction : time.nanosecond = other.nanosecond) :
    time = other := by
  rw [← time.atSecondOfDay_secondOfDay 0, ← other.atSecondOfDay_secondOfDay 0]
  simp only [atSecondOfDay, sameSecond, sameFraction]

end TimeOfDay

namespace DateTime

/-- The number of a second among those of all days of the calendar. -/
def secondCount (dateTime : DateTime) : Int :=
  secondsPerDay * dateTime.date.dayNumber + dateTime.time.secondOfDay

/-- Whether a date-time is so many seconds behind another one and has the same fraction. -/
structure IsMovedBy (seconds : Int) (dateTime moved : DateTime) : Prop where
  secondCount : moved.secondCount = dateTime.secondCount + seconds
  nanosecond : moved.time.nanosecond = dateTime.time.nanosecond

variable {dateTime moved other : DateTime} {seconds : Int}

/-- No two date-times are equally far behind another one. -/
theorem IsMovedBy.unique
    (isMoved : dateTime.IsMovedBy seconds moved)
    (isOther : dateTime.IsMovedBy seconds other) :
    moved = other := by
  have sameCount := isMoved.secondCount.trans isOther.secondCount.symm
  have sameFraction := isMoved.nanosecond.trans isOther.nanosecond.symm
  have inDay := moved.time.secondOfDay_lt
  have inOtherDay := other.time.secondOfDay_lt
  simp only [DateTime.secondCount, secondsPerDay] at sameCount inDay inOtherDay
  have sameDate : moved.date = other.date := Date.eq_of_dayNumber_eq (by omega)
  rw [sameDate] at sameCount
  have sameTime : moved.time = other.time :=
    TimeOfDay.eq_of_secondOfDay_eq (by omega) sameFraction
  rcases moved with ⟨date, time⟩
  cases sameDate
  cases sameTime
  rfl

/-- A move by less than a day adds its seconds to the number of the second. -/
theorem isMovedBy_of_moved?
    (withinDay : -86400 < seconds ∧ seconds < 86400)
    (moves : dateTime.moved? seconds = some moved) :
    dateTime.IsMovedBy seconds moved where
  secondCount := by
    obtain ⟨shown, withinShown, clock, onDay⟩ := (moved?_eq_some_iff withinDay).mp moves
    rw [DateTime.secondCount, DateTime.secondCount, clock,
      TimeOfDay.secondOfDay_atSecondOfDay _ withinShown]
    simp only [secondsPerDay] at onDay ⊢
    rcases onDay with ⟨total, precedes⟩ | ⟨total, sameDay⟩ | ⟨total, follows⟩
    · rw [Date.dayNumber_of_previous? precedes]
      omega
    · rw [sameDay]
      omega
    · rw [Date.dayNumber_of_next? follows]
      omega
  nanosecond := nanosecond_of_moved? withinDay moves

/-- A move is possible whenever the calendar has a date-time so many seconds behind. -/
theorem exists_moved?_of_isMovedBy (isMoved : dateTime.IsMovedBy seconds moved) :
    ∃ result, dateTime.moved? seconds = some result := by
  have count := isMoved.secondCount
  have inDay := moved.time.secondOfDay_lt
  have day : secondsPerDay = 86400 := rfl
  simp only [DateTime.secondCount, day] at count inDay
  rw [moved?]
  split
  · have before : moved.date.dayNumber < dateTime.date.dayNumber := by omega
    obtain ⟨earlier, precedes⟩ := Date.exists_previous?_of_dayNumber_lt before
    rw [precedes]
    exact ⟨_, rfl⟩
  · split
    · exact ⟨_, rfl⟩
    · have behind : dateTime.date.dayNumber < moved.date.dayNumber := by omega
      obtain ⟨later, follows⟩ := Date.exists_next?_of_dayNumber_lt behind
      rw [follows]
      exact ⟨_, rfl⟩

/-- The move by less than a day leads to the date-time so many seconds behind, if there is one. -/
theorem moved?_eq_some_iff_isMovedBy (withinDay : -86400 < seconds ∧ seconds < 86400) :
    dateTime.moved? seconds = some moved ↔ dateTime.IsMovedBy seconds moved := by
  refine ⟨isMovedBy_of_moved? withinDay, fun isMoved => ?_⟩
  obtain ⟨result, moves⟩ := exists_moved?_of_isMovedBy isMoved
  rw [moves, (isMovedBy_of_moved? withinDay moves).unique isMoved]

end DateTime

/-! ## Zones -/

/--
What a zone makes of a local date-time: the one that is earlier by the offset of the
zone, and the local one itself when the calendar has none that is earlier by it.
-/
inductive ZoneOffset.Takes (offset : ZoneOffset) (dateTime : DateTime) : DateTime → Prop where
  | moved
      {universal : DateTime}
      (isMoved : dateTime.IsMovedBy (-offset.seconds) universal) :
      Takes offset dateTime universal
  | kept
      (offCalendar : ∀ universal, ¬ dateTime.IsMovedBy (-offset.seconds) universal) :
      Takes offset dateTime dateTime

theorem ZoneOffset.takes_localToUniversal
    (offset : ZoneOffset)
    (dateTime : DateTime) :
    offset.Takes dateTime (dateTime.localToUniversal offset) := by
  have withinDay := offset.withinDay_neg
  rw [DateTime.localToUniversal]
  cases moves : dateTime.moved? (-offset.seconds) with
  | some universal =>
      exact .moved ((DateTime.moved?_eq_some_iff_isMovedBy withinDay).mp moves)
  | none =>
      refine .kept fun universal isMoved => ?_
      rw [← DateTime.moved?_eq_some_iff_isMovedBy withinDay, moves] at isMoved
      cases isMoved

/-- A date-time that is earlier by the offset is the one that a zone leads to. -/
theorem ZoneOffset.Takes.eq_of_isMovedBy
    {offset : ZoneOffset}
    {dateTime result universal : DateTime}
    (takes : offset.Takes dateTime result)
    (isMoved : dateTime.IsMovedBy (-offset.seconds) universal) :
    result = universal := by
  cases takes with
  | moved isResult => exact isResult.unique isMoved
  | kept offCalendar => exact absurd isMoved (offCalendar universal)

end ResultSet
