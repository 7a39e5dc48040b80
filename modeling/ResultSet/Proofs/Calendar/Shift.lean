import ResultSet.Calendar.DateTime

namespace ResultSet

/-!
# Moving between zones

A zone moves a date-time by less than a day.  The move is undone by the move the
other way, over the ends of days, months and years alike, and it leaves the
fraction of the second as it is.  So reading local time in a zone gives back the
universal time whose local time was written there.
-/

/-! ## Neighbouring days -/

namespace Date

/-- The parts of a day name the day. -/
@[simp]
theorem ofParts?_parts (date : Date) :
    ofParts? date.year date.month date.day = some date :=
  dif_pos date.onCalendar

theorem parts_of_ofParts?
    {year : Int}
    {month day : Nat}
    {date : Date}
    (named : ofParts? year month day = some date) :
    date.year = year ∧ date.month = month ∧ date.day = day := by
  rw [ofParts?] at named
  split at named
  · cases named
    exact ⟨rfl, rfl, rfl⟩
  · cases named

theorem daysInMonth_december (year : Int) : daysInMonth year 12 = 31 :=
  rfl

theorem next?_of_previous?
    {date earlier : Date}
    (precedes : date.previous? = some earlier) :
    earlier.next? = some date := by
  obtain ⟨-, ⟨firstMonth, lastMonth⟩, firstDay, lastDay⟩ := date.onCalendar
  rw [← ofParts?_parts date]
  rw [previous?] at precedes
  split at precedes
  · obtain ⟨sameYear, sameMonth, dayBefore⟩ := parts_of_ofParts? precedes
    rw [next?, sameYear, sameMonth, dayBefore, if_pos (by omega), Nat.sub_add_cancel firstDay]
  · have isFirst : date.day = 1 := by omega
    split at precedes
    · obtain ⟨sameYear, monthBefore, lastOfMonth⟩ := parts_of_ofParts? precedes
      rw [next?, sameYear, monthBefore, lastOfMonth, if_neg (Nat.lt_irrefl _),
        if_pos (by omega), Nat.sub_add_cancel firstMonth, isFirst]
    · have isJanuary : date.month = 1 := by omega
      obtain ⟨yearBefore, isDecember, lastOfYear⟩ := parts_of_ofParts? precedes
      rw [next?, yearBefore, isDecember, lastOfYear, daysInMonth_december,
        if_neg (Nat.lt_irrefl _), if_neg (Nat.lt_irrefl _), Int.sub_add_cancel, isJanuary,
        isFirst]

theorem previous?_of_next?
    {date later : Date}
    (follows : date.next? = some later) :
    later.previous? = some date := by
  obtain ⟨-, ⟨firstMonth, lastMonth⟩, firstDay, lastDay⟩ := date.onCalendar
  rw [← ofParts?_parts date]
  rw [next?] at follows
  split at follows
  · obtain ⟨sameYear, sameMonth, dayBehind⟩ := parts_of_ofParts? follows
    rw [previous?, sameYear, sameMonth, dayBehind, if_pos (by omega), Nat.add_sub_cancel]
  · have isLast : date.day = daysInMonth date.year date.month := by omega
    split at follows
    · obtain ⟨sameYear, monthBehind, firstOfMonth⟩ := parts_of_ofParts? follows
      rw [previous?, sameYear, monthBehind, firstOfMonth, if_neg (Nat.lt_irrefl _),
        if_pos (by omega), Nat.add_sub_cancel, isLast]
    · have isDecember : date.month = 12 := by omega
      obtain ⟨yearBehind, isJanuary, firstOfYear⟩ := parts_of_ofParts? follows
      rw [isDecember, daysInMonth_december] at isLast
      rw [previous?, yearBehind, isJanuary, firstOfYear, if_neg (Nat.lt_irrefl _),
        if_neg (Nat.lt_irrefl _), Int.add_sub_cancel, isDecember, isLast]

theorem daysInMonth_pos
    (year : Int)
    (month : Nat) :
    0 < daysInMonth year month := by
  rw [daysInMonth.eq_def]
  split
  · split <;> decide
  all_goals decide

/-- Only the last day of the calendar has no day behind it. -/
theorem exists_next?
    {date : Date}
    (notLast : ¬ (date.year = lastYear ∧ date.month = 12 ∧ date.day = 31)) :
    ∃ later, date.next? = some later := by
  obtain ⟨⟨inFirst, inLast⟩, ⟨firstMonth, lastMonth⟩, firstDay, lastDay⟩ := date.onCalendar
  have someDay := daysInMonth_pos date.year (date.month + 1)
  rw [next?]
  split
  · exact ⟨_, dif_pos ⟨⟨inFirst, inLast⟩, ⟨firstMonth, lastMonth⟩, by omega, by omega⟩⟩
  · split
    · exact ⟨_, dif_pos ⟨⟨inFirst, inLast⟩, ⟨by omega, by omega⟩, Nat.le_refl 1, someDay⟩⟩
    · have isDecember : date.month = 12 := by omega
      have isLastDay : date.day = daysInMonth date.year date.month := by omega
      rw [isDecember, daysInMonth_december] at isLastDay
      have notLastYear : date.year ≠ lastYear := fun isLast =>
        notLast ⟨isLast, isDecember, isLastDay⟩
      exact ⟨_, dif_pos ⟨⟨by omega, by omega⟩, by decide, Nat.le_refl 1, daysInMonth_pos _ 1⟩⟩

/-- Only the first day of the calendar has no day before it. -/
theorem exists_previous?
    {date : Date}
    (notFirst : ¬ (date.year = firstYear ∧ date.month = 1 ∧ date.day = 1)) :
    ∃ earlier, date.previous? = some earlier := by
  obtain ⟨⟨inFirst, inLast⟩, ⟨firstMonth, lastMonth⟩, firstDay, lastDay⟩ := date.onCalendar
  have someDay := daysInMonth_pos date.year (date.month - 1)
  rw [previous?]
  split
  · exact ⟨_, dif_pos ⟨⟨inFirst, inLast⟩, ⟨firstMonth, lastMonth⟩, by omega, by omega⟩⟩
  · split
    · exact ⟨_, dif_pos ⟨⟨inFirst, inLast⟩, ⟨by omega, by omega⟩, someDay, Nat.le_refl _⟩⟩
    · have notFirstYear : date.year ≠ firstYear := fun isFirst =>
        notFirst ⟨isFirst, by omega, by omega⟩
      exact ⟨_, dif_pos ⟨⟨by omega, by omega⟩, by decide, by decide, Nat.le_refl 31⟩⟩

end Date

/-! ## The clock -/

namespace TimeOfDay

theorem secondOfDay_lt (time : TimeOfDay) : time.secondOfDay < secondsPerDay := by
  obtain ⟨hour, minute, second, -⟩ := time.onClock
  simp only [secondOfDay, secondsPerDay]
  omega

/-- The clock shows the second that it is put to. -/
theorem secondOfDay_atSecondOfDay
    (time : TimeOfDay)
    {seconds : Nat}
    (withinDay : seconds < secondsPerDay) :
    (time.atSecondOfDay seconds).secondOfDay = seconds := by
  simp only [secondsPerDay] at withinDay
  simp only [secondOfDay, atSecondOfDay]
  omega

/-- Putting the clock to what it shows changes nothing, whatever it showed in between. -/
theorem atSecondOfDay_secondOfDay
    (time : TimeOfDay)
    (between : Nat) :
    (time.atSecondOfDay between).atSecondOfDay time.secondOfDay = time := by
  obtain ⟨hourBound, minuteBound, secondBound, -⟩ := time.onClock
  have hour : time.secondOfDay / 3600 % 24 = time.hour := by
    simp only [secondOfDay]
    omega
  have minute : time.secondOfDay / 60 % 60 = time.minute := by
    simp only [secondOfDay]
    omega
  have second : time.secondOfDay % 60 = time.second := by
    simp only [secondOfDay]
    omega
  simp only [atSecondOfDay, hour, minute, second]

/-- The time of day with its fraction cut after so many digits. -/
def cut
    (digits : Nat)
    (time : TimeOfDay) :
    TimeOfDay where
  hour := time.hour
  minute := time.minute
  second := time.second
  nanosecond := time.nanosecond / 10 ^ (9 - digits) * 10 ^ (9 - digits)
  onClock :=
    ⟨time.onClock.1, time.onClock.2.1, time.onClock.2.2.1,
      Nat.lt_of_le_of_lt (Nat.div_mul_le_self _ _) time.onClock.2.2.2⟩

/-- Whether a change of the time of day is one of its fraction alone, whatever the clock shows. -/
structure KeepsClock (change : TimeOfDay → TimeOfDay) : Prop where
  secondOfDay : ∀ time, (change time).secondOfDay = time.secondOfDay
  atSecondOfDay :
    ∀ time seconds, (change time).atSecondOfDay seconds = change (time.atSecondOfDay seconds)

theorem keepsClock_cut (digits : Nat) : KeepsClock (cut digits) :=
  ⟨fun _ => rfl, fun _ _ => rfl⟩

end TimeOfDay

/-! ## Date-times -/

/-- The way back from a zone is less than a day too. -/
theorem ZoneOffset.withinDay_neg (offset : ZoneOffset) :
    -86400 < -offset.seconds ∧ -offset.seconds < 86400 := by
  obtain ⟨lower, upper⟩ := offset.withinDay
  omega

namespace DateTime

/-- The date-time with the fraction of its second cut after so many digits. -/
def cut
    (digits : Nat)
    (dateTime : DateTime) :
    DateTime :=
  ⟨dateTime.date, dateTime.time.cut digits⟩

/-- The date-time with its time of day changed. -/
def withTime
    (change : TimeOfDay → TimeOfDay)
    (dateTime : DateTime) :
    DateTime :=
  ⟨dateTime.date, change dateTime.time⟩

/-- A fraction that is cut already is not cut any more. -/
@[simp]
theorem cut_cut
    (digits : Nat)
    (dateTime : DateTime) :
    (dateTime.cut digits).cut digits = dateTime.cut digits := by
  have places : 0 < 10 ^ (9 - digits) := Nat.pow_pos (by decide)
  simp only [cut, TimeOfDay.cut, Nat.mul_div_cancel _ places]

/-- A date-time is in a leap second when its fraction is a second or more. -/
def InLeapSecond (dateTime : DateTime) : Prop :=
  nanosecondsPerSecond ≤ dateTime.time.nanosecond

instance (dateTime : DateTime) : Decidable dateTime.InLeapSecond := by
  unfold InLeapSecond
  infer_instance

/-- The local time of a universal time, if the calendar has it. -/
def localTime?
    (offset : Option ZoneOffset)
    (dateTime : DateTime) :
    Option DateTime :=
  match offset with
  | none => some dateTime
  | some offset => dateTime.moved? offset.seconds

variable {dateTime moved : DateTime} {offset : Option ZoneOffset}

/--
A move by less than a day puts the clock to some second of the same day or of a
neighbouring one.
-/
theorem moved?_eq_some_iff
    {seconds : Int}
    (withinDay : -86400 < seconds ∧ seconds < 86400) :
    dateTime.moved? seconds = some moved ↔
      ∃ shown : Nat,
        shown < secondsPerDay ∧
          moved.time = dateTime.time.atSecondOfDay shown ∧
          (dateTime.time.secondOfDay + seconds = shown - secondsPerDay ∧
              dateTime.date.previous? = some moved.date ∨
            dateTime.time.secondOfDay + seconds = shown ∧ moved.date = dateTime.date ∨
            dateTime.time.secondOfDay + seconds = shown + secondsPerDay ∧
              dateTime.date.next? = some moved.date) := by
  have before := dateTime.time.secondOfDay_lt
  have day : secondsPerDay = 86400 := rfl
  rcases moved with ⟨movedDate, movedTime⟩
  simp only [moved?]
  constructor
  · intro moves
    generalize isShown :
      ((dateTime.time.secondOfDay + seconds) % secondsPerDay).toNat = shown at moves
    rw [day] at isShown before
    refine ⟨shown, by omega, ?_⟩
    split at moves
    · obtain ⟨earlier, precedes, same⟩ := Option.map_eq_some_iff.mp moves
      cases same
      exact ⟨rfl, .inl ⟨by omega, precedes⟩⟩
    · split at moves
      · cases moves
        exact ⟨rfl, .inr (.inl ⟨by omega, rfl⟩)⟩
      · obtain ⟨later, follows, same⟩ := Option.map_eq_some_iff.mp moves
        cases same
        exact ⟨rfl, .inr (.inr ⟨by omega, follows⟩)⟩
  · rintro ⟨shown, withinShown, rfl, onDay⟩
    have clock :
        ((dateTime.time.secondOfDay + seconds) % secondsPerDay).toNat = shown := by
      rw [day] at withinShown onDay ⊢
      omega
    rw [clock]
    rcases onDay with ⟨total, precedes⟩ | ⟨total, rfl⟩ | ⟨total, follows⟩
    · rw [if_pos (by omega), precedes, Option.map_some]
    · rw [if_neg (by omega), if_pos (by omega)]
    · rw [if_neg (by omega), if_neg (by omega), follows, Option.map_some]

/-- A move by less than a day is undone by the move the other way. -/
theorem moved?_neg
    {seconds : Int}
    (withinDay : -86400 < seconds ∧ seconds < 86400)
    (moves : dateTime.moved? seconds = some moved) :
    moved.moved? (-seconds) = some dateTime := by
  obtain ⟨shown, withinShown, clock, onDay⟩ := (moved?_eq_some_iff withinDay).mp moves
  have shows : moved.time.secondOfDay = shown := by
    rw [clock, TimeOfDay.secondOfDay_atSecondOfDay _ withinShown]
  have restored : dateTime.time = moved.time.atSecondOfDay dateTime.time.secondOfDay := by
    rw [clock, TimeOfDay.atSecondOfDay_secondOfDay]
  have back : -86400 < -seconds ∧ -seconds < 86400 := by omega
  refine (moved?_eq_some_iff back).mpr
    ⟨dateTime.time.secondOfDay, dateTime.time.secondOfDay_lt, restored, ?_⟩
  rw [shows]
  rcases onDay with ⟨total, precedes⟩ | ⟨total, sameDay⟩ | ⟨total, follows⟩
  · exact .inr (.inr ⟨by omega, Date.next?_of_previous? precedes⟩)
  · exact .inr (.inl ⟨by omega, sameDay.symm⟩)
  · exact .inl ⟨by omega, Date.previous?_of_next? follows⟩

/-- A move leaves the fraction of the second as it is. -/
theorem nanosecond_of_moved?
    {seconds : Int}
    (withinDay : -86400 < seconds ∧ seconds < 86400)
    (moves : dateTime.moved? seconds = some moved) :
    moved.time.nanosecond = dateTime.time.nanosecond := by
  obtain ⟨_, _, clock, _⟩ := (moved?_eq_some_iff withinDay).mp moves
  rw [clock, TimeOfDay.atSecondOfDay]

/-- A move leads to the second that is so many later, counted by the minute. -/
theorem second_of_moved?
    {seconds : Int}
    (withinDay : -86400 < seconds ∧ seconds < 86400)
    (moves : dateTime.moved? seconds = some moved) :
    (moved.time.second : Int) = (dateTime.time.second + seconds) % 60 := by
  obtain ⟨shown, -, clock, onDay⟩ := (moved?_eq_some_iff withinDay).mp moves
  have second : moved.time.second = shown % 60 := by
    rw [clock, TimeOfDay.atSecondOfDay]
  simp only [TimeOfDay.secondOfDay, secondsPerDay] at onDay
  omega

/-- Changing the fraction before a move is changing it afterwards. -/
theorem moved?_withTime
    {change : TimeOfDay → TimeOfDay}
    (keepsClock : TimeOfDay.KeepsClock change)
    (seconds : Int) :
    (dateTime.withTime change).moved? seconds =
      (dateTime.moved? seconds).map (withTime change) := by
  have sameSecond :
      (dateTime.withTime change).time.secondOfDay = dateTime.time.secondOfDay :=
    keepsClock.secondOfDay dateTime.time
  have sameDate : (dateTime.withTime change).date = dateTime.date := rfl
  have sameClock (shown : Nat) :
      (dateTime.withTime change).time.atSecondOfDay shown =
        change (dateTime.time.atSecondOfDay shown) :=
    keepsClock.atSecondOfDay dateTime.time shown
  rw [moved?, moved?, sameSecond, sameDate, sameClock]
  split
  · rw [Option.map_map]
    rfl
  · split
    · rfl
    · rw [Option.map_map]
      rfl

/-- Within the first and the last year of the calendar every move leads to a date-time. -/
theorem exists_moved?
    (inside : firstYear < dateTime.date.year ∧ dateTime.date.year < lastYear)
    (seconds : Int) :
    ∃ moved, dateTime.moved? seconds = some moved := by
  obtain ⟨earlier, precedes⟩ := Date.exists_previous? fun isFirst =>
    Int.ne_of_gt inside.1 isFirst.1
  obtain ⟨later, follows⟩ := Date.exists_next? fun isLast => Int.ne_of_lt inside.2 isLast.1
  rw [moved?, precedes, follows]
  split
  · exact ⟨_, rfl⟩
  · split
    · exact ⟨_, rfl⟩
    · exact ⟨_, rfl⟩

/-! ## Zones -/

/-- Cutting the fraction of a universal time cuts that of its local time. -/
theorem localTime?_cut (digits : Nat) :
    (dateTime.cut digits).localTime? offset =
      (dateTime.localTime? offset).map (cut digits) := by
  cases offset with
  | none => rfl
  | some offset => exact moved?_withTime (TimeOfDay.keepsClock_cut digits) offset.seconds

/-- Within the first and the last year every date-time is the local time of a universal one. -/
theorem localTime?_localToUniversal
    (inside : firstYear < dateTime.date.year ∧ dateTime.date.year < lastYear) :
    (dateTime.localToUniversal offset).localTime? offset = some dateTime := by
  cases offset with
  | none => rfl
  | some offset =>
      obtain ⟨universal, moves⟩ := exists_moved? inside (-offset.seconds)
      have back := moved?_neg offset.withinDay_neg moves
      rw [Int.neg_neg] at back
      rw [localToUniversal, moves, Option.getD_some, localTime?, back]

/-- Local time that is on the calendar is what is written in a zone. -/
theorem universalToLocal_of_localTime?
    (isLocal : dateTime.localTime? offset = some moved) :
    dateTime.universalToLocal offset = moved := by
  cases offset with
  | none => exact Option.some.inj isLocal
  | some offset =>
      rw [localTime?] at isLocal
      rw [universalToLocal, isLocal, Option.getD_some]

/-- Reading local time in its zone gives the universal time back. -/
theorem localToUniversal_of_localTime?
    (isLocal : dateTime.localTime? offset = some moved) :
    moved.localToUniversal offset = dateTime := by
  cases offset with
  | none => exact (Option.some.inj isLocal).symm
  | some offset =>
      rw [localToUniversal, moved?_neg offset.withinDay isLocal, Option.getD_some]

/-- Changing the fraction of a local time changes that of its universal time. -/
theorem localToUniversal_withTime
    {change : TimeOfDay → TimeOfDay}
    (keepsClock : TimeOfDay.KeepsClock change) :
    (dateTime.withTime change).localToUniversal offset =
      (dateTime.localToUniversal offset).withTime change := by
  cases offset with
  | none => rfl
  | some offset =>
      rw [localToUniversal, localToUniversal, moved?_withTime keepsClock]
      cases dateTime.moved? (-offset.seconds) <;> rfl

theorem localToUniversal_cut (digits : Nat) :
    (dateTime.cut digits).localToUniversal offset =
      (dateTime.localToUniversal offset).cut digits :=
  localToUniversal_withTime (TimeOfDay.keepsClock_cut digits)

/-- Local time has a leap second when universal time has one. -/
theorem inLeapSecond_of_localTime?
    (isLocal : dateTime.localTime? offset = some moved) :
    moved.InLeapSecond ↔ dateTime.InLeapSecond := by
  cases offset with
  | none =>
      cases isLocal
      exact Iff.rfl
  | some offset =>
      rw [InLeapSecond, InLeapSecond, nanosecond_of_moved? offset.withinDay isLocal]

/-- Whether local time is universal time moved by whole minutes. -/
def MovesByMinutes : Option ZoneOffset → Prop
  | none => True
  | some offset => offset.seconds % 60 = 0

instance (offset : Option ZoneOffset) : Decidable (MovesByMinutes offset) := by
  unfold MovesByMinutes
  split <;> infer_instance

/-- The last second of a minute is the last one in local time if minutes begin together. -/
theorem second_of_localTime?_eq_iff
    (isLocal : dateTime.localTime? offset = some moved)
    (lastSecond : dateTime.time.second = 59) :
    moved.time.second = 59 ↔ MovesByMinutes offset := by
  cases offset with
  | none =>
      cases isLocal
      exact iff_of_true lastSecond trivial
  | some offset =>
      have second := second_of_moved? offset.withinDay isLocal
      rw [MovesByMinutes]
      omega

end DateTime

end ResultSet
