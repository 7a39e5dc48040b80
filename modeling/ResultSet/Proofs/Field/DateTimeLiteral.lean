import ResultSet.Proofs.Calendar.DatePart
import ResultSet.Proofs.Field.Verdict

namespace ResultSet

/-!
# Literals of date-times in fields

A literal of a date-time is a day, perhaps with a time of that day behind it and perhaps
with a fraction of a second behind the time.  Its numbers have any digits, zeros in front
included, and its fraction has any digits or none.  Which date-time it is read as depends
on what its digits spell alone: not on how many they are, on what stands between the day
and the time, or on the blanks around the literal.  A fraction right behind the day, which
would be one of midnight, is no part of a literal.
-/

/-- Whether octets spell characters, with blanks around them or without. -/
def SpellsAmidBlanks (octets : Octets) (characters : List Char) : Prop :=
  ∃ front back,
    (Text.decode octets).toList = front ++ characters ++ back ∧
      (∀ character ∈ front, Text.isBlank character = true) ∧
      ∀ character ∈ back, Text.isBlank character = true

theorem SpellsAmidBlanks.trim_eq
    {octets : Octets}
    {characters : List Char}
    (spelled : SpellsAmidBlanks octets characters) :
    Text.trim (Text.decode octets).toList = Text.trim characters := by
  obtain ⟨front, back, whole, frontBlank, backBlank⟩ := spelled
  rw [whole, Text.trim_surrounded frontBlank backBlank]

/-- One or more digits. -/
structure DigitString where
  digits : List Char
  areDigits : ∀ digit ∈ digits, digit.isDigit = true
  someDigit : digits ≠ []

namespace DigitString

/-- The number that the digits spell. -/
def number (string : DigitString) : Nat :=
  Numeral.value string.digits

theorem natural?_digits (string : DigitString) :
    Numeral.natural? string.digits = some string.number :=
  Numeral.natural?_eq_some_iff.mpr ⟨string.someDigit, string.areDigits, rfl⟩

end DigitString

/-! ## Times of day -/

/-- What stands between a day and a time of that day. -/
inductive TimeSeparator where
  | blank
  | letter
  deriving Repr, DecidableEq

def TimeSeparator.character : TimeSeparator → Char
  | blank => ' '
  | letter => 'T'

/-- A time of day in a literal, and what stands in front of it. -/
structure ClockLiteral where
  separator : TimeSeparator
  hour : DigitString
  minute : DigitString
  second : DigitString
  fraction : Option (List Char)
  areDigits : ∀ digit ∈ fraction.getD [], digit.isDigit = true

namespace ClockLiteral

variable (clock : ClockLiteral)

/-- The characters of the time itself. -/
def characters : List Char :=
  clock.hour.digits ++
    ':' :: (clock.minute.digits ++ ':' :: (clock.second.digits ++ fractionSuffix clock.fraction))

/-- The number of the first six digits of the fraction, with zeros for those that it lacks. -/
def microseconds : Nat :=
  Numeral.value ((clock.fraction.getD [] ++ List.replicate 6 '0').take 6)

/-- Whether the numbers are those of a time of day. -/
def InDay : Prop :=
  clock.hour.number < 24 ∧ clock.minute.number < 60 ∧ clock.second.number < 60

instance : Decidable clock.InDay := by
  unfold InDay
  infer_instance

theorem fractionMicroseconds_fraction :
    fractionMicroseconds (clock.fraction.getD []) = clock.microseconds := by
  have lacking (count : Nat) : min (6 - count) 6 = microsecondDigits - count :=
    Nat.min_eq_left (Nat.sub_le 6 count)
  rw [fractionMicroseconds, microseconds, List.take_append, List.take_replicate, lacking]
  rfl

theorem isDigit_unpadded :
    ∀ digit ∈ clock.fraction.getD [] ++ List.replicate 6 '0', digit.isDigit = true := by
  intro digit member
  rcases List.mem_append.mp member with isDigit | isZero
  · exact clock.areDigits digit isDigit
  · rw [List.eq_of_mem_replicate isZero]
    rfl

/-- The fraction is cut to microseconds, never rounded. -/
theorem microseconds_eq_div :
    clock.microseconds =
      Numeral.value (clock.fraction.getD []) * 10 ^ 6 / 10 ^ (clock.fraction.getD []).length := by
  rw [microseconds, Numeral.value_take clock.isDigit_unpadded, Numeral.value_append,
    Numeral.value_replicate_zero, List.length_append, List.length_replicate, Nat.add_zero,
    Nat.add_sub_cancel]

theorem microseconds_lt : clock.microseconds < 10 ^ 6 := by
  have small := Numeral.value_lt clock.areDigits
  rw [microseconds_eq_div, Nat.div_lt_iff_lt_mul (Nat.pow_pos (by decide)), Nat.mul_comm]
  exact Nat.mul_lt_mul_of_pos_left small (by decide)

/-- The time of day that the numbers name. -/
def time (inDay : clock.InDay) : TimeOfDay where
  hour := clock.hour.number
  minute := clock.minute.number
  second := clock.second.number
  nanosecond := 1000 * clock.microseconds
  onClock := by
    have small := clock.microseconds_lt
    obtain ⟨hourSmall, minuteSmall, secondSmall⟩ := inDay
    refine ⟨hourSmall, minuteSmall, secondSmall, ?_⟩
    rw [nanosecondsPerSecond]
    omega

theorem digitsOr_characters : Text.DigitsOr [':', '.'] clock.characters := by
  have colon : ':' ∈ [':', '.'] := List.mem_cons_self
  have point : '.' ∈ [':', '.'] := List.mem_cons_of_mem _ List.mem_cons_self
  have suffix : Text.DigitsOr [':', '.'] (fractionSuffix clock.fraction) := by
    have areDigits := clock.areDigits
    cases fraction : clock.fraction with
    | none => exact .of_digits (List.forall_mem_nil _)
    | some digits =>
        rw [fraction] at areDigits
        exact .cons point (.of_digits areDigits)
  exact Text.DigitsOr.append (.of_digits clock.hour.areDigits)
    (.cons colon (.append (.of_digits clock.minute.areDigits)
      (.cons colon (.append (.of_digits clock.second.areDigits) suffix))))

theorem characters_ne_nil : clock.characters ≠ [] := by
  simp [characters]

/-- A time of day is read from its characters if its numbers are those of one. -/
theorem parseTimeOfDay?_characters :
    parseTimeOfDay? clock.characters =
      if inDay : clock.InDay then some (clock.time inDay) else none := by
  have noLeapSecond : 1000 * clock.microseconds < nanosecondsPerSecond := by
    have small := clock.microseconds_lt
    rw [nanosecondsPerSecond]
    omega
  rw [characters,
    parseTimeOfDay?_of_natural? clock.hour.natural?_digits clock.minute.natural?_digits
      clock.second.natural?_digits clock.areDigits,
    clock.fractionMicroseconds_fraction]
  by_cases inDay : clock.InDay
  · rw [dif_pos inDay, TimeOfDay.ofMicroseconds?_eq_some_iff]
    exact ⟨.inr noLeapSecond, rfl, rfl, rfl, rfl⟩
  · rw [dif_neg inDay, TimeOfDay.ofMicroseconds?_eq_none inDay]

end ClockLiteral

/-! ## Days -/

/-- A day of the calendar, no day for all zeros, or else a failure. -/
theorem judged_dateOfParts_eq (year : Int) (month day : Nat) :
    judged (dateOfParts year month day) =
      if year = 0 ∧ month = 0 ∧ day = 0 then
        .ok none
      else if onCalendar : OnCalendar year month day then
        .ok (some ⟨year, month, day, onCalendar⟩)
      else
        .error .malformed := by
  rw [dateOfParts, Date.ofParts?]
  split
  · rfl
  · by_cases onCalendar : OnCalendar year month day
    · rw [dif_pos onCalendar, dif_pos onCalendar]
      rfl
    · rw [dif_neg onCalendar, dif_neg onCalendar]
      rfl

/-- A literal of a date-time: a day and perhaps a time of that day. -/
structure DateTimeLiteral where
  year : DigitString
  month : DigitString
  day : DigitString
  clock : Option ClockLiteral

namespace DateTimeLiteral

variable (literal : DateTimeLiteral)

/-- The characters of the day. -/
def dayCharacters : List Char :=
  literal.year.digits ++ '-' :: (literal.month.digits ++ '-' :: literal.day.digits)

/-- All characters of the literal. -/
def characters : List Char :=
  match literal.clock with
  | none => literal.dayCharacters
  | some clock => literal.dayCharacters ++ clock.separator.character :: clock.characters

/-- Whether the day is spelled by zeros alone. -/
def IsZeroDate : Prop :=
  literal.year.number = 0 ∧ literal.month.number = 0 ∧ literal.day.number = 0

instance : Decidable literal.IsZeroDate := by
  unfold IsZeroDate
  infer_instance

/-- Whether the calendar has the day and the day has the time. -/
def IsMoment : Prop :=
  OnCalendar literal.year.number literal.month.number literal.day.number ∧
    ∀ clock ∈ literal.clock, clock.InDay

instance : Decidable literal.IsMoment := by
  unfold IsMoment
  infer_instance

/-- The time of day, which is midnight if the literal has none. -/
def time (isMoment : literal.IsMoment) : TimeOfDay :=
  match clock : literal.clock with
  | none => TimeOfDay.midnight
  | some clockLiteral => clockLiteral.time (isMoment.2 clockLiteral clock)

/-- The date-time that a literal names. -/
def moment (isMoment : literal.IsMoment) : DateTime where
  date :=
    ⟨literal.year.number, literal.month.number, literal.day.number, isMoment.1⟩
  time := literal.time isMoment

theorem digitsOr_dayCharacters : Text.DigitsOr ['-'] literal.dayCharacters := by
  have dash : '-' ∈ ['-'] := List.mem_cons_self
  exact Text.DigitsOr.append (.of_digits literal.year.areDigits)
    (.cons dash (.append (.of_digits literal.month.areDigits)
      (.cons dash (.of_digits literal.day.areDigits))))

theorem dayCharacters_ne_nil : literal.dayCharacters ≠ [] := by
  simp [dayCharacters]

variable {literal}

/-- The day and the time are split at what stands between them. -/
theorem splitFirst_characters :
    Text.splitFirst isTimeSeparator literal.characters =
      (literal.dayCharacters, literal.clock.map ClockLiteral.characters) := by
  have noneInside : ∀ character ∈ literal.dayCharacters, isTimeSeparator character = false :=
    literal.digitsOr_dayCharacters.noneOf (by decide) separatesNumerals_isTimeSeparator
  have separates (separator : TimeSeparator) : isTimeSeparator separator.character = true := by
    cases separator <;> rfl
  rw [characters]
  cases literal.clock with
  | none => exact Text.splitFirst_of_forall noneInside
  | some clock => exact Text.splitFirst_append noneInside (separates clock.separator)

/-- No blank stands at the ends of a literal. -/
theorem trim_characters : Text.trim literal.characters = literal.characters := by
  have dayShows : ∀ character ∈ literal.dayCharacters, Text.isBlank character = false :=
    literal.digitsOr_dayCharacters.noneBlank (by decide)
  rw [characters]
  cases literal.clock with
  | none => exact Text.trim_of_forall dayShows
  | some clock =>
      have clockShows : ∀ character ∈ clock.characters, Text.isBlank character = false :=
        clock.digitsOr_characters.noneBlank (by decide)
      have joined :
          literal.dayCharacters ++ clock.separator.character :: clock.characters =
            literal.dayCharacters ++ [clock.separator.character] ++ clock.characters := by
        simp
      change Text.trim (_ ++ _ :: _) = _ ++ _ :: _
      rw [joined]
      exact Text.trim_joined dayShows clockShows
        ⟨literal.dayCharacters_ne_nil, clock.characters_ne_nil⟩

/-! ## Reading literals -/

/-- Numbers that are too large to be read name no day anyway. -/
theorem judged_parseDate :
    judged (parseDate (String.ofList literal.dayCharacters)) =
      judged (dateOfParts literal.year.number literal.month.number literal.day.number) := by
  have trimmed : Text.trim literal.dayCharacters = literal.dayCharacters :=
    literal.digitsOr_dayCharacters.trim_eq (by decide)
  rw [parseDate, String.toList_ofList, trimmed, dayCharacters,
    dateParts?_of_natural? literal.year.natural?_digits literal.month.natural?_digits
      literal.day.natural?_digits]
  by_cases fits :
      literal.year.number < 2 ^ 31 ∧ literal.month.number < 2 ^ 32 ∧ literal.day.number < 2 ^ 32
  · rw [if_pos fits]
  · have noZeros :
        ¬ ((literal.year.number : Int) = 0 ∧ literal.month.number = 0 ∧
          literal.day.number = 0) := by
      omega
    have offCalendar :
        ¬ OnCalendar literal.year.number literal.month.number literal.day.number := by
      rintro ⟨⟨-, yearAtMost⟩, ⟨-, monthAtMost⟩, -, dayAtMost⟩
      have lastDay := daysInMonth_le literal.year.number literal.month.number
      rw [lastYear] at yearAtMost
      omega
    rw [if_neg fits, judged_dateOfParts_eq, if_neg noZeros, dif_neg offCalendar]
    rfl

/-- A literal is read as the date-time that it names, and zeros alone as none. -/
theorem judged_parseDateTime
    {octets : Octets}
    (spelled : SpellsAmidBlanks octets literal.characters) :
    judged (parseDateTime (Text.decode octets)) =
      if literal.IsZeroDate then
        .ok none
      else if isMoment : literal.IsMoment then
        .ok (some (literal.moment isMoment))
      else
        .error .malformed := by
  simp only [parseDateTime, spelled.trim_eq, trim_characters, splitFirst_characters]
  rw [judged_bind, judged_parseDate, judged_dateOfParts_eq]
  have sameZeros :
      ((literal.year.number : Int) = 0 ∧ literal.month.number = 0 ∧ literal.day.number = 0) ↔
        literal.IsZeroDate := by
    rw [IsZeroDate, Int.natCast_eq_zero]
  simp only [sameZeros]
  by_cases isZeroDate : literal.IsZeroDate
  · rw [if_pos isZeroDate, if_pos isZeroDate]
    rfl
  · rw [if_neg isZeroDate, if_neg isZeroDate]
    by_cases onCalendar :
        OnCalendar literal.year.number literal.month.number literal.day.number
    · rw [dif_pos onCalendar]
      rcases literal with ⟨year, month, day, _ | clock⟩
      · have isMoment : IsMoment ⟨year, month, day, none⟩ :=
          ⟨onCalendar, by rintro _ ⟨⟩⟩
        rw [dif_pos isMoment]
        rfl
      · have time : Text.trim clock.characters = clock.characters :=
          clock.digitsOr_characters.trim_eq (by decide)
        simp only [bind, Except.bind, Option.map_some, time, clock.parseTimeOfDay?_characters]
        by_cases inDay : clock.InDay
        · have isMoment : IsMoment ⟨year, month, day, some clock⟩ :=
            ⟨onCalendar, by rintro _ ⟨⟩; exact inDay⟩
          rw [dif_pos inDay, dif_pos isMoment]
          rfl
        · have noMoment : ¬ IsMoment ⟨year, month, day, some clock⟩ :=
            fun isMoment => inDay (isMoment.2 clock rfl)
          rw [dif_neg inDay, dif_neg noMoment]
          rfl
    · have noMoment : ¬ literal.IsMoment := fun isMoment => onCalendar isMoment.1
      rw [dif_neg onCalendar, dif_neg noMoment]
      rfl

/-! ## Fractions without a time of day -/

section Fraction

variable {digits : List Char} (areDigits : ∀ digit ∈ digits, digit.isDigit = true)

include areDigits

theorem digitsOr_fraction
    {marks : List Char}
    (isMark : '.' ∈ marks) :
    Text.DigitsOr marks ('.' :: digits) :=
  .cons isMark (.of_digits areDigits)

/-- With a fraction right behind it, the last number of a day is none. -/
theorem dateParts?_of_fraction :
    dateParts? (literal.dayCharacters ++ '.' :: digits) = none := by
  have separates := separatesNumerals_isDateSeparator
  have regrouped :
      literal.dayCharacters ++ '.' :: digits =
        literal.year.digits ++
          '-' :: (literal.month.digits ++ '-' :: (literal.day.digits ++ '.' :: digits)) := by
    simp [dayCharacters]
  have lastPart : Text.DigitsOr ['.'] (literal.day.digits ++ '.' :: digits) :=
    .append (.of_digits literal.day.areDigits) (digitsOr_fraction areDigits (by simp))
  have staysWhole :
      Text.splitFirst isDateSeparator (literal.day.digits ++ '.' :: digits) =
        (literal.day.digits ++ '.' :: digits, none) :=
    Text.splitFirst_of_forall (lastPart.noneOf (by decide) separates)
  rw [regrouped, dateParts?_append (separates.noneInside literal.year.natural?_digits) rfl
    (separates.noneInside literal.month.natural?_digits) rfl, staysWhole,
    Option.eq_none_iff_forall_ne_some]
  intro parts named
  obtain ⟨-, -, isDay⟩ := partNumbers?_eq_some_iff.mp named
  obtain ⟨isNumber, -⟩ := Option.filter_eq_some_iff.mp isDay
  have noPoint := Numeral.digitsOr_of_integer? (Numeral.integer?_of_unsigned? isNumber)
  exact absurd (noPoint '.' (by simp)) (by decide)

theorem judged_parseDateTime_of_fraction
    {octets : Octets}
    (spelled : SpellsAmidBlanks octets (literal.dayCharacters ++ '.' :: digits)) :
    judged (parseDateTime (Text.decode octets)) = .error .malformed := by
  have characters : Text.DigitsOr ['-', '.'] (literal.dayCharacters ++ '.' :: digits) :=
    (literal.digitsOr_dayCharacters.mono (by simp)).append (digitsOr_fraction areDigits (by simp))
  have noTime :
      Text.splitFirst isTimeSeparator (literal.dayCharacters ++ '.' :: digits) =
        (literal.dayCharacters ++ '.' :: digits, none) :=
    Text.splitFirst_of_forall (characters.noneOf (by decide) separatesNumerals_isTimeSeparator)
  have noBlank :
      Text.trim (literal.dayCharacters ++ '.' :: digits) =
        literal.dayCharacters ++ '.' :: digits :=
    characters.trim_eq (by decide)
  simp only [parseDateTime, spelled.trim_eq, noBlank, noTime, parseDate, String.toList_ofList,
    dateParts?_of_fraction areDigits]
  rfl

end Fraction

end DateTimeLiteral

/-! ## Fields -/

/-- In text, a field of a date-time is judged by what its text is read as. -/
theorem Column.verdict_decode_dateTimeText
    {column : Column}
    (isDateTime : column.shape.type.family = .timestamp)
    {octets : Octets}
    {start : Cursor}
    (next : octets <+: start.rest) :
    (column.decode ⟨.text, none⟩ .natural octets.length).verdict start =
      ((judged (parseDateTime (Text.decode octets))).map
        (TemporalField.dateTimeValue none)).mapError .value := by
  have isNoFloat : column.shape.type.family ≠ .float := by
    rw [isDateTime]
    decide
  have means :
      (column.shape.reader ⟨.text, none⟩ .natural octets.length).interpret octets =
        (parseDateTime (Text.decode octets)).map (TemporalField.dateTimeValue none) := by
    simp only [Shape.reader, isDateTime, Family.reader, TemporalField.timestamp,
      FieldReader.text, FieldReader.whole]
    cases parseDateTime (Text.decode octets) <;> rfl
  rw [verdict_decode_of_next (Shape.heedsLength_of_not_float isNoFloat _ _) next, means,
    judged_map]
  cases judged (parseDateTime (Text.decode octets)) <;> rfl

/--
A literal of a date-time in a field is read as the date-time that it names; a literal of
the date of all zeros is no value, whatever time stands behind it; and one whose day the
calendar lacks, or whose time no day has, is malformed.  So is a day with a fraction right
behind it, for a fraction belongs to a time.
-/
theorem date_time_literals_are_read_exactly
    {column : Column}
    (isDateTime : column.shape.type.family = .timestamp)
    {octets : Octets}
    {start : Cursor}
    (next : octets <+: start.rest) :
    let verdict := (column.decode ⟨.text, none⟩ .natural octets.length).verdict start
    ∀ literal : DateTimeLiteral,
      (SpellsAmidBlanks octets literal.characters →
        verdict =
          if literal.IsZeroDate then
            .ok .null
          else if isMoment : literal.IsMoment then
            .ok (.dateTime (literal.moment isMoment))
          else
            .error (.value .malformed)) ∧
      ∀ digits : List Char,
        (∀ digit ∈ digits, digit.isDigit = true) →
          SpellsAmidBlanks octets (literal.dayCharacters ++ '.' :: digits) →
            verdict = .error (.value .malformed) := by
  intro verdict literal
  have isRead := Column.verdict_decode_dateTimeText isDateTime next
  constructor
  · intro spelled
    rw [DateTimeLiteral.judged_parseDateTime spelled] at isRead
    refine isRead.trans ?_
    split
    · rfl
    · split <;> rfl
  · intro digits areDigits spelled
    rw [DateTimeLiteral.judged_parseDateTime_of_fraction areDigits spelled] at isRead
    exact isRead

/-- Blanks, zeros in front of numbers and a seventh digit of the fraction do not count. -/
theorem padded_leap_day_is_read_exactly :
    let column := Column.generated "at" .dateTime 26 0
    let literal : DateTimeLiteral :=
      { year := ⟨['0', '2', '0', '2', '4'], by simp, by simp⟩
        month := ⟨['2'], by simp, by simp⟩
        day := ⟨['2', '9'], by simp, by simp⟩
        clock := some
          { separator := .letter
            hour := ⟨['7'], by simp, by simp⟩
            minute := ⟨['0', '0', '5'], by simp, by simp⟩
            second := ⟨['9'], by simp, by simp⟩
            fraction := some ['1', '2', '3', '4', '5', '6', '9']
            areDigits := by simp } }
    let octets := Text.encode "\u2003 02024-2-29T7:005:9.1234569\t"
    let start := Cursor.ofPacket octets
    column.shape.type.family = .timestamp ∧
      SpellsAmidBlanks octets literal.characters ∧
      octets <+: start.rest ∧
      (column.decode ⟨.text, none⟩ .natural octets.length).verdict start =
        .ok (.dateTime
          ⟨⟨2024, 2, 29, by decide⟩, ⟨7, 5, 9, 123456000, by decide⟩⟩) := by
  intro column literal octets start
  have isDateTime : column.shape.type.family = .timestamp := rfl
  have spelled : SpellsAmidBlanks octets literal.characters :=
    ⟨['\u2003', ' '], ['\t'], by decide +kernel, List.all_eq_true.mp (by decide),
      List.all_eq_true.mp (by decide)⟩
  have next : octets <+: start.rest := List.prefix_refl start.rest
  have notZero : ¬ literal.IsZeroDate := by decide
  have isMoment : literal.IsMoment := by decide
  have verdict := (date_time_literals_are_read_exactly isDateTime next literal).1 spelled
  have named : ∀ isMoment : literal.IsMoment,
      literal.moment isMoment =
        ⟨⟨2024, 2, 29, by decide⟩, ⟨7, 5, 9, 123456000, by decide⟩⟩ := by
    decide
  rw [if_neg notZero, dif_pos isMoment, named] at verdict
  exact ⟨isDateTime, spelled, next, verdict⟩

/-- The calendar has the day, but half a second of its midnight cannot be spelled without a time. -/
theorem half_a_second_behind_the_day_is_malformed :
    let column := Column.generated "at" .dateTime 26 0
    let literal : DateTimeLiteral :=
      { year := ⟨['2', '0', '2', '4'], by simp, by simp⟩
        month := ⟨['1', '0'], by simp, by simp⟩
        day := ⟨['2', '1'], by simp, by simp⟩
        clock := none }
    let octets := Text.encode "2024-10-21.5"
    let halfASecond : DateTime :=
      ⟨⟨2024, 10, 21, by decide⟩, ⟨0, 0, 0, 500000000, by decide⟩⟩
    let verdict :=
      (column.decode ⟨.text, none⟩ .natural octets.length).verdict (Cursor.ofPacket octets)
    column.shape.type.family = .timestamp ∧
      SpellsAmidBlanks octets (literal.dayCharacters ++ ['.', '5']) ∧
      ¬ literal.IsZeroDate ∧
      literal.IsMoment ∧
      verdict = .error (.value .malformed) ∧
      verdict ≠ .ok (.dateTime halfASecond) := by
  intro column literal octets halfASecond verdict
  have spelled : SpellsAmidBlanks octets (literal.dayCharacters ++ ['.', '5']) :=
    ⟨[], [], by decide +kernel, List.forall_mem_nil _, List.forall_mem_nil _⟩
  have isMalformed : verdict = .error (.value .malformed) := by decide +kernel
  refine ⟨rfl, spelled, by decide, by decide, isMalformed, ?_⟩
  rw [isMalformed]
  rintro ⟨⟩

end ResultSet
