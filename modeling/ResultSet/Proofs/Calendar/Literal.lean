import ResultSet.Proofs.Calendar.Packed
import ResultSet.Proofs.Text.Literal

namespace ResultSet

/-!
# Literals of dates and date-times read back

Literals are read a part at a time between separators, and they are written part
by part.  The parts are numerals, so that no separator stands inside one and
reading gives the numbers back that were written.  A fraction comes back as far
as its digits were written.
-/

/-! ## Parts between separators -/

theorem separatesNumerals_isDateSeparator : SeparatesNumerals isDateSeparator :=
  ((separatesNumerals_of_eq rfl).or (separatesNumerals_of_eq rfl)).or
    (separatesNumerals_of_eq rfl)

theorem separatesNumerals_isTimeSeparator : SeparatesNumerals isTimeSeparator :=
  (separatesNumerals_of_eq rfl).or (separatesNumerals_of_eq rfl)

section Parts

variable
  {isSeparator : Char → Bool}
  {separator : Char}
  {spelling behind yearPart monthPart dayPart hourPart minutePart secondPart : List Char}
  {number year month day hour minute second : Nat}

theorem SeparatesNumerals.noneInside
    (separates : SeparatesNumerals isSeparator)
    (spells : Numeral.natural? spelling = some number) :
    ∀ digit ∈ spelling, isSeparator digit = false :=
  fun digit member => separates digit (Numeral.isDigit_of_natural? spells digit member)

/-- A numeral in front of a separator is split off. -/
theorem SeparatesNumerals.splitFirst_numeral
    (separates : SeparatesNumerals isSeparator)
    (isOne : isSeparator separator = true)
    (spells : Numeral.natural? spelling = some number) :
    Text.splitFirst isSeparator (spelling ++ separator :: behind) =
      (spelling, some behind) :=
  Text.splitFirst_append (separates.noneInside spells) isOne

/-- A numeral with nothing behind it stays whole. -/
theorem SeparatesNumerals.splitFirst_lastNumeral
    (separates : SeparatesNumerals isSeparator)
    (spells : Numeral.natural? spelling = some number) :
    Text.splitFirst isSeparator spelling = (spelling, none) :=
  Text.splitFirst_of_forall (separates.noneInside spells)

/-- The numbers of three parts. -/
def partNumbers? (yearPart monthPart dayPart : List Char) : Option (Int × Nat × Nat) := do
  let year ← Numeral.signedWithin? 32 yearPart
  let month ← Numeral.unsignedWithin? 32 monthPart
  let day ← Numeral.unsignedWithin? 32 dayPart
  return (year, month, day)

theorem partNumbers?_eq_some_iff {parts : Int × Nat × Nat} :
    partNumbers? yearPart monthPart dayPart = some parts ↔
      Numeral.signedWithin? 32 yearPart = some parts.1 ∧
        Numeral.unsignedWithin? 32 monthPart = some parts.2.1 ∧
        Numeral.unsignedWithin? 32 dayPart = some parts.2.2 := by
  rcases parts with ⟨year, month, day⟩
  simp only [partNumbers?, Option.bind_eq_bind, Option.bind_eq_some_iff, Option.pure_def]
  constructor
  · rintro ⟨_, yearSpells, _, monthSpells, _, daySpells, ⟨⟩⟩
    exact ⟨yearSpells, monthSpells, daySpells⟩
  · rintro ⟨yearSpells, monthSpells, daySpells⟩
    exact ⟨year, yearSpells, month, monthSpells, day, daySpells, rfl⟩

/-- Two separators split a date into its parts, the last of which ends at a third one. -/
theorem dateParts?_append
    {first second : Char}
    (noneInYear : ∀ character ∈ yearPart, isDateSeparator character = false)
    (isFirst : isDateSeparator first = true)
    (noneInMonth : ∀ character ∈ monthPart, isDateSeparator character = false)
    (isSecond : isDateSeparator second = true) :
    dateParts? (yearPart ++ first :: (monthPart ++ second :: behind)) =
      partNumbers? yearPart monthPart (Text.splitFirst isDateSeparator behind).1 := by
  simp only [dateParts?, Text.splitFirst_append noneInYear isFirst,
    Text.splitFirst_append noneInMonth isSecond, Option.bind_eq_bind, Option.bind_some]
  rfl

/-- Three numerals with dashes between them are the parts of a date, if they are not too large. -/
theorem dateParts?_of_natural?
    (yearSpells : Numeral.natural? yearPart = some year)
    (monthSpells : Numeral.natural? monthPart = some month)
    (daySpells : Numeral.natural? dayPart = some day) :
    dateParts? (yearPart ++ '-' :: (monthPart ++ '-' :: dayPart)) =
      if year < 2 ^ 31 ∧ month < 2 ^ 32 ∧ day < 2 ^ 32 then
        some ((year : Int), month, day)
      else
        none := by
  have separates := separatesNumerals_isDateSeparator
  have yearFits : Numeral.fitsSigned 32 year = true ↔ year < 2 ^ 31 := by
    rw [Numeral.fitsSigned, decide_eq_true_eq]
    omega
  rw [dateParts?_append (separates.noneInside yearSpells) rfl (separates.noneInside monthSpells)
    rfl, separates.splitFirst_lastNumeral daySpells, partNumbers?,
    Numeral.signedWithin?_of_natural? yearSpells, Numeral.unsignedWithin?_of_natural? monthSpells,
    Numeral.unsignedWithin?_of_natural? daySpells]
  simp only [yearFits]
  by_cases yearSmall : year < 2 ^ 31
  · by_cases monthSmall : month < 2 ^ 32
    · by_cases daySmall : day < 2 ^ 32 <;> simp [yearSmall, monthSmall, daySmall]
    · simp [monthSmall]
  · simp [yearSmall]

/-- What stands behind the seconds: nothing, or a point and the digits of a fraction. -/
def fractionSuffix : Option (List Char) → List Char
  | none => []
  | some digits => '.' :: digits

/--
Three numerals with colons between them, and perhaps a fraction behind them, are the
parts of a time of day.  Numerals that are too large to be read name no time of day anyway.
-/
theorem parseTimeOfDay?_of_natural?
    {fraction : Option (List Char)}
    (hourSpells : Numeral.natural? hourPart = some hour)
    (minuteSpells : Numeral.natural? minutePart = some minute)
    (secondSpells : Numeral.natural? secondPart = some second)
    (areDigits : ∀ digit ∈ fraction.getD [], digit.isDigit = true) :
    parseTimeOfDay?
        (hourPart ++ ':' :: (minutePart ++ ':' :: (secondPart ++ fractionSuffix fraction))) =
      TimeOfDay.ofMicroseconds? hour minute second
        (fractionMicroseconds (fraction.getD [])) := by
  have atColon : SeparatesNumerals (· == ':') := separatesNumerals_of_eq rfl
  have atPoint : SeparatesNumerals (· == '.') := separatesNumerals_of_eq rfl
  have colon : (':' == ':') = true := rfl
  have seconds :
      Text.splitFirst (· == '.') (secondPart ++ fractionSuffix fraction) =
        (secondPart, fraction) := by
    cases fraction with
    | none =>
        rw [fractionSuffix, List.append_nil]
        exact atPoint.splitFirst_lastNumeral secondSpells
    | some digits => exact atPoint.splitFirst_numeral rfl secondSpells
  have allDigits : (fraction.getD []).all Char.isDigit = true := List.all_eq_true.mpr areDigits
  simp only [parseTimeOfDay?, atColon.splitFirst_numeral colon hourSpells,
    atColon.splitFirst_numeral colon minuteSpells, seconds, Option.bind_eq_bind,
    Option.bind_some, Numeral.unsignedWithin?_of_natural? hourSpells,
    Numeral.unsignedWithin?_of_natural? minuteSpells,
    Numeral.unsignedWithin?_of_natural? secondSpells, allDigits, ↓reduceIte]
  by_cases fits : hour < 2 ^ 32 ∧ minute < 2 ^ 32 ∧ second < 2 ^ 32
  · simp [fits]
  · rw [TimeOfDay.ofMicroseconds?_eq_none (by omega)]
    by_cases hourSmall : hour < 2 ^ 32
    · by_cases minuteSmall : minute < 2 ^ 32
      · have secondLarge : ¬ second < 2 ^ 32 := fun secondSmall =>
          fits ⟨hourSmall, minuteSmall, secondSmall⟩
        simp [secondLarge]
      · simp [minuteSmall]
    · simp [hourSmall]

end Parts

/-! ## Dates -/

/-- Parts that are a date, or the date of all zeros, are no large numbers. -/
theorem fits_of_dateOfParts
    {year month day : Nat}
    {result : Option Date}
    (means : dateOfParts year month day = .ok result) :
    year < 2 ^ 31 ∧ month < 2 ^ 32 ∧ day < 2 ^ 32 := by
  rw [dateOfParts] at means
  split at means
  · omega
  · rw [Date.ofParts?] at means
    split at means
    · rename_i _ _ isDate
      split at isDate
      · rename_i onCalendar
        obtain ⟨⟨-, yearAtMost⟩, ⟨-, monthAtMost⟩, -, dayAtMost⟩ := onCalendar
        have lastDay := daysInMonth_le year month
        rw [lastYear] at yearAtMost
        omega
      · cases isDate
    · cases means

section Texts

variable {year month day hour minute second microseconds decimals : Nat}

theorem toList_dateText :
    (dateText year month day).toList =
      (Numeral.padded 4 year).toList ++
        '-' :: ((Numeral.padded 2 month).toList ++ '-' :: (Numeral.padded 2 day).toList) := by
  simp [dateText, Numeral.paddedInt_natCast]

theorem digitsOr_dateText : Text.DigitsOr ['-'] (dateText year month day).toList := by
  have dash : '-' ∈ ['-'] := List.mem_cons_self
  have digits (width number : Nat) :
      Text.DigitsOr ['-'] (Numeral.padded width number).toList :=
    .of_digits (Numeral.isDigit_padded width number)
  rw [toList_dateText]
  exact (digits 4 year).append (.cons dash ((digits 2 month).append (.cons dash (digits 2 day))))

/-- The text of a date is read as the date that its parts name. -/
theorem parseDate_dateText
    (fits : year < 2 ^ 31 ∧ month < 2 ^ 32 ∧ day < 2 ^ 32) :
    parseDate (dateText year month day) = dateOfParts year month day := by
  rw [parseDate, digitsOr_dateText.trim_eq (by decide), toList_dateText,
    dateParts?_of_natural? (Numeral.natural?_padded 4 year) (Numeral.natural?_padded 2 month)
      (Numeral.natural?_padded 2 day), if_pos fits]

/-! ## Clocks and fractions -/

theorem toList_clockText_append
    (hour minute second : Nat)
    (behind : List Char) :
    (clockText hour minute second).toList ++ behind =
      (Numeral.padded 2 hour).toList ++
        ':' :: ((Numeral.padded 2 minute).toList ++
          ':' :: ((Numeral.padded 2 second).toList ++ behind)) := by
  simp [clockText]

theorem digitsOr_clockText
    {fraction : Option (List Char)}
    (areDigits : ∀ digit ∈ fraction.getD [], digit.isDigit = true) :
    Text.DigitsOr [':', '.']
      ((clockText hour minute second).toList ++ fractionSuffix fraction) := by
  have colon : ':' ∈ [':', '.'] := List.mem_cons_self
  have point : '.' ∈ [':', '.'] := List.mem_cons_of_mem _ List.mem_cons_self
  have digits (width number : Nat) :
      Text.DigitsOr [':', '.'] (Numeral.padded width number).toList :=
    .of_digits (Numeral.isDigit_padded width number)
  have suffix : Text.DigitsOr [':', '.'] (fractionSuffix fraction) := by
    cases fraction with
    | none => exact .of_digits (by simp [fractionSuffix])
    | some places => exact .cons point (.of_digits areDigits)
  rw [toList_clockText_append]
  exact (digits 2 hour).append
    (.cons colon ((digits 2 minute).append
      (.cons colon ((digits 2 second).append suffix))))

/-- A clock with a fraction behind it is read as the time of day that its parts name. -/
theorem parseTimeOfDay?_clockText
    {fraction : Option (List Char)}
    (areDigits : ∀ digit ∈ fraction.getD [], digit.isDigit = true) :
    parseTimeOfDay? ((clockText hour minute second).toList ++ fractionSuffix fraction) =
      TimeOfDay.ofMicroseconds? hour minute second
        (fractionMicroseconds (fraction.getD [])) := by
  rw [toList_clockText_append,
    parseTimeOfDay?_of_natural? (Numeral.natural?_padded 2 hour)
      (Numeral.natural?_padded 2 minute) (Numeral.natural?_padded 2 second) areDigits]

/-- A date and a clock fall apart at the blank between them. -/
theorem splitFirst_dateText_clockText
    (behind : List Char)
    (clockDigits :
      Text.DigitsOr [':', '.'] ((clockText hour minute second).toList ++ behind)) :
    Text.splitFirst isTimeSeparator
        (Text.trim ((dateText year month day).toList ++
          ' ' :: ((clockText hour minute second).toList ++ behind))) =
      ((dateText year month day).toList,
        some ((clockText hour minute second).toList ++ behind)) := by
  have dateNonempty : (dateText year month day).toList ≠ [] := by
    rw [toList_dateText]
    simp
  have clockNonempty : (clockText hour minute second).toList ++ behind ≠ [] := by
    rw [toList_clockText_append]
    simp
  have dateShows : ∀ character ∈ (dateText year month day).toList,
      Text.isBlank character = false :=
    digitsOr_dateText.noneBlank (by decide)
  have clockShows : ∀ character ∈ (clockText hour minute second).toList ++ behind,
      Text.isBlank character = false :=
    clockDigits.noneBlank (by decide)
  have noneInside : ∀ character ∈ (dateText year month day).toList,
      isTimeSeparator character = false :=
    digitsOr_dateText.noneOf (by decide) separatesNumerals_isTimeSeparator
  have blank : isTimeSeparator ' ' = true := rfl
  have whole :
      Text.trim ((dateText year month day).toList ++ [' '] ++
          ((clockText hour minute second).toList ++ behind)) =
        (dateText year month day).toList ++ [' '] ++
          ((clockText hour minute second).toList ++ behind) :=
    Text.trim_joined dateShows clockShows ⟨dateNonempty, clockNonempty⟩
  rw [List.append_assoc, List.singleton_append] at whole
  rw [whole, Text.splitFirst_append noneInside blank]

/-- A date and a time of day are read from their text, with a fraction of any digits. -/
theorem parseDateTime_of_toList
    {literal : String}
    {fraction : Option (List Char)}
    (spelled :
      literal.toList =
        (dateText year month day).toList ++
          ' ' :: ((clockText hour minute second).toList ++ fractionSuffix fraction))
    (areDigits : ∀ digit ∈ fraction.getD [], digit.isDigit = true)
    {date : Date}
    (isDate : parseDate (dateText year month day) = .ok (some date))
    {time : TimeOfDay}
    (isTime :
      TimeOfDay.ofMicroseconds? hour minute second
          (fractionMicroseconds (fraction.getD [])) =
        some time) :
    parseDateTime literal = .ok (some ⟨date, time⟩) := by
  have clockDigits :
      Text.DigitsOr [':', '.']
        ((clockText hour minute second).toList ++ fractionSuffix fraction) :=
    digitsOr_clockText areDigits
  have parts :
      Text.splitFirst isTimeSeparator (Text.trim literal.toList) =
        ((dateText year month day).toList,
          some ((clockText hour minute second).toList ++ fractionSuffix fraction)) := by
    rw [spelled]
    exact splitFirst_dateText_clockText _ clockDigits
  have clock :
      Text.trim ((clockText hour minute second).toList ++ fractionSuffix fraction) =
        (clockText hour minute second).toList ++ fractionSuffix fraction :=
    clockDigits.trim_eq (by decide)
  have read :
      parseTimeOfDay? ((clockText hour minute second).toList ++ fractionSuffix fraction) =
        some time := by
    rw [parseTimeOfDay?_clockText areDigits, isTime]
  simp only [parseDateTime, parts, String.ofList_toList, isDate, bind, Except.bind, clock, read]
  rfl

/-- How many digits of a fraction a column shows; one that declares none shows all of them. -/
def shownDigits (decimals : Nat) : Nat :=
  if decimals = 0 then microsecondDigits else fractionDigits decimals

theorem shownDigits_le (decimals : Nat) : shownDigits decimals ≤ microsecondDigits := by
  rw [shownDigits, fractionDigits]
  split
  · exact Nat.le_refl _
  · exact Nat.min_le_right _ _

/-- The digits of a fraction that a column shows, if it shows the fraction at all. -/
def shownFraction (microseconds decimals : Nat) : Option (List Char) :=
  if decimals = 0 ∧ microseconds = 0 then
    none
  else
    some ((Numeral.padded microsecondDigits microseconds).toList.take (shownDigits decimals))

theorem toList_fractionText :
    (fractionText microseconds decimals).toList =
      fractionSuffix (shownFraction microseconds decimals) := by
  rw [fractionText, shownFraction]
  split
  · rfl
  · simp [fractionSuffix, shownDigits]

theorem isDigit_shownFraction :
    ∀ digit ∈ (shownFraction microseconds decimals).getD [], digit.isDigit = true := by
  intro digit member
  rw [shownFraction] at member
  split at member
  · cases member
  · exact Numeral.isDigit_padded _ _ digit (List.mem_of_mem_take member)

/-- A column that declares no digits shows a fraction with all of them, if there is one. -/
theorem fractionText_undeclared
    (small : microseconds < 10 ^ microsecondDigits) :
    fractionText microseconds 0 =
      if microseconds = 0 then "" else "." ++ Numeral.padded microsecondDigits microseconds := by
  by_cases isZero : microseconds = 0
  · rw [fractionText, if_pos ⟨rfl, isZero⟩, if_pos isZero]
  · have places :
        (Numeral.padded microsecondDigits microseconds).toList.length = microsecondDigits :=
      Numeral.length_padded (by decide) small
    rw [fractionText, if_neg (fun showsNothing => isZero showsNothing.2), if_neg isZero]
    simp only [↓reduceIte, List.take_of_length_le (Nat.le_of_eq places), String.ofList_toList]

/-- The microseconds that are left when so many digits of them are shown. -/
def cutMicroseconds (digits microseconds : Nat) : Nat :=
  microseconds / 10 ^ (microsecondDigits - digits) * 10 ^ (microsecondDigits - digits)

/-- Of a fraction of six digits or more, what is read are its first six. -/
theorem fractionMicroseconds_of_length_ge
    {digits : List Char}
    (areDigits : ∀ digit ∈ digits, digit.isDigit = true)
    (enough : microsecondDigits ≤ digits.length) :
    fractionMicroseconds digits =
      Numeral.value digits / 10 ^ (digits.length - microsecondDigits) := by
  rw [fractionMicroseconds, Nat.sub_eq_zero_of_le enough, List.replicate_zero,
    List.append_nil, Numeral.value_take areDigits]

/-- The shown digits of a fraction are read as the microseconds cut to them. -/
theorem fractionMicroseconds_shownFraction
    (small : microseconds < 10 ^ microsecondDigits) :
    fractionMicroseconds ((shownFraction microseconds decimals).getD []) =
      cutMicroseconds (shownDigits decimals) microseconds := by
  rw [shownFraction, cutMicroseconds]
  split
  · rename_i showsNothing
    rw [showsNothing.2, Nat.zero_div, Nat.zero_mul]
    decide
  · have places :
        (Numeral.padded microsecondDigits microseconds).toList.length = microsecondDigits :=
      Numeral.length_padded (by decide) small
    have areDigits := Numeral.isDigit_padded microsecondDigits microseconds
    have few := shownDigits_le decimals
    rw [Option.getD_some, fractionMicroseconds, List.take_take, List.length_take, places,
      Nat.min_eq_right few, Nat.min_eq_left few, Numeral.value_append,
      Numeral.value_replicate_zero, List.length_replicate, Nat.add_zero,
      Numeral.value_take areDigits, places, Numeral.value_padded]

/-- Cutting the microseconds of a time of day is cutting its fraction. -/
theorem TimeOfDay.ofMicroseconds?_cutMicroseconds
    {digits : Nat}
    {time : TimeOfDay}
    (few : digits ≤ microsecondDigits)
    (named : ofMicroseconds? hour minute second microseconds = some time) :
    ofMicroseconds? hour minute second (cutMicroseconds digits microseconds) =
      some (time.cut digits) := by
  have power : 10 ^ (9 - digits) = 1000 * 10 ^ (microsecondDigits - digits) := by
    have split : 9 - digits = 3 + (microsecondDigits - digits) := by
      simp only [microsecondDigits] at few ⊢
      omega
    rw [split, Nat.pow_add]
  have nanoseconds :
      1000 * cutMicroseconds digits microseconds =
        1000 * microseconds / 10 ^ (9 - digits) * 10 ^ (9 - digits) := by
    rw [cutMicroseconds, power, Nat.mul_div_mul_left _ _ (by decide), Nat.mul_left_comm]
  have less : 1000 * cutMicroseconds digits microseconds ≤ 1000 * microseconds := by
    rw [nanoseconds]
    exact Nat.div_mul_le_self _ _
  rw [ofMicroseconds?_eq_some_iff] at named ⊢
  obtain ⟨allowed, rfl, rfl, rfl, sameFraction⟩ := named
  refine ⟨allowed.imp_right (Nat.lt_of_le_of_lt less), rfl, rfl, rfl, ?_⟩
  rw [nanoseconds, ← sameFraction]
  rfl

/-! ## Texts of zeros -/

/-- A fraction of zeros has the digits that the column declares, and no point if these are none. -/
theorem fractionText_zero (decimals : Nat) :
    fractionText 0 decimals =
      if fractionDigits decimals = 0 then ""
      else "." ++ Numeral.zeros (fractionDigits decimals) := by
  have zeroDigits : (Numeral.padded microsecondDigits 0).toList = List.replicate 6 '0' := rfl
  have few : min (fractionDigits decimals) 6 = fractionDigits decimals :=
    Nat.min_eq_left (Nat.min_le_right _ _)
  by_cases declaresNone : decimals = 0
  · subst declaresNone
    rfl
  · have declared : fractionDigits decimals ≠ 0 := by
      simp only [fractionDigits, microsecondDigits]
      omega
    rw [fractionText, if_neg fun showsNothing => declaresNone showsNothing.1, if_neg declared]
    simp only [declaresNone, ↓reduceIte, zeroDigits, List.take_replicate, few, Numeral.zeros]

/--
Behind a text of zeros stands what is shown of no microseconds, so that values that are not
sent look like values of zeros, for every number of digits.
-/
theorem zeroWithFraction_eq
    (zero : String)
    (decimals : Nat) :
    zeroWithFraction zero decimals = zero ++ fractionText 0 decimals := by
  rw [zeroWithFraction, fractionText_zero]
  split
  · rw [String.append_empty]
  · rw [String.append_assoc]

/-- The text of no date-time is that of all zeros, for every number of digits. -/
theorem PackedDateTime.spelled_zeros (decimals : Nat) :
    spelled {} decimals = zeroWithFraction zeroDateTime decimals :=
  (zeroWithFraction_eq zeroDateTime decimals).symm

/-- The text of no date is that of all zeros. -/
theorem PackedDateTime.dateLiteral_zeros : dateLiteral {} = zeroDate :=
  rfl

/-- The text of a date is that of its parts, also when nothing is sent. -/
theorem PackedDateTime.textOfDate_eq (octets : Octets) :
    textOfDate octets = do return (← ofOctets octets).dateLiteral := by
  cases octets with
  | nil => exact congrArg Except.ok dateLiteral_zeros.symm
  | cons first behind => rfl

/-- The text of no duration is that of all zeros, for every number of digits. -/
theorem PackedDuration.literal_zeros (decimals : Nat) :
    literal {} decimals = zeroWithFraction zeroTime decimals :=
  (zeroWithFraction_eq zeroTime decimals).symm

-- A column may declare more digits than a fraction has.
example : zeroWithFraction zeroTime 9 = "00:00:00.000000" := by decide

/-- The text of a duration that is sent is that of its parts. -/
theorem PackedDuration.text_eq
    {octets : Octets}
    {packed : PackedDuration}
    (means : ofOctets octets = .ok packed) :
    text decimals octets = .ok (packed.literal decimals) := by
  cases octets with
  | nil => cases means
  | cons first behind =>
      exact congrArg (· >>= fun packed => Except.ok (packed.literal decimals)) means

end Texts

/-! ## Date-times -/

namespace PackedDateTime

/-- The characters behind the date and the blank. -/
def clockCharacters (packed : PackedDateTime) (decimals : Nat) : List Char :=
  (clockText packed.hour packed.minute packed.second).toList ++
    fractionSuffix (shownFraction packed.microseconds decimals)

variable {packed : PackedDateTime} {decimals : Nat}

theorem toList_spelled :
    (packed.spelled decimals).toList =
      packed.dateLiteral.toList ++ ' ' :: packed.clockCharacters decimals := by
  simp [spelled, clockCharacters, toList_fractionText]

theorem digitsOr_clockCharacters :
    Text.DigitsOr [':', '.'] (packed.clockCharacters decimals) :=
  digitsOr_clockText isDigit_shownFraction

/-- The text of the parts falls into the text of the date and the clock behind it. -/
theorem splitFirst_spelled :
    Text.splitFirst isTimeSeparator (Text.trim (packed.spelled decimals).toList) =
      (packed.dateLiteral.toList, some (packed.clockCharacters decimals)) := by
  rw [toList_spelled]
  exact splitFirst_dateText_clockText _ digitsOr_clockCharacters

/-- A date that is named by its parts is read from their text. -/
theorem parseDate_dateLiteral
    {result : Option Date}
    (means : packed.date = .ok result) :
    parseDate packed.dateLiteral = .ok result := by
  rw [dateLiteral, parseDate_dateText (fits_of_dateOfParts means)]
  exact means

/-- Parts name no date only if they are all zero. -/
theorem isZeroDate_of_date
    (means : packed.date = .ok none) :
    packed.isZeroDate = true := by
  obtain ⟨noYear, noMonth, noDay⟩ := zeros_of_dateOfParts means
  simp only [isZeroDate, Bool.and_eq_true, beq_iff_eq]
  omega

theorem not_isZeroDate_of_date
    {date : Date}
    (means : packed.date = .ok (some date)) :
    packed.isZeroDate = false := by
  rw [PackedDateTime.date, dateOfParts] at means
  split at means
  · cases means
  · rename_i notAllZero
    simp only [isZeroDate, Bool.and_eq_false_iff, beq_eq_false_iff_ne]
    omega

/-- Unless only the date is zero, the text of a date-time spells its parts. -/
theorem literal_eq_spelled
    (zeroAsWhole : packed.isZeroDate = true → packed = {})
    (decimals : Nat) :
    packed.literal decimals = packed.spelled decimals := by
  rw [literal]
  by_cases isZero : packed.isZeroDate = true
  · rw [if_pos isZero, zeroAsWhole isZero, spelled_zeros]
  · rw [if_neg isZero]

theorem literal_of_date
    {date : Date}
    (means : packed.date = .ok (some date))
    (decimals : Nat) :
    packed.literal decimals = packed.spelled decimals := by
  refine literal_eq_spelled (fun isZero => ?_) decimals
  cases isZero.symm.trans (not_isZeroDate_of_date means)

/-- A packed date-time is a date and a time of that day, or the date of all zeros. -/
theorem dateTime_cases
    {result : Option DateTime}
    (means : packed.dateTime = .ok result) :
    packed.date = .ok none ∧ result = none ∨
      ∃ date time,
        packed.date = .ok (some date) ∧
          TimeOfDay.ofMicroseconds? packed.hour packed.minute packed.second
              packed.microseconds =
            some time ∧
          result = some ⟨date, time⟩ := by
  rw [dateTime] at means
  cases isDate : packed.date with
  | error error =>
      rw [isDate] at means
      cases means
  | ok date? =>
      rw [isDate] at means
      cases date? with
      | none =>
          cases means
          exact .inl ⟨rfl, rfl⟩
      | some date =>
          cases isTime :
              TimeOfDay.ofMicroseconds? packed.hour packed.minute packed.second
                packed.microseconds with
          | none =>
              simp only [isTime, bind, Except.bind] at means
              cases means
          | some time =>
              simp only [isTime, bind, Except.bind] at means
              cases means
              exact .inr ⟨date, time, rfl, rfl, rfl⟩

/--
A date-time that its parts name is read from their text, with its fraction cut to the
digits that the column shows.
-/
theorem parseDateTime_literal
    {result : Option DateTime}
    (small : packed.microseconds < 10 ^ microsecondDigits)
    (means : packed.dateTime = .ok result) :
    parseDateTime (packed.literal decimals) =
      .ok (result.map (DateTime.cut (shownDigits decimals))) := by
  rcases dateTime_cases means with ⟨noDate, rfl⟩ | ⟨date, time, isDate, isTime, rfl⟩
  · have shown : packed.literal decimals = spelled {} decimals := by
      rw [literal, if_pos (isZeroDate_of_date noDate), spelled_zeros]
    have zeroDate : date {} = .ok none := rfl
    simp only [shown, parseDateTime, splitFirst_spelled, String.ofList_toList,
      parseDate_dateLiteral zeroDate, bind, Except.bind]
    rfl
  · rw [literal_of_date isDate]
    refine parseDateTime_of_toList toList_spelled isDigit_shownFraction
      (parseDate_dateLiteral isDate) ?_
    rw [fractionMicroseconds_shownFraction small,
      TimeOfDay.ofMicroseconds?_cutMicroseconds (shownDigits_le decimals) isTime]

end PackedDateTime

end ResultSet
