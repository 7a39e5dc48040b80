import ResultSet.Proofs.Calendar.Literal
import ResultSet.Proofs.Field.Interpretation
import ResultSet.Proofs.Number.Decimal

namespace ResultSet

/-!
# Dates in front of a time of day

A literal that spells a date-time is cut at its first blank or T, and the date is read from
what stands in front.  Read as a date, the same literal is not cut: its first three parts
are the date, whatever stands behind them.  Both readings come to the same date if they
come to any.  They do not split the literal alike, for the front part loses the blanks at
its ends once more; but such a blank would stand inside a numeral in the other reading.
-/

namespace Text

variable {isSeparator : Char → Bool} {characters before behind : List Char}

/-- Trimming takes blanks off both ends and nothing else. -/
theorem exists_trim_eq (characters : List Char) :
    ∃ front back,
      characters = front ++ trim characters ++ back ∧
        (∀ character ∈ front, isBlank character = true) ∧
        ∀ character ∈ back, isBlank character = true := by
  let shown := characters.dropWhile isBlank
  refine ⟨characters.takeWhile isBlank, (shown.reverse.takeWhile isBlank).reverse, ?_, ?_, ?_⟩
  · have ends : trim characters ++ (shown.reverse.takeWhile isBlank).reverse = shown := by
      rw [trim, ← List.reverse_append, List.takeWhile_append_dropWhile, List.reverse_reverse]
    rw [List.append_assoc, ends, List.takeWhile_append_dropWhile]
  · exact fun character member => List.mem_takeWhile_imp member
  · exact fun character member => List.mem_takeWhile_imp (List.mem_reverse.mp member)

/-- Characters that show nothing but blanks are none, if they stand where no blank does. -/
theorem eq_nil_of_blank
    (areBlank : ∀ character ∈ characters, isBlank character = true)
    (noneBlank : ∀ character ∈ characters, isBlank character = false) :
    characters = [] := by
  rw [List.eq_nil_iff_forall_not_mem]
  intro character member
  have isBlank := areBlank character member
  rw [noneBlank character member] at isBlank
  cases isBlank

/-- A literal has no separator, or it is split at its first one. -/
theorem splitFirst_cases
    (isSeparator : Char → Bool)
    (characters : List Char) :
    (∀ character ∈ characters, isSeparator character = false) ∧
        splitFirst isSeparator characters = (characters, none) ∨
      ∃ before separator behind,
        characters = before ++ separator :: behind ∧
          isSeparator separator = true ∧
          (∀ character ∈ before, isSeparator character = false) ∧
          splitFirst isSeparator characters = (before, some behind) := by
  induction characters with
  | nil => exact .inl ⟨List.forall_mem_nil _, rfl⟩
  | cons first rest inductionHypothesis =>
      cases isFirst : isSeparator first with
      | true =>
          have noneBefore := List.forall_mem_nil fun character => isSeparator character = false
          exact .inr ⟨[], first, rest, rfl, isFirst, noneBefore,
            splitFirst_append noneBefore isFirst⟩
      | false =>
          rcases inductionHypothesis with ⟨noneInside, -⟩ |
            ⟨before, separator, behind, rfl, isOne, noneBefore, -⟩
          · have noneHere : ∀ character ∈ first :: rest, isSeparator character = false :=
              List.forall_mem_cons.mpr ⟨isFirst, noneInside⟩
            exact .inl ⟨noneHere, splitFirst_of_forall noneHere⟩
          · have noneHere : ∀ character ∈ first :: before, isSeparator character = false :=
              List.forall_mem_cons.mpr ⟨isFirst, noneBefore⟩
            exact .inr ⟨first :: before, separator, behind, rfl, isOne, noneHere,
              splitFirst_append noneHere isOne⟩

/-- A literal is its first part and what begins with the first separator, if there is one. -/
theorem exists_eq_fst_append
    (isSeparator : Char → Bool)
    (characters : List Char) :
    ∃ behind,
      characters = (splitFirst isSeparator characters).1 ++ behind ∧
        (∀ character ∈ (splitFirst isSeparator characters).1, isSeparator character = false) ∧
        ∀ separator ∈ behind.head?, isSeparator separator = true := by
  rcases splitFirst_cases isSeparator characters with ⟨noneInside, whole⟩ |
    ⟨before, separator, behind, spelled, isOne, noneBefore, parts⟩
  · rw [whole]
    exact ⟨[], (List.append_nil characters).symm, noneInside, nofun⟩
  · rw [parts]
    refine ⟨separator :: behind, spelled, noneBefore, ?_⟩
    rintro _ ⟨⟩
    exact isOne

/-- What stands behind the first separator, or begins with one, does not change the first part. -/
theorem fst_splitFirst_append
    (ends : ∀ separator ∈ behind.head?, isSeparator separator = true) :
    (splitFirst isSeparator (characters ++ behind)).1 =
      (splitFirst isSeparator characters).1 := by
  rcases splitFirst_cases isSeparator characters with ⟨noneInside, whole⟩ |
    ⟨before, separator, rest, rfl, isOne, noneBefore, parts⟩
  · cases behind with
    | nil => rw [List.append_nil]
    | cons separator rest =>
        rw [splitFirst_append noneInside (ends separator rfl), whole]
  · rw [List.append_assoc, List.cons_append, splitFirst_append noneBefore isOne, parts]

end Text

namespace Numeral

variable {bits : Nat} {front back : List Char}

/-- A whole number has a sign in front of its digits at most. -/
theorem digitsOr_of_integer?
    {spelling : List Char}
    {number : Int}
    (spells : integer? spelling = some number) :
    Text.DigitsOr ['-', '+'] spelling := by
  obtain ⟨literal, rfl, -⟩ := WholeLiteral.exists_of_integer? spells
  have digits : Text.DigitsOr ['-', '+'] literal.digits := .of_digits literal.areDigits
  have sign : Text.DigitsOr ['-', '+'] literal.sign.characters := by
    cases literal.sign with
    | absent => exact .of_digits (by simp [LiteralSign.characters])
    | minus => exact .cons (by simp) (.of_digits (by simp))
    | plus => exact .cons (by simp) (.of_digits (by simp))
  exact sign.append digits

/-- No blank stands in a whole number. -/
theorem noneBlank_of_integer?
    {spelling : List Char}
    {number : Int}
    (spells : integer? spelling = some number) :
    ∀ character ∈ spelling, Text.isBlank character = false :=
  (digitsOr_of_integer? spells).noneBlank (by decide)

/-- A number that is read without a sign is read as the same number where a sign may stand. -/
theorem integer?_of_unsigned?
    {spelling : List Char}
    {number : Nat}
    (spells : unsigned? spelling = some number) :
    integer? spelling = some (number : Int) := by
  rw [unsigned?.eq_def] at spells
  split at spells
  · rw [integer?, signed?, spells]
    rfl
  · exact integer?_of_natural? spells

/-- Blanks in front of a number are none. -/
theorem eq_nil_of_signedWithin?
    {number : Int}
    (areBlank : ∀ character ∈ front, Text.isBlank character = true)
    (spells : signedWithin? bits (front ++ back) = some number) :
    front = [] := by
  obtain ⟨whole, -⟩ := Option.filter_eq_some_iff.mp spells
  exact Text.eq_nil_of_blank areBlank fun character member =>
    noneBlank_of_integer? whole character (List.mem_append_left back member)

/-- Blanks behind a number are none. -/
theorem eq_nil_of_unsignedWithin?
    {number : Nat}
    (areBlank : ∀ character ∈ back, Text.isBlank character = true)
    (spells : unsignedWithin? bits (front ++ back) = some number) :
    back = [] := by
  obtain ⟨whole, -⟩ := Option.filter_eq_some_iff.mp spells
  exact Text.eq_nil_of_blank areBlank fun character member =>
    noneBlank_of_integer? (integer?_of_unsigned? whole) character
      (List.mem_append_right front member)

end Numeral

/-! ## The parts of a date -/

section Parts

variable {characters yearPart monthPart dayPart behind : List Char} {first second : Char}

/-- A literal with the parts of a date has two separators at least. -/
theorem exists_of_dateParts?
    {parts : Int × Nat × Nat}
    (spells : dateParts? characters = some parts) :
    ∃ yearPart first monthPart second behind,
      characters = yearPart ++ first :: (monthPart ++ second :: behind) ∧
        (∀ character ∈ yearPart, isDateSeparator character = false) ∧
        isDateSeparator first = true ∧
        (∀ character ∈ monthPart, isDateSeparator character = false) ∧
        isDateSeparator second = true := by
  rcases Text.splitFirst_cases isDateSeparator characters with ⟨-, whole⟩ |
    ⟨yearPart, first, afterYear, rfl, isFirst, noneInYear, yearSplits⟩
  · simp [dateParts?, whole] at spells
  · rcases Text.splitFirst_cases isDateSeparator afterYear with ⟨-, whole⟩ |
      ⟨monthPart, second, behind, rfl, isSecond, noneInMonth, -⟩
    · simp [dateParts?, yearSplits, whole] at spells
    · exact ⟨yearPart, first, monthPart, second, behind, rfl, noneInYear, isFirst,
        noneInMonth, isSecond⟩

/-- The front part of a literal has no separator of dates but dashes. -/
theorem noDateSeparator_of_blank
    {character : Char}
    (isBlank : Text.isBlank character = true)
    (noTimeSeparator : isTimeSeparator character = false) :
    isDateSeparator character = false := by
  have noDash : character ≠ '-' := by
    rintro rfl
    exact absurd isBlank (by decide)
  simp only [isTimeSeparator, Bool.or_eq_false_iff] at noTimeSeparator
  simp only [isDateSeparator, Bool.or_eq_false_iff, beq_eq_false_iff_ne]
  exact ⟨⟨noDash, by simpa using noTimeSeparator.1⟩, by simpa using noTimeSeparator.2⟩

/--
A date in front of a time of day has the parts that the whole literal has, also without the
blanks at its ends.
-/
theorem dateParts?_eq_of_front
    {front time : List Char}
    {parts others : Int × Nat × Nat}
    (noTime : ∀ character ∈ front, isTimeSeparator character = false)
    (ends : ∀ separator ∈ time.head?, isDateSeparator separator = true)
    (whole : dateParts? (front ++ time) = some parts)
    (alone : dateParts? (Text.trim front) = some others) :
    parts = others := by
  obtain ⟨before, after, surrounded, beforeBlank, afterBlank⟩ := Text.exists_trim_eq front
  have noneBefore : ∀ character ∈ before, isDateSeparator character = false :=
    fun character member => noDateSeparator_of_blank (beforeBlank character member)
      (noTime character (by rw [surrounded]; simp [member]))
  have noneAfter : ∀ character ∈ after, isDateSeparator character = false :=
    fun character member => noDateSeparator_of_blank (afterBlank character member)
      (noTime character (by rw [surrounded]; simp [member]))
  obtain ⟨yearPart, first, monthPart, second, behind, trimmed, noneInYear, isFirst,
    noneInMonth, isSecond⟩ := exists_of_dateParts? alone
  rw [trimmed, dateParts?_append noneInYear isFirst noneInMonth isSecond] at alone
  have regrouped :
      front ++ time =
        before ++ yearPart ++ first :: (monthPart ++ second :: (behind ++ after ++ time)) := by
    rw [surrounded, trimmed]
    simp
  have noneInFront : ∀ character ∈ before ++ yearPart, isDateSeparator character = false :=
    List.forall_mem_append.mpr ⟨noneBefore, noneInYear⟩
  rw [regrouped, dateParts?_append noneInFront isFirst noneInMonth isSecond,
    Text.fst_splitFirst_append ends] at whole
  obtain ⟨year, -, day⟩ := partNumbers?_eq_some_iff.mp whole
  have nothingBefore : before = [] := Numeral.eq_nil_of_signedWithin? beforeBlank year
  have sameDay :
      (Text.splitFirst isDateSeparator (behind ++ after)).1 =
        (Text.splitFirst isDateSeparator behind).1 := by
    rcases Text.splitFirst_cases isDateSeparator behind with ⟨noneInside, -⟩ |
      ⟨dayPart, third, rest, rfl, isThird, noneInDay, parts⟩
    · have noneInBoth : ∀ character ∈ behind ++ after, isDateSeparator character = false :=
        List.forall_mem_append.mpr ⟨noneInside, noneAfter⟩
      rw [Text.splitFirst_of_forall noneInBoth] at day
      have nothingAfter : after = [] := Numeral.eq_nil_of_unsignedWithin? afterBlank day
      rw [nothingAfter, List.append_nil]
    · rw [List.append_assoc, List.cons_append, Text.splitFirst_append noneInDay isThird, parts]
  rw [nothingBefore, List.nil_append, sameDay, alone] at whole
  exact Option.some.inj whole.symm

end Parts

/-! ## Both readings of a literal -/

theorem exists_dateParts?_of_parseDate
    {literal : String}
    {day : Option Date}
    (reads : parseDate literal = .ok day) :
    ∃ parts,
      dateParts? (Text.trim literal.toList) = some parts ∧
        dateOfParts parts.1 parts.2.1 parts.2.2 = .ok day := by
  rw [parseDate] at reads
  split at reads
  · rename_i spells
    exact ⟨_, spells, reads⟩
  · cases reads

/-- The date of a date-time is what the part in front of the time of day is read as. -/
theorem parseDate_front_of_parseDateTime
    {literal : String}
    {moment : Option DateTime}
    (reads : parseDateTime literal = .ok moment) :
    parseDate (String.ofList (Text.splitFirst isTimeSeparator (Text.trim literal.toList)).1) =
      .ok (moment.map DateTime.date) := by
  rw [parseDateTime] at reads
  generalize Text.splitFirst isTimeSeparator (Text.trim literal.toList) = parts at reads ⊢
  obtain ⟨day, named, behind⟩ := exists_of_bind_eq_ok reads
  rw [named]
  split at behind
  · cases behind
    rfl
  · cases behind
    rfl
  · split at behind
    · cases behind
      rfl
    · cases behind

/-- A literal that is read as a date and as a date-time has one date. -/
theorem date_of_parseDateTime
    {literal : String}
    {day : Option Date}
    {moment : Option DateTime}
    (readsDay : parseDate literal = .ok day)
    (readsMoment : parseDateTime literal = .ok moment) :
    day = moment.map DateTime.date := by
  obtain ⟨time, spelled, noTime, ends⟩ :=
    Text.exists_eq_fst_append isTimeSeparator (Text.trim literal.toList)
  obtain ⟨parts, whole, isDay⟩ := exists_dateParts?_of_parseDate readsDay
  obtain ⟨others, alone, isDate⟩ :=
    exists_dateParts?_of_parseDate (parseDate_front_of_parseDateTime readsMoment)
  rw [String.toList_ofList] at alone
  rw [spelled] at whole
  have dateEnds : ∀ separator ∈ time.head?, isDateSeparator separator = true := by
    intro separator isHead
    have isTime := ends separator isHead
    simp only [isTimeSeparator, Bool.or_eq_true] at isTime
    simp only [isDateSeparator, Bool.or_eq_true, or_assoc]
    exact .inr isTime
  have sameParts := dateParts?_eq_of_front noTime dateEnds whole alone
  rw [sameParts, isDate] at isDay
  exact (Except.ok.inj isDay).symm

end ResultSet
