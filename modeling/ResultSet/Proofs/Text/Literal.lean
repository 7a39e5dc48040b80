import Mathlib.Data.List.TakeWhile
import ResultSet.Proofs.Number.Positional
import ResultSet.Text.Literal

namespace ResultSet

/-!
# Numerals read back

Digits spell the number that they were written for, also behind zeros.  Where a
sign or grouping is allowed, a string of digits still means what it spells, so
that every reader of numerals gives the number back that was written.
-/

namespace Text

theorem isBlank_of_isDigit
    {character : Char}
    (isDigit : character.isDigit = true) :
    isBlank character = false := by
  simp only [Char.isDigit, Bool.and_eq_true, decide_eq_true_eq] at isDigit
  have from0 : 48 ≤ character.toNat := UInt32.le_iff_toNat_le.mp isDigit.1
  have upTo9 : character.toNat ≤ 57 := UInt32.le_iff_toNat_le.mp isDigit.2
  simp only [isBlank, Bool.or_eq_false_iff, Bool.and_eq_false_iff, decide_eq_false_iff_not,
    beq_eq_false_iff_ne]
  omega

theorem dropWhile_isBlank_of_head
    {characters : List Char}
    (headShows : ∀ character ∈ characters.head?, isBlank character = false) :
    characters.dropWhile isBlank = characters := by
  cases characters with
  | nil => rfl
  | cons first rest =>
      have firstShows : isBlank first = false := headShows first rfl
      simp [firstShows]

/-- A literal without blanks at its ends stays as it is. -/
theorem trim_of_ends
    {characters : List Char}
    (headShows : ∀ character ∈ characters.head?, isBlank character = false)
    (lastShows : ∀ character ∈ characters.getLast?, isBlank character = false) :
    trim characters = characters := by
  rw [← List.head?_reverse] at lastShows
  rw [trim, dropWhile_isBlank_of_head headShows, dropWhile_isBlank_of_head lastShows,
    List.reverse_reverse]

/-- A literal without any blank stays as it is. -/
theorem trim_of_forall
    {characters : List Char}
    (allShow : ∀ character ∈ characters, isBlank character = false) :
    trim characters = characters :=
  trim_of_ends
    (fun character isHead => allShow character (List.mem_of_head? isHead))
    (fun character isLast => allShow character (List.mem_of_getLast? isLast))

/-- Blanks around a literal do not change what is left of it. -/
theorem trim_surrounded
    {front back : List Char}
    (frontBlank : ∀ character ∈ front, isBlank character = true)
    (backBlank : ∀ character ∈ back, isBlank character = true)
    (characters : List Char) :
    trim (front ++ characters ++ back) = trim characters := by
  have backReversed : ∀ character ∈ back.reverse, isBlank character = true :=
    fun character member => backBlank character (List.mem_reverse.mp member)
  rw [trim, trim, List.append_assoc, List.dropWhile_append_of_pos frontBlank,
    List.dropWhile_append]
  split
  · rename_i allBlank
    rw [List.isEmpty_iff] at allBlank
    rw [allBlank, List.dropWhile_eq_nil_iff.mpr backBlank]
  · rw [List.reverse_append, List.dropWhile_append_of_pos backReversed]

/-- Blanks between parts without blanks stay. -/
theorem trim_joined
    {front between back : List Char}
    (frontShows : ∀ character ∈ front, isBlank character = false)
    (backShows : ∀ character ∈ back, isBlank character = false)
    (nonempty : front ≠ [] ∧ back ≠ []) :
    trim (front ++ between ++ back) = front ++ between ++ back := by
  apply trim_of_ends
  · intro character isHead
    rw [List.append_assoc, List.head?_append, List.head?_eq_some_head nonempty.1,
      Option.some_or] at isHead
    cases isHead
    exact frontShows _ (List.head_mem nonempty.1)
  · intro character isLast
    rw [List.getLast?_append, List.getLast?_eq_some_getLast nonempty.2,
      Option.some_or] at isLast
    cases isLast
    exact backShows _ (List.getLast_mem nonempty.2)

/-! ## Digits and marks -/

/-- Whether all characters are digits or among some marks. -/
def DigitsOr (marks characters : List Char) : Prop :=
  ∀ character ∈ characters, character ∈ marks ∨ character.isDigit = true

namespace DigitsOr

variable {marks characters front back : List Char}

theorem of_digits (areDigits : ∀ digit ∈ characters, digit.isDigit = true) :
    DigitsOr marks characters :=
  fun digit member => .inr (areDigits digit member)

theorem append
    (frontSpelled : DigitsOr marks front)
    (backSpelled : DigitsOr marks back) :
    DigitsOr marks (front ++ back) := by
  intro character member
  rcases List.mem_append.mp member with inFront | inBack
  · exact frontSpelled character inFront
  · exact backSpelled character inBack

theorem mono
    {others : List Char}
    (spelled : DigitsOr marks characters)
    (fewer : marks ⊆ others) :
    DigitsOr others characters :=
  fun character member => (spelled character member).imp_left fun isMark => fewer isMark

theorem cons
    {mark : Char}
    (isMark : mark ∈ marks)
    (spelled : DigitsOr marks characters) :
    DigitsOr marks (mark :: characters) := by
  intro character member
  rcases List.mem_cons.mp member with rfl | inRest
  · exact .inl isMark
  · exact spelled character inRest

/-- What holds of every digit and of the marks holds of all characters. -/
theorem holds
    {property : Char → Prop}
    (spelled : DigitsOr marks characters)
    (ofMark : ∀ mark ∈ marks, property mark)
    (ofDigit : ∀ digit, digit.isDigit = true → property digit) :
    ∀ character ∈ characters, property character := by
  intro character member
  rcases spelled character member with isMark | isDigit
  · exact ofMark character isMark
  · exact ofDigit character isDigit

/-- Characters of a kind to which neither the digits nor the marks belong do not occur. -/
theorem noneOf
    {isOther : Char → Bool}
    (spelled : DigitsOr marks characters)
    (noMark : marks.any isOther = false)
    (noDigit : ∀ digit, digit.isDigit = true → isOther digit = false) :
    ∀ character ∈ characters, isOther character = false :=
  spelled.holds
    (fun mark isMark => Bool.eq_false_iff.mpr (List.any_eq_false.mp noMark mark isMark)) noDigit

theorem noneBlank
    (spelled : DigitsOr marks characters)
    (marksShow : marks.any isBlank = false) :
    ∀ character ∈ characters, isBlank character = false :=
  spelled.noneOf marksShow fun _ => isBlank_of_isDigit

theorem trim_eq
    (spelled : DigitsOr marks characters)
    (marksShow : marks.any isBlank = false) :
    trim characters = characters :=
  trim_of_forall (spelled.noneBlank marksShow)

end DigitsOr

end Text

/-- Whether no digit is a separator of some kind. -/
def SeparatesNumerals (isSeparator : Char → Bool) : Prop :=
  ∀ digit : Char, digit.isDigit = true → isSeparator digit = false

theorem separatesNumerals_of_eq
    {separator : Char}
    (isNoDigit : separator.isDigit = false) :
    SeparatesNumerals (· == separator) := by
  intro digit isDigit
  rw [beq_eq_false_iff_ne]
  rintro rfl
  rw [isNoDigit] at isDigit
  cases isDigit

theorem SeparatesNumerals.or
    {first second : Char → Bool}
    (firstSeparates : SeparatesNumerals first)
    (secondSeparates : SeparatesNumerals second) :
    SeparatesNumerals fun character => first character || second character :=
  fun digit isDigit =>
    Bool.or_eq_false_iff.mpr ⟨firstSeparates digit isDigit, secondSeparates digit isDigit⟩

namespace Numeral

/-! ## What digits spell -/

theorem value_append (front back : List Char) :
    value (front ++ back) = value front * 10 ^ back.length + value back := by
  simp only [value, Positional.value_eq_spelled, List.map_append]
  rw [Positional.spelled_append, List.length_map]

theorem value_singleton (digit : Char) : value [digit] = digitValue digit := by
  simp [value, Positional.value_eq_spelled, Positional.spelled]

theorem value_cons (first : Char) (rest : List Char) :
    value (first :: rest) = digitValue first * 10 ^ rest.length + value rest := by
  rw [← List.singleton_append, value_append, value_singleton]

theorem value_replicate_zero (count : Nat) :
    value (List.replicate count '0') = 0 := by
  induction count with
  | zero => rfl
  | succ count inductionHypothesis =>
      rw [List.replicate_succ', value_append, inductionHypothesis]
      rfl

theorem value_digits (number : Nat) : value (digits number) = number := by
  rw [value_eq_ofDigitChars, digits_eq_toDigits, Nat.ofDigitChars_ten_toDigits]

theorem digitValue_lt
    {digit : Char}
    (isDigit : digit.isDigit = true) :
    digitValue digit < 10 := by
  simp only [Char.isDigit, Bool.and_eq_true, decide_eq_true_eq] at isDigit
  have upTo9 : digit.toNat ≤ 57 := UInt32.le_iff_toNat_le.mp isDigit.2
  have zero : '0'.toNat = 48 := rfl
  rw [digitValue, zero]
  omega

/-- So many digits spell a number of so many places. -/
theorem value_lt
    {spelling : List Char}
    (areDigits : ∀ digit ∈ spelling, digit.isDigit = true) :
    value spelling < 10 ^ spelling.length := by
  induction spelling with
  | nil => simp [value, Positional.value_eq_spelled, Positional.spelled]
  | cons first rest inductionHypothesis =>
      have firstSmall := digitValue_lt (areDigits first List.mem_cons_self)
      have restSmall := inductionHypothesis fun digit member =>
        areDigits digit (List.mem_cons_of_mem first member)
      rw [value_cons, List.length_cons, Nat.pow_succ]
      calc
        digitValue first * 10 ^ rest.length + value rest
            < digitValue first * 10 ^ rest.length + 10 ^ rest.length :=
          Nat.add_lt_add_left restSmall _
        _ = (digitValue first + 1) * 10 ^ rest.length := by rw [Nat.succ_mul]
        _ ≤ 10 * 10 ^ rest.length := Nat.mul_le_mul_right _ firstSmall
        _ = 10 ^ rest.length * 10 := Nat.mul_comm _ _

theorem digitValue_inj
    {first second : Char}
    (firstIsDigit : first.isDigit = true)
    (secondIsDigit : second.isDigit = true)
    (same : digitValue first = digitValue second) :
    first = second := by
  simp only [Char.isDigit, Bool.and_eq_true, decide_eq_true_eq] at firstIsDigit secondIsDigit
  have firstFrom0 : 48 ≤ first.toNat := UInt32.le_iff_toNat_le.mp firstIsDigit.1
  have secondFrom0 : 48 ≤ second.toNat := UInt32.le_iff_toNat_le.mp secondIsDigit.1
  have zero : '0'.toNat = 48 := rfl
  rw [digitValue, digitValue, zero] at same
  exact Char.toNat_inj.mp (by omega)

/-- As many digits spell the same number only if they are the same. -/
theorem value_inj_of_length_eq
    {first second : List Char}
    (firstAreDigits : ∀ digit ∈ first, digit.isDigit = true)
    (secondAreDigits : ∀ digit ∈ second, digit.isDigit = true)
    (sameLength : first.length = second.length) :
    value first = value second ↔ first = second := by
  have small {spelling : List Char} (areDigits : ∀ digit ∈ spelling, digit.isDigit = true) :
      ∀ number ∈ spelling.map digitValue, number < 10 := by
    intro number member
    obtain ⟨digit, inSpelling, rfl⟩ := List.mem_map.mp member
    exact digitValue_lt (areDigits digit inSpelling)
  refine ⟨fun same => ?_, congrArg value⟩
  rw [value, value, Positional.value_eq_spelled, Positional.value_eq_spelled,
    Positional.spelled_inj_of_length_eq (by decide) (small firstAreDigits)
      (small secondAreDigits) (by simp [sameLength])] at same
  refine List.ext_getElem sameLength fun index inFirst inSecond => ?_
  refine digitValue_inj (firstAreDigits _ (List.getElem_mem inFirst))
    (secondAreDigits _ (List.getElem_mem inSecond)) ?_
  simpa [inFirst, inSecond] using congrArg (·[index]?) same

/-- The first digits spell what is left when the places behind them are dropped. -/
theorem value_take
    {spelling : List Char}
    (areDigits : ∀ digit ∈ spelling, digit.isDigit = true)
    (count : Nat) :
    value (spelling.take count) = value spelling / 10 ^ (spelling.length - count) := by
  have droppedSmall : value (spelling.drop count) < 10 ^ (spelling.drop count).length :=
    value_lt fun digit member => areDigits digit (List.mem_of_mem_drop member)
  have powerPositive : 0 < 10 ^ (spelling.drop count).length := Nat.pow_pos (by decide)
  have whole := value_append (spelling.take count) (spelling.drop count)
  rw [List.take_append_drop] at whole
  rw [whole, ← List.length_drop, Nat.add_comm, Nat.add_mul_div_right _ _ powerPositive,
    Nat.div_eq_of_lt droppedSmall, Nat.zero_add]

/-! ## Readers of numerals -/

/-- A numeral is one or more digits, and it stands for what they spell. -/
theorem natural?_eq_some_iff
    {spelling : List Char}
    {number : Nat} :
    natural? spelling = some number ↔
      spelling ≠ [] ∧ (∀ digit ∈ spelling, digit.isDigit = true) ∧
        value spelling = number := by
  simp only [natural?, Option.ite_none_right_eq_some, List.isEmpty_eq_false_iff,
    List.all_eq_true, Option.some.injEq, and_assoc]

theorem isDigit_of_natural?
    {spelling : List Char}
    {number : Nat}
    (spells : natural? spelling = some number) :
    ∀ digit ∈ spelling, digit.isDigit = true :=
  (natural?_eq_some_iff.mp spells).2.1

/-- Where a sign may stand, digits are read by the rule for the numeral itself. -/
theorem signed?_of_isDigit
    {magnitude? : List Char → Option Nat}
    {spelling : List Char}
    (areDigits : ∀ digit ∈ spelling, digit.isDigit = true) :
    signed? magnitude? spelling = (magnitude? spelling).map Int.ofNat := by
  rw [signed?.eq_def]
  split
  · exact absurd (areDigits '-' List.mem_cons_self) (by decide)
  · exact absurd (areDigits '+' List.mem_cons_self) (by decide)
  · cases magnitude? spelling <;> rfl

theorem integer?_of_natural?
    {spelling : List Char}
    {number : Nat}
    (spells : natural? spelling = some number) :
    integer? spelling = some (number : Int) := by
  rw [integer?, signed?_of_isDigit (isDigit_of_natural? spells), spells]
  rfl

theorem unsigned?_of_natural?
    {spelling : List Char}
    {number : Nat}
    (spells : natural? spelling = some number) :
    unsigned? spelling = some number := by
  rw [unsigned?.eq_def]
  split
  · exact absurd (isDigit_of_natural? spells '+' List.mem_cons_self) (by decide)
  · exact spells

theorem signedWithin?_of_natural?
    {bits number : Nat}
    {spelling : List Char}
    (spells : natural? spelling = some number) :
    signedWithin? bits spelling =
      if fitsSigned bits number then some (number : Int) else none := by
  rw [signedWithin?, integer?_of_natural? spells, Option.filter_some]

theorem unsignedWithin?_of_natural?
    {bits number : Nat}
    {spelling : List Char}
    (spells : natural? spelling = some number) :
    unsignedWithin? bits spelling = if number < 2 ^ bits then some number else none := by
  rw [unsignedWithin?, unsigned?_of_natural? spells, Option.filter_some]
  simp only [decide_eq_true_eq]

/-- Digits among which no underscore stands mean what they spell. -/
theorem groupedDigits?_of_natural?
    {spelling : List Char}
    {number : Nat}
    (spells : natural? spelling = some number) :
    groupedDigits? spelling = some number := by
  obtain ⟨nonempty, areDigits, means⟩ := natural?_eq_some_iff.mp spells
  have allowed :
      spelling.all (fun character => character.isDigit || character == '_') = true :=
    List.all_eq_true.mpr fun digit member => by simp [areDigits digit member]
  rw [groupedDigits?.eq_def, if_pos allowed]
  split
  · exact absurd rfl nonempty
  · exact absurd (areDigits '_' List.mem_cons_self) (by decide)
  · rw [List.filter_eq_self.mpr areDigits, means]

/-! ## Writers of numerals -/

theorem natural?_digits (number : Nat) : natural? (digits number) = some number := by
  refine natural?_eq_some_iff.mpr ⟨?_, fun digit member => ?_, value_digits number⟩
  · rw [digits_eq_toDigits]
    exact Nat.toDigits_ne_nil
  · rw [digits_eq_toDigits] at member
    exact Nat.isDigit_of_mem_toDigits (by decide) (by decide) member

/-- A number has so many digits at most when it is below the power of ten for them. -/
theorem length_digits_le_iff
    {places number : Nat}
    (positive : 0 < places) :
    (digits number).length ≤ places ↔ number < 10 ^ places := by
  rw [digits_eq_toDigits]
  exact Nat.length_toDigits_le_iff (by decide) positive

/-- From a power of ten up to the next one, a number has one digit more than the exponent. -/
theorem length_digits
    {places number : Nat}
    (positive : 0 < places)
    (atLeast : 10 ^ places ≤ number)
    (below : number < 10 ^ (places + 1)) :
    (digits number).length = places + 1 := by
  have many : ¬ (digits number).length ≤ places := fun few =>
    Nat.not_lt.mpr atLeast ((length_digits_le_iff positive).mp few)
  have few : (digits number).length ≤ places + 1 :=
    (length_digits_le_iff (Nat.succ_pos places)).mpr below
  omega

theorem toList_padded (width number : Nat) :
    (padded width number).toList =
      List.replicate (width - (digits number).length) '0' ++ digits number := by
  simp [padded, zeros, ofNat]

/-- Zeros in front of a numeral do not change what it spells. -/
theorem natural?_padded (width number : Nat) :
    natural? (padded width number).toList = some number := by
  obtain ⟨nonempty, areDigits, means⟩ := natural?_eq_some_iff.mp (natural?_digits number)
  rw [toList_padded]
  refine natural?_eq_some_iff.mpr ⟨by simp [nonempty], fun digit member => ?_, ?_⟩
  · rcases List.mem_append.mp member with isZero | isDigit
    · rw [List.eq_of_mem_replicate isZero]
      rfl
    · exact areDigits digit isDigit
  · rw [value_append, value_replicate_zero, Nat.zero_mul, Nat.zero_add, means]

theorem value_padded (width number : Nat) : value (padded width number).toList = number :=
  (natural?_eq_some_iff.mp (natural?_padded width number)).2.2

theorem isDigit_padded (width number : Nat) :
    ∀ digit ∈ (padded width number).toList, digit.isDigit = true :=
  isDigit_of_natural? (natural?_padded width number)

/-- A number of at most so many places is written in just so many characters. -/
theorem length_padded
    {width number : Nat}
    (positive : 0 < width)
    (small : number < 10 ^ width) :
    (padded width number).toList.length = width := by
  have fits : (digits number).length ≤ width := (length_digits_le_iff positive).mpr small
  rw [toList_padded, List.length_append, List.length_replicate, Nat.sub_add_cancel fits]

theorem paddedInt_natCast (width number : Nat) :
    paddedInt width (number : Int) = padded width number := by
  rw [paddedInt, if_neg (by omega), Int.natAbs_natCast]

theorem toList_ofInt_of_neg
    {number : Int}
    (negative : number < 0) :
    (ofInt number).toList = '-' :: digits number.natAbs := by
  simp [ofInt, negative, ofNat]

theorem toList_ofInt_of_nonneg
    {number : Int}
    (nonnegative : 0 ≤ number) :
    (ofInt number).toList = digits number.natAbs := by
  simp [ofInt, Int.not_lt.mpr nonnegative, ofNat]

/-- A written whole number is read back by every rule that reads its digits. -/
theorem signed?_ofInt
    {magnitude? : List Char → Option Nat}
    (reads : ∀ magnitude, magnitude? (digits magnitude) = some magnitude)
    (number : Int) :
    signed? magnitude? (ofInt number).toList = some number := by
  by_cases negative : number < 0
  · have negated : -(number.natAbs : Int) = number := by omega
    rw [toList_ofInt_of_neg negative, signed?, reads]
    exact congrArg some negated
  · have nonnegative : 0 ≤ number := Int.not_lt.mp negative
    have same : Int.ofNat number.natAbs = number := Int.natAbs_of_nonneg nonnegative
    rw [toList_ofInt_of_nonneg nonnegative,
      signed?_of_isDigit (isDigit_of_natural? (natural?_digits _)), reads, Option.map_some,
      same]

/-- A written whole number is digits, but for a minus sign in front. -/
theorem digitsOr_ofInt (number : Int) : Text.DigitsOr ['-'] (ofInt number).toList := by
  have magnitude : Text.DigitsOr ['-'] (digits number.natAbs) :=
    .of_digits (isDigit_of_natural? (natural?_digits number.natAbs))
  by_cases negative : number < 0
  · rw [toList_ofInt_of_neg negative]
    exact .cons List.mem_cons_self magnitude
  · rw [toList_ofInt_of_nonneg (Int.not_lt.mp negative)]
    exact magnitude

theorem signedWithin?_ofInt
    {bits : Nat}
    {number : Int}
    (fits : fitsSigned bits number = true) :
    signedWithin? bits (ofInt number).toList = some number := by
  rw [signedWithin?, integer?, signed?_ofInt natural?_digits, Option.filter_some, if_pos fits]

theorem groupedInteger?_ofInt (number : Int) :
    groupedInteger? (ofInt number).toList = some number :=
  signed?_ofInt (fun magnitude => groupedDigits?_of_natural? (natural?_digits magnitude)) number

end Numeral

end ResultSet
