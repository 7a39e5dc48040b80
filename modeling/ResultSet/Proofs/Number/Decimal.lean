import Mathlib.Data.List.TakeWhile
import ResultSet.Number.Decimal
import ResultSet.Proofs.Text.Literal
import ResultSet.Text.Literal

namespace ResultSet

/-!
# Literals of decimal fractions and of whole numbers

A literal of a decimal fraction is an optional sign and digits, among which a point may
stand.  It spells its digits as one whole number, of which those behind the point are
counted.  Dropping so many digits again leaves what the digits before the point spell, with
the sign of the literal: truncation goes toward zero.

A literal of a whole number is an optional sign and one or more digits, of which there may
be any number.  Whole numbers are read from just these literals.  Each of them is a literal
of a decimal fraction, too, and denotes the same number there.
-/

/-! ## Signs -/

/-- What may stand in front of the digits of a literal. -/
inductive LiteralSign where
  | absent
  | plus
  | minus
  deriving Repr, DecidableEq

namespace LiteralSign

/-- The characters of a sign. -/
def characters : LiteralSign → List Char
  | absent => []
  | plus => ['+']
  | minus => ['-']

/-- The number of a magnitude behind a sign. -/
def apply (magnitude : Nat) : LiteralSign → Int
  | absent | plus => magnitude
  | minus => -magnitude

theorem digitsOr_characters (sign : LiteralSign) :
    Text.DigitsOr ['+', '-'] sign.characters := by
  cases sign with
  | absent => exact .of_digits (List.forall_mem_nil _)
  | plus => exact .cons (by decide) (.of_digits (List.forall_mem_nil _))
  | minus => exact .cons (by decide) (.of_digits (List.forall_mem_nil _))

/-- Dropping places of a number is dropping places of its magnitude. -/
theorem tdiv_apply
    (sign : LiteralSign)
    (magnitude divisor : Nat) :
    (sign.apply magnitude).tdiv divisor = sign.apply (magnitude / divisor) := by
  cases sign with
  | absent => exact (Int.ofNat_tdiv magnitude divisor).symm
  | plus => exact (Int.ofNat_tdiv magnitude divisor).symm
  | minus => rw [apply, apply, Int.neg_tdiv, Int.ofNat_tdiv]

end LiteralSign

/-- Behind a sign, digits are read by the rule for the numeral itself. -/
theorem Numeral.signed?_characters_append
    {spelling : List Char}
    (sign : LiteralSign)
    (areDigits : ∀ digit ∈ spelling, digit.isDigit = true)
    (magnitude? : List Char → Option Nat) :
    signed? magnitude? (sign.characters ++ spelling) =
      (magnitude? spelling).map sign.apply := by
  cases sign with
  | absent => exact signed?_of_isDigit areDigits
  | plus =>
      rw [LiteralSign.characters, List.singleton_append, signed?]
      cases magnitude? spelling <;> rfl
  | minus =>
      rw [LiteralSign.characters, List.singleton_append, signed?]
      cases magnitude? spelling <;> rfl

namespace Decimal

/-! ## Literals without exponent -/

theorem separatesNumerals_isExponentMark : SeparatesNumerals isExponentMark :=
  (separatesNumerals_of_eq rfl).or (separatesNumerals_of_eq rfl)

/-- A literal without exponent is split at its point and spells its digits as one number. -/
theorem ofLiteral?_of_splitFirst
    {characters whole : List Char}
    {fraction : Option (List Char)}
    {unscaled : Int}
    (noExponent : ∀ character ∈ characters, isExponentMark character = false)
    (splits : Text.splitFirst (· == '.') characters = (whole, fraction))
    (spells : Numeral.groupedInteger? (whole ++ fraction.getD []) = some unscaled)
    (areDigits : ∀ digit ∈ fraction.getD [], digit.isDigit = true)
    (scaleFits : Numeral.fitsSigned 64 (fraction.getD []).length = true) :
    ofLiteral? characters = some ⟨unscaled, (fraction.getD []).length⟩ := by
  have base :
      characters.takeWhile (fun character => !isExponentMark character) = characters :=
    List.takeWhile_eq_self_iff.mpr fun character member => by
      simp [noExponent character member]
  have exponent : literalExponent? characters = some 0 := by
    have nothingBehind :
        characters.dropWhile (fun character => !isExponentMark character) = [] :=
      List.dropWhile_eq_nil_iff.mpr fun character member => by
        simp [noExponent character member]
    rw [literalExponent?, nothingBehind]
  obtain ⟨before, behind⟩ := Prod.mk.inj splits
  have isWhole : characters.takeWhile (· != '.') = whole := before
  have isFraction : (characters.dropWhile (· != '.')).drop 1 = fraction.getD [] := by
    rw [← behind]
    change _ = (characters.dropWhile (· != '.')).tail?.getD []
    cases characters.dropWhile (· != '.') <;> rfl
  have counted : (fraction.getD []).countP (· != '_') = (fraction.getD []).length := by
    rw [List.countP_eq_length]
    intro digit member
    have noUnderscore : SeparatesNumerals (· == '_') := separatesNumerals_of_eq rfl
    simp [bne, noUnderscore digit (areDigits digit member)]
  rw [ofLiteral?, Option.bind_eq_bind, Option.bind_eq_some_iff]
  refine ⟨0, exponent, ?_⟩
  simp only [base, isWhole, isFraction, counted, Int.sub_zero]
  exact Option.bind_eq_some_iff.mpr ⟨unscaled, spells, if_pos scaleFits⟩

/-- A written whole number is a decimal fraction without digits behind the point. -/
theorem ofLiteral?_ofInt (number : Int) :
    ofLiteral? (Numeral.ofInt number).toList = some (ofInt number) := by
  have spelled := Numeral.digitsOr_ofInt number
  have noPoint : ∀ character ∈ (Numeral.ofInt number).toList, (character == '.') = false :=
    spelled.noneOf (by decide) (separatesNumerals_of_eq rfl)
  have spells := Numeral.groupedInteger?_ofInt number
  rw [← List.append_nil (Numeral.ofInt number).toList] at spells
  exact ofLiteral?_of_splitFirst (spelled.noneOf (by decide) separatesNumerals_isExponentMark)
    (Text.splitFirst_of_forall noPoint) spells (List.forall_mem_nil _) (by decide)

/-! ## Truncation -/

theorem natAbs_lt_of_digitCount_lt
    {decimal : Decimal}
    {places : Nat}
    (small : decimal.digitCount < places) :
    decimal.unscaled.natAbs < 10 ^ places := by
  rw [digitCount] at small
  exact (Numeral.length_digits_le_iff (by omega)).mp (Nat.le_of_lt small)

/-- A fraction with digits behind the point loses them by division toward zero. -/
theorem truncated_eq_tdiv
    (unscaled : Int)
    (scale : Nat) :
    truncated ⟨unscaled, scale⟩ = unscaled.tdiv (10 ^ scale) := by
  rw [truncated]
  split
  · rename_i isZero
    change unscaled = 0 at isZero
    rw [isZero, Int.zero_tdiv]
  · split
    · rename_i atMost
      change (scale : Int) ≤ 0 at atMost
      obtain rfl : scale = 0 := by omega
      change unscaled * 10 ^ 0 = unscaled.tdiv (10 ^ 0)
      rw [Int.pow_zero, Int.mul_one, Int.tdiv_one]
    · split
      · rename_i fewDigits
        have small := natAbs_lt_of_digitCount_lt (Int.ofNat_lt.mp fewDigits)
        have noneLeft : (unscaled.tdiv (10 ^ scale)).natAbs = 0 := by
          rw [Int.natAbs_tdiv, Int.natAbs_pow]
          exact Nat.div_eq_of_lt small
        exact (Int.natAbs_eq_zero.mp noneLeft).symm
      · rfl

theorem truncated_ofInt (number : Int) : (ofInt number).truncated = number := by
  have truncates : (ofInt number).truncated = number.tdiv (10 ^ 0) := truncated_eq_tdiv number 0
  rw [truncates, Int.pow_zero, Int.tdiv_one]

end Decimal

/-! ## Literals of a sign, digits and a point -/

/-- A literal: a sign, digits before the point, and digits behind it if there is a point. -/
structure DecimalLiteral where
  sign : LiteralSign
  whole : List Char
  fraction : Option (List Char)
  areDigits : ∀ digit ∈ whole ++ fraction.getD [], digit.isDigit = true
  someDigit : whole ++ fraction.getD [] ≠ []

namespace DecimalLiteral

/-- The digits behind the point. -/
def places (literal : DecimalLiteral) : List Char :=
  literal.fraction.getD []

/-- The characters of a literal. -/
def characters (literal : DecimalLiteral) : List Char :=
  literal.sign.characters ++ literal.whole ++
    match literal.fraction with
    | none => []
    | some places => '.' :: places

/-- The whole number that the digits before the point denote, with the sign. -/
def truncated (literal : DecimalLiteral) : Int :=
  literal.sign.apply (Numeral.value literal.whole)

/-- The decimal fraction that a literal spells. -/
def decimal (literal : DecimalLiteral) : Decimal :=
  ⟨literal.sign.apply (Numeral.value (literal.whole ++ literal.places)),
    literal.places.length⟩

variable (literal : DecimalLiteral)

theorem digitsOr_beforePoint :
    Text.DigitsOr ['+', '-'] (literal.sign.characters ++ literal.whole) :=
  literal.sign.digitsOr_characters.append
    (.of_digits fun digit member => literal.areDigits digit (List.mem_append_left _ member))

theorem splitFirst_characters :
    Text.splitFirst (· == '.') literal.characters =
      (literal.sign.characters ++ literal.whole, literal.fraction) := by
  have noPoint : ∀ character ∈ literal.sign.characters ++ literal.whole,
      (character == '.') = false :=
    literal.digitsOr_beforePoint.noneOf (by decide) (separatesNumerals_of_eq rfl)
  rw [characters]
  cases literal.fraction with
  | none =>
      rw [List.append_nil]
      exact Text.splitFirst_of_forall noPoint
  | some places => exact Text.splitFirst_append noPoint rfl

theorem areDigits_places : ∀ digit ∈ literal.places, digit.isDigit = true :=
  fun digit member => literal.areDigits digit (List.mem_append_right _ member)

theorem digitsOr_characters : Text.DigitsOr ['+', '-', '.'] literal.characters := by
  have beforePoint :
      Text.DigitsOr ['+', '-', '.'] (literal.sign.characters ++ literal.whole) :=
    literal.digitsOr_beforePoint.mono (by decide)
  have areDigits := literal.areDigits_places
  rw [places] at areDigits
  rw [characters]
  refine beforePoint.append ?_
  cases isFraction : literal.fraction with
  | none => exact .of_digits (List.forall_mem_nil _)
  | some places =>
      rw [isFraction] at areDigits
      exact .cons (by decide) (.of_digits areDigits)

theorem trim_characters : Text.trim literal.characters = literal.characters :=
  literal.digitsOr_characters.trim_eq (by decide)

/-- The digits of a literal are one numeral behind its sign. -/
theorem groupedInteger?_digits :
    Numeral.groupedInteger? (literal.sign.characters ++ literal.whole ++ literal.places) =
      some literal.decimal.unscaled := by
  have spells :
      Numeral.natural? (literal.whole ++ literal.places) =
        some (Numeral.value (literal.whole ++ literal.places)) :=
    Numeral.natural?_eq_some_iff.mpr ⟨literal.someDigit, literal.areDigits, rfl⟩
  have behindSign := Numeral.signed?_characters_append literal.sign literal.areDigits
  rw [List.append_assoc, Numeral.groupedInteger?]
  exact (behindSign _).trans (congrArg _ (Numeral.groupedDigits?_of_natural? spells))

theorem ofLiteral?_characters
    (scaleFits : Numeral.fitsSigned 64 literal.places.length = true) :
    Decimal.ofLiteral? literal.characters = some literal.decimal :=
  Decimal.ofLiteral?_of_splitFirst
    (literal.digitsOr_characters.noneOf (by decide) Decimal.separatesNumerals_isExponentMark)
    literal.splitFirst_characters
    literal.groupedInteger?_digits literal.areDigits_places scaleFits

/-- Dropping the places leaves the digits before the point, with the sign. -/
theorem truncated_decimal : literal.decimal.truncated = literal.truncated := by
  have dropped := Numeral.value_take literal.areDigits literal.whole.length
  rw [List.take_left, List.length_append, Nat.add_sub_cancel_left] at dropped
  rw [truncated, dropped, ← LiteralSign.tdiv_apply, decimal, Decimal.truncated_eq_tdiv,
    Int.natCast_pow]
  rfl

end DecimalLiteral

/-! ## Literals of whole numbers -/

/-- A sign, if there is one, is taken off, and what stands behind it is read by the rule. -/
theorem Numeral.exists_signed?_eq
    (magnitude? : List Char → Option Nat)
    (characters : List Char) :
    ∃ (sign : LiteralSign) (spelling : List Char),
      characters = sign.characters ++ spelling ∧
        signed? magnitude? characters = (magnitude? spelling).map sign.apply := by
  rw [signed?.eq_def]
  split
  · rename_i behind
    refine ⟨.minus, behind, rfl, ?_⟩
    cases magnitude? behind <;> rfl
  · rename_i behind
    refine ⟨.plus, behind, rfl, ?_⟩
    cases magnitude? behind <;> rfl
  · refine ⟨.absent, characters, rfl, ?_⟩
    cases magnitude? characters <;> rfl

/-- A literal of a whole number: a sign and one or more digits. -/
structure WholeLiteral where
  sign : LiteralSign
  digits : List Char
  areDigits : ∀ digit ∈ digits, digit.isDigit = true
  someDigit : digits ≠ []

namespace WholeLiteral

/-- The characters of a literal. -/
def characters (literal : WholeLiteral) : List Char :=
  literal.sign.characters ++ literal.digits

/-- The number that a literal denotes. -/
def number (literal : WholeLiteral) : Int :=
  literal.sign.apply (Numeral.value literal.digits)

/-! ### Reading whole numbers -/

theorem integer?_characters (literal : WholeLiteral) :
    Numeral.integer? literal.characters = some literal.number := by
  have spells :
      Numeral.natural? literal.digits = some (Numeral.value literal.digits) :=
    Numeral.natural?_eq_some_iff.mpr ⟨literal.someDigit, literal.areDigits, rfl⟩
  rw [Numeral.integer?, characters,
    Numeral.signed?_characters_append literal.sign literal.areDigits, spells]
  rfl

theorem exists_of_integer?
    {characters : List Char}
    {number : Int}
    (spells : Numeral.integer? characters = some number) :
    ∃ literal : WholeLiteral, literal.characters = characters ∧ literal.number = number := by
  obtain ⟨sign, digits, rfl, read⟩ := Numeral.exists_signed?_eq Numeral.natural? characters
  rw [Numeral.integer?, read, Option.map_eq_some_iff] at spells
  obtain ⟨magnitude, behindSign, rfl⟩ := spells
  obtain ⟨someDigit, areDigits, rfl⟩ := Numeral.natural?_eq_some_iff.mp behindSign
  exact ⟨⟨sign, digits, areDigits, someDigit⟩, rfl, rfl⟩

/-- Characters that are no literal are not read as a whole number. -/
theorem integer?_eq_none
    {characters : List Char}
    (noLiteral : ∀ literal : WholeLiteral, literal.characters ≠ characters) :
    Numeral.integer? characters = none := by
  cases read : Numeral.integer? characters with
  | none => rfl
  | some number =>
      obtain ⟨literal, spelled, -⟩ := exists_of_integer? read
      exact absurd spelled (noLiteral literal)

/-! ### Reading decimal fractions -/

/-- The same literal as one of a decimal fraction without a point. -/
def toDecimal (literal : WholeLiteral) : DecimalLiteral where
  sign := literal.sign
  whole := literal.digits
  fraction := none
  areDigits := by
    rw [Option.getD_none, List.append_nil]
    exact literal.areDigits
  someDigit := by
    rw [Option.getD_none, List.append_nil]
    exact literal.someDigit

/-- A literal of a whole number is the fraction of that number without places. -/
theorem ofLiteral?_characters (literal : WholeLiteral) :
    Decimal.ofLiteral? literal.characters = some (Decimal.ofInt literal.number) := by
  have sameCharacters : literal.toDecimal.characters = literal.characters :=
    List.append_nil literal.characters
  have sameNumber : literal.toDecimal.decimal = Decimal.ofInt literal.number := by
    rw [DecimalLiteral.decimal, Decimal.ofInt, number]
    simp only [toDecimal, DecimalLiteral.places, Option.getD_none, List.append_nil]
    rfl
  have noPlaces : literal.toDecimal.places = [] := rfl
  have scaleFits : Numeral.fitsSigned 64 literal.toDecimal.places.length = true := by
    rw [noPlaces]
    decide
  rw [← sameCharacters, literal.toDecimal.ofLiteral?_characters scaleFits, sameNumber]

end WholeLiteral

end ResultSet
