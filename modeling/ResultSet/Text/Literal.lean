import ResultSet.Number.Positional

namespace ResultSet

/-!
# Literals: blanks, separators and numerals

A literal may be surrounded by any character of the Unicode property
`White_Space`, which is wider than the ASCII blanks.  A literal with several
parts is read one part at a time: the characters before the first separator, and
whatever stands behind it.

Reading a numeral takes ASCII digits only.  An optional sign stands in front;
grouped numerals, used inside decimal fractions, may also hold underscores.
Writing pads with zeros up to a least width, in which a minus sign counts.
-/

namespace Text

/-! ## White space around literals -/

/-- Whether a character has the Unicode property `White_Space`. -/
def isBlank (character : Char) : Bool :=
  let code := character.toNat
  (0x09 ≤ code && code ≤ 0x0D) || code == 0x20 || code == 0x85 || code == 0xA0 ||
    code == 0x1680 || (0x2000 ≤ code && code ≤ 0x200A) || code == 0x2028 ||
    code == 0x2029 || code == 0x202F || code == 0x205F || code == 0x3000

/-- Drop the blanks on both sides of a literal. -/
def trim (characters : List Char) : List Char :=
  ((characters.dropWhile isBlank).reverse.dropWhile isBlank).reverse

/-- Every character that the core library calls white space is a blank. -/
theorem isBlank_of_isWhitespace
    {character : Char}
    (isWhitespace : character.isWhitespace = true) :
    isBlank character = true := by
  simp only [Char.isWhitespace, Bool.or_eq_true, decide_eq_true_eq] at isWhitespace
  rcases isWhitespace with ((isSpace | isTab) | isReturn) | isNewline <;>
    subst character <;> decide

/-! ## Splitting at a separator -/

/--
The characters before the first separator and the characters behind it, of which
there are none at all when no separator occurs.
-/
def splitFirst
    (isSeparator : Char → Bool)
    (characters : List Char) :
    List Char × Option (List Char) :=
  (characters.takeWhile fun character => !isSeparator character,
    (characters.dropWhile fun character => !isSeparator character).tail?)

/-- Nothing but one separator is lost in a split. -/
theorem splitFirst_append
    {isSeparator : Char → Bool}
    {before : List Char}
    {separator : Char}
    {behind : List Char}
    (noneBefore : ∀ character ∈ before, isSeparator character = false)
    (isOne : isSeparator separator = true) :
    splitFirst isSeparator (before ++ separator :: behind) = (before, some behind) := by
  have keepsBefore : ∀ character ∈ before, (!isSeparator character) = true := by
    intro character member
    simp [noneBefore character member]
  simp [splitFirst, List.takeWhile_append_of_pos keepsBefore,
    List.dropWhile_append_of_pos keepsBefore, isOne]

/-- Without a separator everything stands before it. -/
theorem splitFirst_of_forall
    {isSeparator : Char → Bool}
    {characters : List Char}
    (noneInside : ∀ character ∈ characters, isSeparator character = false) :
    splitFirst isSeparator characters = (characters, none) := by
  induction characters with
  | nil => rfl
  | cons first rest inductionHypothesis =>
      have restIsWhole :=
        inductionHypothesis fun character member =>
          noneInside character (List.mem_cons_of_mem first member)
      have firstIsNone := noneInside first List.mem_cons_self
      simp only [splitFirst, Prod.mk.injEq] at restIsWhole
      simp [splitFirst, firstIsNone, restIsWhole.1, restIsWhole.2]

end Text

namespace Numeral

/-! ## Reading numerals -/

/-- The number of a digit. -/
def digitValue (digit : Char) : Nat :=
  digit.toNat - '0'.toNat

/-- The number spelled by digits. -/
def value (digits : List Char) : Nat :=
  Positional.value 10 (digits.map digitValue)

/-- The number spelled by one or more digits. -/
def natural? (digits : List Char) : Option Nat :=
  if digits.isEmpty = false ∧ digits.all Char.isDigit = true then
    some (value digits)
  else
    none

/-- A numeral behind an optional sign, by the rule for the numeral itself. -/
def signed? (magnitude? : List Char → Option Nat) : List Char → Option Int
  | '-' :: characters => (magnitude? characters).map fun magnitude => -(magnitude : Int)
  | '+' :: characters => (magnitude? characters).map fun magnitude => (magnitude : Int)
  | characters => (magnitude? characters).map fun magnitude => (magnitude : Int)

/-- The number spelled by digits behind an optional plus sign. -/
def unsigned? : List Char → Option Nat
  | '+' :: digits => natural? digits
  | digits => natural? digits

/-- The number spelled by digits behind an optional sign. -/
def integer? : List Char → Option Int :=
  signed? natural?

/-- Whether a number fits a two's complement word of so many bits. -/
def fitsSigned
    (bits : Nat)
    (number : Int) :
    Bool :=
  decide (-2 ^ (bits - 1) ≤ number ∧ number < 2 ^ (bits - 1))

/-- An unsigned numeral whose number fits a word of so many bits. -/
def unsignedWithin?
    (bits : Nat)
    (characters : List Char) :
    Option Nat :=
  (unsigned? characters).filter fun number => decide (number < 2 ^ bits)

/-- A signed numeral whose number fits a two's complement word of so many bits. -/
def signedWithin?
    (bits : Nat)
    (characters : List Char) :
    Option Int :=
  (integer? characters).filter (fitsSigned bits)

/-- The number spelled by digits among which underscores may stand, but not in front. -/
def groupedDigits? (characters : List Char) : Option Nat :=
  if characters.all (fun character => character.isDigit || character == '_') then
    match characters with
    | [] => none
    | '_' :: _ => none
    | first :: rest =>
        some (value ((first :: rest).filter Char.isDigit))
  else
    none

/-- A grouped numeral behind one optional sign. -/
def groupedInteger? : List Char → Option Int :=
  signed? groupedDigits?

/-- Digits spell the number that they spell one by one. -/
theorem value_eq_ofDigitChars
    (digits : List Char) :
    value digits = Nat.ofDigitChars 10 digits 0 := by
  rw [value, Positional.value_eq_spelled, Positional.spelled, List.foldl_map,
    Nat.ofDigitChars_eq_foldl]
  rfl

/-! ## Writing numerals -/

/-- The digits of a number. -/
def digits (number : Nat) : List Char :=
  (Positional.digits 10 number).map Nat.digitChar

/-- The numeral of a natural number. -/
def ofNat (number : Nat) : String :=
  String.ofList (digits number)

/-- The numeral of a number, with a minus sign when it is negative. -/
def ofInt (number : Int) : String :=
  if number < 0 then
    "-" ++ ofNat number.natAbs
  else
    ofNat number.natAbs

/-- The digits of a number are its digits to base ten. -/
theorem digits_eq_toDigits
    (number : Nat) :
    digits number = Nat.toDigits 10 number :=
  Positional.map_digits (by decide) number

/-- The numeral of a number is its usual text. -/
theorem ofNat_eq_repr
    (number : Nat) :
    ofNat number = number.repr := by
  rw [ofNat, digits_eq_toDigits, Nat.repr_eq_ofList_toDigits]

/-- So many zeros. -/
def zeros (count : Nat) : String :=
  String.ofList (List.replicate count '0')

/-- A numeral of at least `width` digits, filled with zeros in front. -/
def padded
    (width number : Nat) :
    String :=
  zeros (width - (digits number).length) ++ ofNat number

/-- A numeral of at least `width` characters, the minus sign counting as one of them. -/
def paddedInt
    (width : Nat)
    (number : Int) :
    String :=
  if number < 0 then
    "-" ++ padded (width - 1) number.natAbs
  else
    padded width number.natAbs

end Numeral

end ResultSet
