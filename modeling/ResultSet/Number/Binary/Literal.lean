import ResultSet.Number.Binary
import ResultSet.Text.Literal

namespace ResultSet

/-!
# Literals of binary numbers

A literal is an optional sign and then a name of an infinity, the name of what
is no number, or digits with an optional point and an optional exponent.  It is
rounded once, straight to the format asked for.

The exponent is a numeral of bounded size: once it has reached the bound, its
further digits do not count.  This shows only in literals that also have tens of
thousands of digits, since any other is an infinity or zero long before.
-/

/-- A decimal literal before rounding: `± digits * 10 ^ exponent`, or a named value. -/
inductive BinaryLiteral where
  | notANumber
  | infinite (negative : Bool)
  | decimal (negative : Bool) (digits : Nat) (exponent : Int)
  deriving Repr, DecidableEq

namespace BinaryLiteral

/-- An exponent takes no further digit once it is at least this number. -/
def exponentBound : Nat := 65536

/-- The number spelled by the digits of an exponent up to the one that reaches the bound. -/
def boundedValue (digits : List Char) : Nat :=
  digits.foldl
    (fun number digit =>
      if number < exponentBound then 10 * number + Numeral.digitValue digit else number)
    0

/-- The magnitude of an exponent: one or more digits, as far as they count. -/
def exponentMagnitude? (digits : List Char) : Option Nat :=
  if digits.isEmpty = false ∧ digits.all Char.isDigit = true then
    some (boundedValue digits)
  else
    none

/-- The exponent behind the digits: nothing, or a mark and a signed numeral. -/
def exponent? : List Char → Option Int
  | [] => some 0
  | mark :: numeral =>
      if mark = 'e' ∨ mark = 'E' then Numeral.signed? exponentMagnitude? numeral else none

/-- Digits count as long as the number in front of each of them is below the bound. -/
theorem foldl_bounded
    (start : Nat)
    (digits : List Char)
    (below :
      digits.foldl (fun number digit => 10 * number + Numeral.digitValue digit) start <
        10 * exponentBound) :
    digits.foldl
        (fun number digit =>
          if number < exponentBound then 10 * number + Numeral.digitValue digit else number)
        start =
      digits.foldl (fun number digit => 10 * number + Numeral.digitValue digit) start := by
  induction digits generalizing start with
  | nil => rfl
  | cons digit rest inductionHypothesis =>
      rw [List.foldl_cons] at below ⊢
      have grown :=
        Positional.foldl_spelled 10 (10 * start + Numeral.digitValue digit)
          (rest.map Numeral.digitValue)
      rw [List.foldl_map] at grown
      have kept :
          10 * start + Numeral.digitValue digit ≤
            (10 * start + Numeral.digitValue digit) *
              10 ^ (rest.map Numeral.digitValue).length :=
        Nat.le_mul_of_pos_right _ (Nat.pow_pos (by decide))
      have startBelow : start < exponentBound := by omega
      rw [if_pos startBelow, List.foldl_cons]
      exact inductionHypothesis _ below

/-- An exponent below ten times the bound is the number that its digits spell. -/
theorem boundedValue_eq_value
    {digits : List Char}
    (below : Numeral.value digits < 10 * exponentBound) :
    boundedValue digits = Numeral.value digits := by
  rw [Numeral.value, Positional.value_eq_spelled, Positional.spelled, List.foldl_map] at below ⊢
  exact foldl_bounded 0 digits below

/-- Digits with an optional point, at least one digit in all, and an optional exponent. -/
def decimal?
    (negative : Bool)
    (characters : List Char) :
    Option BinaryLiteral := do
  let whole := characters.takeWhile Char.isDigit
  let afterWhole := characters.dropWhile Char.isDigit
  let (fraction, afterFraction) :=
    match afterWhole with
    | '.' :: rest => (rest.takeWhile Char.isDigit, rest.dropWhile Char.isDigit)
    | rest => ([], rest)
  let digits ← Numeral.natural? (whole ++ fraction)
  let exponent ← exponent? afterFraction
  some (.decimal negative digits (exponent - fraction.length))

/-- A literal without its sign. -/
def magnitude?
    (negative : Bool)
    (characters : List Char) :
    Option BinaryLiteral :=
  let name := String.ofList (characters.map Char.toLower)
  if name = "nan" then some .notANumber
  else if name = "inf" ∨ name = "infinity" then some (.infinite negative)
  else decimal? negative characters

/-- Read a literal. -/
def ofCharacters? : List Char → Option BinaryLiteral
  | '-' :: characters => magnitude? true characters
  | '+' :: characters => magnitude? false characters
  | characters => magnitude? false characters

/-- The bit pattern of a format nearest to a literal. -/
def pack
    (format : BinaryFormat) :
    BinaryLiteral → Nat
  | .notANumber => format.pack .notANumber
  | .infinite negative => format.infinityBits negative
  | .decimal negative digits exponent => format.packDecimal negative digits exponent

end BinaryLiteral

/-- The single nearest to the number that a literal spells. -/
def Single.ofLiteral? (characters : List Char) : Option Single :=
  (BinaryLiteral.ofCharacters? characters).map fun literal =>
    Single.ofBits (literal.pack BinaryFormat.single)

/-- The double nearest to the number that a literal spells. -/
def Double.ofLiteral? (characters : List Char) : Option Double :=
  (BinaryLiteral.ofCharacters? characters).map fun literal =>
    Double.ofBits (literal.pack BinaryFormat.double)

end ResultSet
