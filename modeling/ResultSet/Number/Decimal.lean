import ResultSet.Text.Literal

namespace ResultSet

/-!
# Widths of whole numbers, and decimal fractions of any size

Whole numbers are asked for at one of four two's complement widths.

A decimal fraction is a whole number together with the number of its digits that
stand behind the point.  The number of those digits is part of the value: `1.0`
and `1.00` are equal as numbers and print differently.  A negative scale stands
for zeros that are not written.
-/

/-! ## Widths of whole numbers -/

/-- A width at which whole numbers are asked for. -/
inductive IntegerWidth where
  | byte
  | short
  | int
  | long
  deriving Repr, DecidableEq

namespace IntegerWidth

/-- The bits of a width. -/
def bits : IntegerWidth → Nat
  | byte => 8
  | short => 16
  | int => 32
  | long => 64

/-- Whether a number fits a width. -/
def fits
    (width : IntegerWidth)
    (number : Int) :
    Bool :=
  Numeral.fitsSigned width.bits number

/-- The name of a width in messages. -/
def label : IntegerWidth → String
  | byte => "Byte"
  | short => "Short"
  | int => "Integer"
  | long => "Long"

end IntegerWidth

/-! ## Decimal fractions -/

/-- The fraction `unscaled / 10 ^ scale`. -/
structure Decimal where
  unscaled : Int
  scale : Int
  deriving Repr, DecidableEq

namespace Decimal

/-- A whole number as a fraction without digits behind the point. -/
def ofInt (number : Int) : Decimal := ⟨number, 0⟩

/-! ### Literals -/

/-- The mark between the digits of a literal and its exponent. -/
def isExponentMark (character : Char) : Bool :=
  character == 'e' || character == 'E'

/-- The exponent written behind the mark; a literal without the mark has exponent zero. -/
def literalExponent? (literal : List Char) : Option Int :=
  match literal.dropWhile (fun character => !isExponentMark character) with
  | [] => some 0
  | _ :: exponent => Numeral.signedWithin? 128 exponent

/--
The fraction that a literal spells: a grouped numeral in which one point may
stand, and an optional exponent.  The scale must fit a word of 64 bits.
-/
def ofLiteral? (literal : List Char) : Option Decimal := do
  let exponent ← literalExponent? literal
  let base := literal.takeWhile fun character => !isExponentMark character
  let whole := base.takeWhile (· != '.')
  let fraction := (base.dropWhile (· != '.')).drop 1
  let scale := (fraction.countP (· != '_') : Int) - exponent
  let unscaled ← Numeral.groupedInteger? (whole ++ fraction)
  if Numeral.fitsSigned 64 scale then
    some ⟨unscaled, scale⟩
  else
    none

/-- The digits of a magnitude with a point in front of the last `scale` of them. -/
def positional
    (digits : List Char)
    (scale : Nat) :
    String :=
  if scale = 0 then
    String.ofList digits
  else if scale < digits.length then
    let whole := digits.length - scale
    String.ofList (digits.take whole) ++ "." ++ String.ofList (digits.drop whole)
  else
    "0." ++ Numeral.zeros (scale - digits.length) ++ String.ofList digits

/-- One digit before the point, the others behind it, and the power of ten. -/
def scientific
    (digits : List Char)
    (exponent : Int) :
    String :=
  let fraction := digits.drop 1
  String.ofList (digits.take 1) ++
    (if fraction.isEmpty then "" else "." ++ String.ofList fraction) ++
    "E" ++ Numeral.ofInt exponent

/-- The most zeros that are written out in front of the digits, or behind them. -/
structure ZeroLimits where
  leading : Int
  trailing : Int
  deriving Repr, DecidableEq

/-- Up to five zeros stand in front of the digits and up to fifteen behind them. -/
def writtenZeros : ZeroLimits := ⟨5, 15⟩

/-- The text of a magnitude given by its digits and its scale. -/
def renderMagnitude
    (digits : List Char)
    (scale : Int) :
    String :=
  if 0 < scale ∧ writtenZeros.leading < scale - digits.length then
    scientific digits (digits.length - scale - 1)
  else if scale < -writtenZeros.trailing then
    String.ofList digits ++ "e+" ++ Numeral.ofInt (-scale)
  else if scale ≤ 0 then
    String.ofList digits ++ Numeral.zeros (-scale).toNat
  else
    positional digits scale.toNat

/-- The text of a fraction; zero is written without digits behind the point. -/
def render (decimal : Decimal) : String :=
  let magnitude :=
    renderMagnitude (Numeral.digits decimal.unscaled.natAbs)
      (if decimal.unscaled = 0 then 0 else decimal.scale)
  if decimal.unscaled < 0 then "-" ++ magnitude else magnitude

/-! ### Arithmetic -/

/-- How many digits the magnitude of the unscaled number has. -/
def digitCount (decimal : Decimal) : Nat :=
  (Numeral.digits decimal.unscaled.natAbs).length

/-- The whole number that is left when the digits behind the point are dropped. -/
def truncated (decimal : Decimal) : Int :=
  if decimal.unscaled = 0 then
    0
  else if decimal.scale ≤ 0 then
    decimal.unscaled * 10 ^ (-decimal.scale).toNat
  else if decimal.digitCount < decimal.scale then
    0
  else
    decimal.unscaled.tdiv (10 ^ decimal.scale.toNat)

/-- How many zeros stand at the end of the unscaled number. -/
def trailingZeros (decimal : Decimal) : Nat :=
  ((Numeral.digits decimal.unscaled.natAbs).reverse.takeWhile (· == '0')).length

/-- The same number with the fewest digits; zero has scale zero. -/
def normalized (decimal : Decimal) : Decimal :=
  if decimal.unscaled = 0 then
    ⟨0, 0⟩
  else
    ⟨decimal.unscaled / 10 ^ decimal.trailingZeros, decimal.scale - decimal.trailingZeros⟩

/-- Whether two fractions are equal as numbers. -/
def sameNumber (first second : Decimal) : Bool :=
  first.normalized == second.normalized

end Decimal

end ResultSet
