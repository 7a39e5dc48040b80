import ResultSet.Number.Binary
import ResultSet.Number.Decimal

namespace ResultSet

/-!
# The shortest decimal text of a binary number

The numbers of a format that surround a number leave an interval of fractions
which all round to it.  The text takes its digits from the coarsest decimal grid
that has a point in this interval.  Of two such points the nearer one is taken,
and of two equally near ones the greater.
-/

/--
A positive number and the interval that rounds to it, as fractions over one
denominator.
-/
structure RoundingInterval where
  lower : Nat
  center : Nat
  upper : Nat
  denominator : Nat
  /-- Whether the ends of the interval round to the number as well. -/
  closed : Bool
  deriving Repr, DecidableEq

namespace RoundingInterval

/--
The interval of `significand * 2 ^ exponent`.  It reaches half a step to both
sides, but only a quarter step down from a power of two, below which the steps
are half as wide.
-/
def ofNumber
    (format : BinaryFormat)
    (significand : Nat)
    (exponent : Int) :
    RoundingInterval :=
  let atPowerOfTwo :=
    significand = 2 ^ format.fractionWidth ∧ format.leastExponent < exponent
  let step := 2 ^ (exponent - 2).toNat
  { lower := (4 * significand - (if atPowerOfTwo then 1 else 2)) * step
    center := 4 * significand * step
    upper := (4 * significand + 2) * step
    denominator := 2 ^ (2 - exponent).toNat
    closed := significand % 2 == 0 }

/-- Measure everything in units of a power of ten. -/
def inUnitsOf
    (interval : RoundingInterval)
    (exponent : Int) :
    RoundingInterval :=
  let numeratorScale := 10 ^ (-exponent).toNat
  { interval with
    lower := interval.lower * numeratorScale
    center := interval.center * numeratorScale
    upper := interval.upper * numeratorScale
    denominator := interval.denominator * 10 ^ exponent.toNat }

/-- Whether a whole number lies in the interval. -/
def holds
    (interval : RoundingInterval)
    (number : Nat) :
    Bool :=
  let point := number * interval.denominator
  if interval.closed then
    interval.lower ≤ point && point ≤ interval.upper
  else
    interval.lower < point && point < interval.upper

/-- The whole number below the center, the one above it, and which of them is nearer. -/
def nearest (interval : RoundingInterval) : Nat :=
  let below := interval.center / interval.denominator
  if 2 * (interval.center % interval.denominator) < interval.denominator then
    below
  else
    below + 1

/-- The whole number in the interval that is nearest to the center, if there is one. -/
def nearestInside? (interval : RoundingInterval) : Option Nat :=
  let below := interval.center / interval.denominator
  match interval.holds below, interval.holds (below + 1) with
  | true, true => some interval.nearest
  | true, false => some below
  | false, true => some (below + 1)
  | false, false => none

/--
The digits and the power of ten of the coarsest grid with a point in the
interval, starting from a grid at least as coarse and trying so many grids.
-/
def shortestFrom
    (interval : RoundingInterval) :
    Nat → Int → Nat × Int
  | 0, exponent => ((interval.inUnitsOf exponent).nearest, exponent)
  | tries + 1, exponent =>
      match (interval.inUnitsOf exponent).nearestInside? with
      | some digits => (digits, exponent)
      | none => shortestFrom interval tries (exponent - 1)

end RoundingInterval

/-- A power of ten above every number below `2 ^ exponent`. -/
def decimalExponentAbove (exponent : Int) : Int :=
  exponent * 30103 / 100000 + 2

/-- Seventeen digits always suffice, and the first grid tried is at most two too coarse. -/
def gridsTried : Nat := 20

/-- The shortest digits of a positive number and the power of ten of the last digit. -/
def shortestDigits
    (format : BinaryFormat)
    (significand : Nat)
    (exponent : Int) :
    Nat × Int :=
  (RoundingInterval.ofNumber format significand exponent).shortestFrom gridsTried
    (decimalExponentAbove (significand.log2 + 1 + exponent))

/-- Digits times a power of ten, without an exponent mark. -/
def positionalText
    (digits : Nat)
    (exponent : Int) :
    String :=
  if 0 ≤ exponent then
    Numeral.ofNat digits ++ Numeral.zeros exponent.toNat
  else
    Decimal.positional (Numeral.digits digits) (-exponent).toNat

/-- The text of a number of a format: never with an exponent mark, and with the sign of zero. -/
def BinaryNumber.render
    (format : BinaryFormat) :
    BinaryNumber → String
  | .notANumber => "NaN"
  | .infinite negative => if negative then "-inf" else "inf"
  | .finite negative significand exponent =>
      let (digits, power) :=
        if significand = 0 then (0, 0) else shortestDigits format significand exponent
      (if negative then "-" else "") ++ positionalText digits power

/-- The text of a single. -/
def Single.render (value : Single) : String :=
  value.number.render BinaryFormat.single

/-- The text of a double. -/
def Double.render (value : Double) : String :=
  value.number.render BinaryFormat.double

end ResultSet
