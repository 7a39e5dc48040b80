import ResultSet.Text.Literal

namespace ResultSet

/-!
# Binary floating-point numbers

A bit pattern of the single or double interchange format stands for a signed
significand times a power of two, an infinity, or no number.  All arithmetic
here is exact arithmetic on whole numbers; rounding happens once, to the nearest
number of the format, a tie going to the even significand.
-/

/-- A binary interchange format with one sign bit. -/
structure BinaryFormat where
  /-- Bits of a significand, the leading one included. -/
  precision : Nat
  /-- Bits of the exponent field. -/
  exponentWidth : Nat
  deriving Repr, DecidableEq

/-- What a bit pattern stands for; a finite one is `± significand * 2 ^ exponent`. -/
inductive BinaryNumber where
  | notANumber
  | infinite (negative : Bool)
  | finite (negative : Bool) (significand : Nat) (exponent : Int)
  deriving Repr, DecidableEq

namespace BinaryFormat

/-- The format of 32 bits. -/
def single : BinaryFormat := ⟨24, 8⟩

/-- The format of 64 bits. -/
def double : BinaryFormat := ⟨53, 11⟩

/-- Bits of the fraction field, which leaves out the leading one. -/
def fractionWidth (format : BinaryFormat) : Nat :=
  format.precision - 1

/-- The exponent of the least significant bit of the smallest numbers. -/
def leastExponent (format : BinaryFormat) : Int :=
  3 - 2 ^ (format.exponentWidth - 1) - format.precision

/-- The exponent field that marks infinities and patterns without a number. -/
def specialExponent (format : BinaryFormat) : Nat :=
  2 ^ format.exponentWidth - 1

/-- Read a bit pattern. -/
def unpack
    (format : BinaryFormat)
    (bits : Nat) :
    BinaryNumber :=
  let fraction := bits % 2 ^ format.fractionWidth
  let biased := bits / 2 ^ format.fractionWidth % 2 ^ format.exponentWidth
  let negative := bits / 2 ^ (format.fractionWidth + format.exponentWidth) % 2 == 1
  if biased = format.specialExponent then
    if fraction = 0 then .infinite negative else .notANumber
  else if biased = 0 then
    .finite negative fraction format.leastExponent
  else
    .finite negative (2 ^ format.fractionWidth + fraction)
      (format.leastExponent + (biased - 1 : Nat))

/-- The sign bit in its place. -/
def signBit
    (format : BinaryFormat)
    (negative : Bool) :
    Nat :=
  if negative then 2 ^ (format.fractionWidth + format.exponentWidth) else 0

/-- The bit pattern of an infinity. -/
def infinityBits
    (format : BinaryFormat)
    (negative : Bool) :
    Nat :=
  format.signBit negative + format.specialExponent * 2 ^ format.fractionWidth

/-- The quotient of two numbers rounded to nearest, a tie going to the even neighbour. -/
def nearestQuotient (numerator denominator : Nat) : Nat :=
  let quotient := numerator / denominator
  let remainder := numerator % denominator
  if 2 * remainder < denominator then
    quotient
  else if denominator < 2 * remainder then
    quotient + 1
  else
    quotient + quotient % 2

/-- The greatest power of two that is at most a positive fraction, as an exponent. -/
def floorLog (numerator denominator : Nat) : Int :=
  let estimate : Int := (numerator.log2 : Int) - denominator.log2
  let reached :=
    denominator * 2 ^ estimate.toNat ≤ numerator * 2 ^ (-estimate).toNat
  if reached then estimate else estimate - 1

/--
The bit pattern nearest to a fraction.

The significand counts steps of `2 ^ exponent`, the finest that the format has at
this magnitude.  A significand that rounds up to the next power of two carries
into the exponent field by itself.
-/
def packRatio
    (format : BinaryFormat)
    (negative : Bool)
    (numerator denominator : Nat) :
    Nat :=
  if numerator = 0 then
    format.signBit negative
  else
    let exponent :=
      max format.leastExponent (floorLog numerator denominator - format.fractionWidth)
    let significand :=
      nearestQuotient (numerator * 2 ^ (-exponent).toNat) (denominator * 2 ^ exponent.toNat)
    let magnitude :=
      (exponent - format.leastExponent).toNat * 2 ^ format.fractionWidth + significand
    if format.specialExponent * 2 ^ format.fractionWidth ≤ magnitude then
      format.infinityBits negative
    else
      format.signBit negative + magnitude

/-- The bit pattern nearest to a binary number. -/
def pack
    (format : BinaryFormat) :
    BinaryNumber → Nat
  | .notANumber => format.infinityBits false + 2 ^ (format.fractionWidth - 1)
  | .infinite negative => format.infinityBits negative
  | .finite negative significand exponent =>
      format.packRatio negative (significand * 2 ^ exponent.toNat) (2 ^ (-exponent).toNat)

/-- The bit pattern nearest to a whole number. -/
def packInt
    (format : BinaryFormat)
    (number : Int) :
    Nat :=
  format.packRatio (decide (number < 0)) number.natAbs 1

/-- Beyond ten to this power both formats have only infinities, and below its inverse only zero. -/
def decimalReach : Int := 400

/-- The bit pattern nearest to `± digits * 10 ^ exponent`. -/
def packDecimal
    (format : BinaryFormat)
    (negative : Bool)
    (digits : Nat)
    (exponent : Int) :
    Nat :=
  let magnitude : Int := (Numeral.digits digits).length + exponent
  if digits = 0 ∨ magnitude < -decimalReach then
    format.signBit negative
  else if decimalReach < magnitude then
    format.infinityBits negative
  else
    format.packRatio negative (digits * 10 ^ exponent.toNat) (10 ^ (-exponent).toNat)

end BinaryFormat

namespace BinaryNumber

/-- The whole number left when the fraction of a finite number is dropped. -/
def truncated? : BinaryNumber → Option Int
  | .notANumber => none
  | .infinite _ => none
  | .finite negative significand exponent =>
      let magnitude := significand * 2 ^ exponent.toNat / 2 ^ (-exponent).toNat
      some (if negative then -(magnitude : Int) else magnitude)

/-- Whether a bit pattern stands for zero of either sign. -/
def isZero : BinaryNumber → Bool
  | .finite _ significand _ => significand == 0
  | _ => false

end BinaryNumber

/-- A bit pattern of the single format. -/
structure Single where
  bits : UInt32
  deriving Repr, DecidableEq

/-- A bit pattern of the double format. -/
structure Double where
  bits : UInt64
  deriving Repr, DecidableEq

namespace Single

/-- The pattern with the given number as its bits. -/
def ofBits (bits : Nat) : Single := ⟨UInt32.ofNat bits⟩

/-- What the pattern stands for. -/
def number (value : Single) : BinaryNumber :=
  BinaryFormat.single.unpack value.bits.toNat

/-- The single nearest to a whole number. -/
def ofInt (number : Int) : Single :=
  ofBits (BinaryFormat.single.packInt number)

/-- Equality of numbers: the two zeros are equal, and what is no number equals nothing. -/
def sameNumber (first second : Single) : Bool :=
  first.number != .notANumber && second.number != .notANumber &&
    (first == second || (first.number.isZero && second.number.isZero))

end Single

namespace Double

/-- The pattern with the given number as its bits. -/
def ofBits (bits : Nat) : Double := ⟨UInt64.ofNat bits⟩

/-- What the pattern stands for. -/
def number (value : Double) : BinaryNumber :=
  BinaryFormat.double.unpack value.bits.toNat

/-- The double nearest to a whole number. -/
def ofInt (number : Int) : Double :=
  ofBits (BinaryFormat.double.packInt number)

/-- The double with the number of a single, which is always exact. -/
def ofSingle (value : Single) : Double :=
  ofBits (BinaryFormat.double.pack value.number)

/-- The single nearest to a double. -/
def toSingle (value : Double) : Single :=
  Single.ofBits (BinaryFormat.single.pack value.number)

/-- Equality of numbers: the two zeros are equal, and what is no number equals nothing. -/
def sameNumber (first second : Double) : Bool :=
  first.number != .notANumber && second.number != .notANumber &&
    (first == second || (first.number.isZero && second.number.isZero))

end Double

end ResultSet
