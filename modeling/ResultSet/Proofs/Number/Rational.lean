import Mathlib.Data.Rat.Floor
import ResultSet.Number.Binary

namespace ResultSet

/-!
# The rational numbers of bit patterns

The fields of a bit pattern are, from its least bit on, a fraction, an exponent and a
sign.  They denote `± 1.fraction * 2 ^ (exponent - bias)`, where an exponent field without
any bit stands for `± 0.fraction * 2 ^ (1 - bias)`, and one with all bits for no number.
Reading a pattern as a whole significand and a power of two comes to the same number, and
dropping its fraction by division goes toward zero.
-/

/-- The whole number that is left of a rational number when its fraction is dropped. -/
def towardZero (number : Rat) : Int :=
  if 0 ≤ number then ⌊number⌋ else ⌈number⌉

/-- What is left of a number and of its opposite differs in the sign. -/
theorem towardZero_neg (number : Rat) : towardZero (-number) = -towardZero number := by
  rw [towardZero, towardZero]
  rcases lt_trichotomy number 0 with negative | rfl | positive
  · rw [if_pos (by linarith), if_neg (by linarith), Int.floor_neg]
  · simp
  · rw [if_neg (by linarith), if_pos (by linarith), Int.ceil_neg]

/-- Of a quotient of natural numbers, the quotient of their division is left. -/
theorem towardZero_natCast_div (numerator denominator : Nat) :
    towardZero ((numerator : Rat) / denominator) = (numerator / denominator : Nat) := by
  rw [towardZero, if_pos (by positivity), Rat.floor_natCast_div_natCast]
  rfl

/-- The number with a sign in front. -/
def signedRat (negative : Bool) (magnitude : Rat) : Rat :=
  if negative then -magnitude else magnitude

namespace BinaryNumber

/-- The rational number that a finite number is. -/
def rational? : BinaryNumber → Option Rat
  | notANumber => none
  | infinite _ => none
  | finite negative significand exponent =>
      some (signedRat negative (significand * 2 ^ exponent))

/-- A power of two is a quotient of two powers of which one is trivial. -/
theorem two_zpow_eq_div (exponent : Int) :
    (2 : Rat) ^ exponent = (2 ^ exponent.toNat : Nat) / (2 ^ (-exponent).toNat : Nat) := by
  rw [Nat.cast_pow, Nat.cast_pow, ← zpow_natCast, ← zpow_natCast, Nat.cast_ofNat,
    ← zpow_sub₀ two_ne_zero]
  congr 1
  omega

theorem truncated?_eq (number : BinaryNumber) :
    number.truncated? = number.rational?.map towardZero := by
  cases number with
  | notANumber => rfl
  | infinite negative => rfl
  | finite negative significand exponent =>
      have isQuotient :
          (significand : Rat) * 2 ^ exponent =
            (significand * 2 ^ exponent.toNat : Nat) / (2 ^ (-exponent).toNat : Nat) := by
        rw [two_zpow_eq_div, Nat.cast_mul, mul_div_assoc]
      rw [truncated?, rational?, Option.map_some, isQuotient, signedRat]
      cases negative with
      | false => exact congrArg some (towardZero_natCast_div _ _).symm
      | true =>
          rw [if_pos rfl, if_pos rfl, towardZero_neg, towardZero_natCast_div]

end BinaryNumber

namespace BinaryFormat

variable (format : BinaryFormat)

/-- What an exponent field exceeds its exponent by. -/
def bias : Int :=
  2 ^ (format.exponentWidth - 1) - 1

/-- The rational number that the fields of a bit pattern denote, if they denote one. -/
def denoted? (bits : Nat) : Option Rat :=
  let fraction := bits % 2 ^ format.fractionWidth
  let exponent := bits / 2 ^ format.fractionWidth % 2 ^ format.exponentWidth
  let negative := bits.testBit (format.fractionWidth + format.exponentWidth)
  if exponent = 2 ^ format.exponentWidth - 1 then
    none
  else if exponent = 0 then
    some (signedRat negative (fraction / 2 ^ format.fractionWidth * 2 ^ (1 - format.bias)))
  else
    some (signedRat negative
      ((1 + fraction / 2 ^ format.fractionWidth) * 2 ^ (exponent - format.bias)))

theorem rational?_unpack
    (hasBits : 0 < format.precision)
    (bits : Nat) :
    (format.unpack bits).rational? = format.denoted? bits := by
  have isNegative :
      (bits / 2 ^ (format.fractionWidth + format.exponentWidth) % 2 == 1) =
        bits.testBit (format.fractionWidth + format.exponentWidth) := by
    rw [Nat.testBit_eq_decide_div_mod_eq]
    rfl
  -- The least exponent counts steps of the fraction field, the bias those of the point.
  have least : format.leastExponent = 1 - format.bias - format.fractionWidth := by
    rw [leastExponent, bias, fractionWidth]
    omega
  have shifted (exponent : Int) :
      (2 : Rat) ^ (exponent - format.fractionWidth) =
        2 ^ exponent / 2 ^ format.fractionWidth := by
    rw [zpow_sub₀ two_ne_zero, zpow_natCast]
  simp only [unpack, denoted?, specialExponent, isNegative]
  split
  · split
    · rfl
    · rfl
  · split
    · rw [BinaryNumber.rational?, least, shifted]
      congr 2
      ring
    · rename_i exponentShows
      have isExponent :
          format.leastExponent +
              ((bits / 2 ^ format.fractionWidth % 2 ^ format.exponentWidth - 1 : Nat) : Int) =
            (bits / 2 ^ format.fractionWidth % 2 ^ format.exponentWidth : Nat) - format.bias -
              format.fractionWidth := by
        rw [least]
        omega
      rw [BinaryNumber.rational?, isExponent, shifted]
      congr 2
      push_cast
      field_simp

end BinaryFormat

/-! ## Patterns of the two formats -/

theorem Single.number_ofBits
    {bits : Nat}
    (hasWidth : bits < 2 ^ 32) :
    (ofBits bits).number = BinaryFormat.single.unpack bits := by
  rw [number, ofBits, UInt32.toNat_ofNat_of_lt' hasWidth]

theorem Double.number_ofBits
    {bits : Nat}
    (hasWidth : bits < 2 ^ 64) :
    (ofBits bits).number = BinaryFormat.double.unpack bits := by
  rw [number, ofBits, UInt64.toNat_ofNat_of_lt' hasWidth]

end ResultSet
