import Mathlib.Data.Nat.Digits.Defs
import ResultSet.Octets

namespace ResultSet

/-!
# Digits and octets that spell a number

Zeros in front of digits change nothing of what the digits spell, and nothing else can
be changed without spelling another number.  So strings of octets spell the same number
exactly when they are the same but for zeros in front; and when they have one length,
they spell the same number only if they are the same.

A number is spelled by as many octets as its width has, whatever the number is, and
its octets spell its remainder by the modulus of the width.  A number that the
width holds is spelled as itself, with its sign or without.
-/

namespace Positional

/-- Digits spell what they spell in reverse order when the last one counts least. -/
theorem spelled_eq_ofDigits
    (base : Nat)
    (digits : List Nat) :
    spelled base digits = Nat.ofDigits base digits.reverse := by
  induction digits with
  | nil => rfl
  | cons digit rest inductionHypothesis =>
      have front : spelled base [digit] = digit := by simp [spelled]
      rw [← List.singleton_append, spelled_append, front, List.reverse_append,
        List.reverse_singleton, Nat.ofDigits_append, Nat.ofDigits_singleton,
        List.length_reverse, inductionHypothesis, Nat.add_comm, Nat.mul_comm digit]

/-- Zeros in front spell nothing. -/
theorem spelled_dropWhile_zero
    (base : Nat)
    (digits : List Nat) :
    spelled base (digits.dropWhile (· == 0)) = spelled base digits := by
  induction digits with
  | nil => rfl
  | cons digit rest inductionHypothesis =>
      by_cases isZero : digit = 0
      · subst isZero
        rw [List.dropWhile_cons_of_pos rfl, inductionHypothesis]
        simp [spelled]
      · rw [List.dropWhile_cons_of_neg (by simpa using isZero)]

/-- The digits behind the zeros in front are the digits of the number spelled. -/
theorem reverse_dropWhile_zero
    {base : Nat}
    (properBase : 1 < base)
    {digits : List Nat}
    (small : ∀ digit ∈ digits, digit < base) :
    (digits.dropWhile (· == 0)).reverse = base.digits (spelled base digits) := by
  rw [← spelled_dropWhile_zero, spelled_eq_ofDigits,
    Nat.digits_ofDigits base properBase]
  · intro digit member
    exact small digit (List.dropWhile_subset _ (List.mem_reverse.mp member))
  · intro nonempty
    have headNonzero := List.head_dropWhile_not (· == 0) (mt List.reverse_eq_nil_iff.mpr nonempty)
    rw [List.getLast_reverse]
    exact ne_of_beq_false headNonzero

/-- Digits spell the same number when they are the same but for zeros in front. -/
theorem spelled_eq_iff
    {base : Nat}
    (properBase : 1 < base)
    {first second : List Nat}
    (firstSmall : ∀ digit ∈ first, digit < base)
    (secondSmall : ∀ digit ∈ second, digit < base) :
    spelled base first = spelled base second ↔
      first.dropWhile (· == 0) = second.dropWhile (· == 0) := by
  rw [← List.reverse_inj, reverse_dropWhile_zero properBase firstSmall,
    reverse_dropWhile_zero properBase secondSmall, Nat.digits_inj_iff]

/-- As many digits spell the same number only if they are the same. -/
theorem spelled_inj_of_length_eq
    {base : Nat}
    (properBase : 1 < base)
    {first second : List Nat}
    (firstSmall : ∀ digit ∈ first, digit < base)
    (secondSmall : ∀ digit ∈ second, digit < base)
    (sameLength : first.length = second.length) :
    spelled base first = spelled base second ↔ first = second := by
  refine ⟨fun same => ?_, congrArg (spelled base)⟩
  rw [spelled_eq_ofDigits, spelled_eq_ofDigits] at same
  refine List.reverse_inj.mp (Nat.ofDigits_inj_of_len_eq properBase ?_ ?_ ?_ same)
  · rw [List.length_reverse, List.length_reverse, sameLength]
  · exact fun digit member => firstSmall digit (List.mem_reverse.mp member)
  · exact fun digit member => secondSmall digit (List.mem_reverse.mp member)

end Positional

namespace Octets

theorem toNat_lt_of_mem
    (octets : Octets) :
    ∀ digit ∈ octets.map UInt8.toNat, digit < 256 := by
  intro digit member
  obtain ⟨octet, -, rfl⟩ := List.mem_map.mp member
  exact octet.toNat_lt

theorem bigEndian_eq_ofDigits (octets : Octets) :
    octets.bigEndian = Nat.ofDigits 256 (octets.reverse.map UInt8.toNat) := by
  rw [bigEndian, Positional.value_eq_spelled, Positional.spelled_eq_ofDigits, List.map_reverse]

/-- Strings of octets spell the same number when they are the same but for zeros in front. -/
theorem bigEndian_eq_iff {first second : Octets} :
    first.bigEndian = second.bigEndian ↔
      first.dropWhile (· == 0) = second.dropWhile (· == 0) := by
  have zeros (octets : Octets) :
      (octets.map UInt8.toNat).dropWhile (· == 0) =
        (octets.dropWhile (· == 0)).map UInt8.toNat := by
    rw [List.dropWhile_map]
    congr 2
    funext octet
    exact Bool.eq_iff_iff.mpr (by simp [← UInt8.toNat_inj])
  rw [bigEndian, bigEndian, Positional.value_eq_spelled, Positional.value_eq_spelled,
    Positional.spelled_eq_iff (by decide) first.toNat_lt_of_mem second.toNat_lt_of_mem, zeros,
    zeros,
    List.map_inj_right fun _ _ => UInt8.toNat_inj.mp]

theorem littleEndian_eq_ofDigits (octets : Octets) :
    octets.littleEndian = Nat.ofDigits 256 (octets.map UInt8.toNat) := by
  induction octets with
  | nil => rfl
  | cons octet rest inductionHypothesis =>
      rw [littleEndian, List.map_cons, Nat.ofDigits_cons, ← inductionHypothesis]

/-- As many octets spell the same number only if they are the same. -/
theorem littleEndian_inj_of_length_eq
    {first second : Octets}
    (sameLength : first.length = second.length) :
    first.littleEndian = second.littleEndian ↔ first = second := by
  refine ⟨fun same => ?_, congrArg littleEndian⟩
  rw [littleEndian_eq_ofDigits, littleEndian_eq_ofDigits] at same
  have sameOctets : first.map UInt8.toNat = second.map UInt8.toNat :=
    Nat.ofDigits_inj_of_len_eq (by decide) (by simp [sameLength]) first.toNat_lt_of_mem
      second.toNat_lt_of_mem same
  exact (List.map_inj_right fun _ _ => UInt8.toNat_inj.mp).mp sameOctets

end Octets

/-! ## Two's complement octets -/

namespace Octets

/-- An octet has eight bits. -/
theorem modulus_eq_two_pow (width : Nat) : (256 : Int) ^ width = 2 ^ (8 * width) := by
  rw [Int.pow_mul]
  rfl

theorem toNat_emod_modulus (width : Nat) (number : Int) :
    ((number % 256 ^ width).toNat : Int) = number % 256 ^ width :=
  Int.toNat_of_nonneg (Int.emod_nonneg _ (Int.pow_ne_zero (by decide)))

/-- The octets of a number spell its remainder by the modulus of their width. -/
theorem littleEndian_ofInt (width : Nat) (number : Int) :
    (littleEndian (ofInt width number) : Int) = number % 256 ^ width := by
  rw [ofInt, littleEndian_ofNat, Int.natCast_emod, toNat_emod_modulus, Int.natCast_pow]
  exact Int.emod_emod_of_dvd _ (Int.dvd_refl _)

@[simp]
theorem length_ofInt (width : Nat) (number : Int) : (ofInt width number).length = width :=
  length_ofNat width _

/-- A number that its width holds with a sign is spelled with its sign. -/
theorem signedLittleEndian_ofInt
    {width : Nat}
    {number : Int}
    (positive : 0 < width)
    (holds : -2 ^ (8 * width - 1) ≤ number ∧ number < 2 ^ (8 * width - 1)) :
    signedLittleEndian (ofInt width number) = number := by
  have halves : (256 : Int) ^ width = 2 * 2 ^ (8 * width - 1) := by
    rw [modulus_eq_two_pow, ← Int.pow_succ']
    congr 1
    omega
  have natHalves : ((256 ^ width : Nat) : Int) = 2 * 2 ^ (8 * width - 1) := by
    rw [Int.natCast_pow]
    exact halves
  have halfPositive : (0 : Int) < 2 ^ (8 * width - 1) := Int.pow_pos (by decide)
  have spelled := littleEndian_ofInt width number
  simp only [signedLittleEndian, length_ofInt]
  rw [halves] at spelled ⊢
  -- With one half of the modulus as a variable, all that is left is linear.
  generalize (2 : Int) ^ (8 * width - 1) = half at *
  rcases Int.lt_or_le number 0 with negative | nonnegative
  · have wraps : number % (2 * half) = number + 2 * half := by
      rw [← Int.add_emod_right]
      exact Int.emod_eq_of_lt (by omega) (by omega)
    rw [if_neg (by omega)]
    omega
  · have stays : number % (2 * half) = number := Int.emod_eq_of_lt nonnegative (by omega)
    rw [if_pos (by omega)]
    omega

end Octets

end ResultSet
