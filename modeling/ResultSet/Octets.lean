import ResultSet.Number.Positional

namespace ResultSet

/-!
# Octet strings and the numbers they spell

A packet is a string of octets.  Fixed-width numbers are written with their
least significant octet first; only bit strings put the most significant octet
first.  Signed numbers use two's complement.
-/

/-- A string of octets, in the order in which they are sent. -/
abbrev Octets := List UInt8

namespace Octets

/-- The number spelled with its least significant octet first. -/
def littleEndian : Octets → Nat
  | [] => 0
  | octet :: rest => octet.toNat + 256 * littleEndian rest

/-- The number spelled with its most significant octet first. -/
def bigEndian (octets : Octets) : Nat :=
  Positional.value 256 (octets.map UInt8.toNat)

/-- The two's complement reading of a number with its least significant octet first. -/
def signedLittleEndian (octets : Octets) : Int :=
  let number := littleEndian octets
  if 2 * number < 256 ^ octets.length then
    number
  else
    (number : Int) - 256 ^ octets.length

/-- The low `width` octets of a number, least significant first. -/
def ofNat : Nat → Nat → Octets
  | 0, _ => []
  | width + 1, number => UInt8.ofNat number :: ofNat width (number / 256)

/-- The low `width` octets of the two's complement spelling of a number. -/
def ofInt
    (width : Nat)
    (number : Int) :
    Octets :=
  ofNat width (number % 256 ^ width).toNat

/-- A fixed-width spelling has the width asked for. -/
@[simp]
theorem length_ofNat
    (width number : Nat) :
    (ofNat width number).length = width := by
  induction width generalizing number with
  | zero => rfl
  | succ width inductionHypothesis => simp [ofNat, inductionHypothesis]

/-- Reading a fixed-width spelling gives the number back up to the width's modulus. -/
theorem littleEndian_ofNat
    (width number : Nat) :
    littleEndian (ofNat width number) = number % 256 ^ width := by
  induction width generalizing number with
  | zero => simp [ofNat, littleEndian, Nat.mod_one]
  | succ width inductionHypothesis =>
      have firstOctet : (UInt8.ofNat number).toNat = number % 256 := by simp
      rw [ofNat, littleEndian, inductionHypothesis, firstOctet]
      rw [Nat.pow_succ, Nat.mul_comm (256 ^ width) 256, Nat.mod_mul]

/-- Two octets spell any number that they are enough for. -/
theorem exists_ofNat_two
    {number : Nat}
    (small : number < 256 ^ 2) :
    ∃ low high, ofNat 2 number = [low, high] ∧ littleEndian [low, high] = number :=
  ⟨_, _, rfl, (littleEndian_ofNat 2 number).trans (Nat.mod_eq_of_lt small)⟩

/-- Four octets spell any number that they are enough for. -/
theorem exists_ofNat_four
    {number : Nat}
    (small : number < 256 ^ 4) :
    ∃ lowest low high highest,
      ofNat 4 number = [lowest, low, high, highest] ∧
        littleEndian [lowest, low, high, highest] = number :=
  ⟨_, _, _, _, rfl, (littleEndian_ofNat 4 number).trans (Nat.mod_eq_of_lt small)⟩

/-- A string of octets spells a number below the modulus of its width. -/
theorem littleEndian_lt
    (octets : Octets) :
    littleEndian octets < 256 ^ octets.length := by
  induction octets with
  | nil => simp [littleEndian]
  | cons octet rest inductionHypothesis =>
      have octetBound := octet.toNat_lt
      simp only [littleEndian, List.length_cons, Nat.pow_succ]
      omega

end Octets

end ResultSet
