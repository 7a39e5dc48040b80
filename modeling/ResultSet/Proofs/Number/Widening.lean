import ResultSet.Proofs.Number.Rational

namespace ResultSet

/-!
# Singles as doubles

The significand of a single, moved up until it fills the significand of a double, is that
of the same number, and the exponent that it needs is well within the range of doubles.
Nothing is rounded, so that a single and its double are one number.
-/

namespace BinaryFormat

/-- The significand and the exponent of a finite number are within their fields. -/
theorem bounds_of_unpack
    {format : BinaryFormat}
    {bits significand : Nat}
    {negative : Bool}
    {exponent : Int}
    (isFinite : format.unpack bits = .finite negative significand exponent) :
    significand < 2 * 2 ^ format.fractionWidth ∧
      format.leastExponent ≤ exponent ∧
      exponent ≤ format.leastExponent + (2 ^ format.exponentWidth - 3 : Nat) := by
  have fractionBound : bits % 2 ^ format.fractionWidth < 2 ^ format.fractionWidth :=
    Nat.mod_lt _ (Nat.two_pow_pos _)
  have exponentBound :
      bits / 2 ^ format.fractionWidth % 2 ^ format.exponentWidth < 2 ^ format.exponentWidth :=
    Nat.mod_lt _ (Nat.two_pow_pos _)
  rw [unpack, specialExponent] at isFinite
  split at isFinite
  · split at isFinite
    · cases isFinite
    · cases isFinite
  · split at isFinite
    · cases isFinite
      omega
    · cases isFinite
      omega

/-- A quotient without remainder is not rounded. -/
theorem nearestQuotient_mul
    {divisor : Nat}
    (positive : 0 < divisor)
    (quotient : Nat) :
    nearestQuotient (quotient * divisor) divisor = quotient := by
  rw [nearestQuotient, Nat.mul_mod_left, Nat.mul_div_left quotient positive, if_pos (by omega)]

theorem log2_mul_two_pow
    {number : Nat}
    (positive : number ≠ 0)
    (places : Nat) :
    (number * 2 ^ places).log2 = number.log2 + places := by
  rw [Nat.log2_eq_iff (Nat.mul_ne_zero positive (Nat.two_pow_pos _).ne'), Nat.pow_add,
    Nat.add_right_comm, Nat.pow_add]
  exact ⟨Nat.mul_le_mul_right _ (Nat.log2_self_le positive),
    Nat.mul_lt_mul_of_pos_right Nat.lt_log2_self (Nat.two_pow_pos _)⟩

/-- The greatest power of two below a number goes by its significand. -/
theorem floorLog_two_pow
    {significand : Nat}
    (positive : significand ≠ 0)
    (exponent : Int) :
    floorLog (significand * 2 ^ exponent.toNat) (2 ^ (-exponent).toNat) =
      significand.log2 + exponent := by
  have estimated :
      ((significand * 2 ^ exponent.toNat).log2 : Int) - (2 ^ (-exponent).toNat).log2 =
        significand.log2 + exponent := by
    rw [log2_mul_two_pow positive, Nat.log2_two_pow]
    omega
  have places :
      (-exponent).toNat + (significand.log2 + exponent).toNat =
        significand.log2 + (exponent.toNat + (-(significand.log2 + exponent)).toNat) := by
    omega
  rw [floorLog, estimated]
  refine if_pos ?_
  rw [← Nat.pow_add, places, Nat.mul_assoc, ← Nat.pow_add, Nat.pow_add]
  exact Nat.mul_le_mul_right _ (Nat.log2_self_le positive)

/-- The fields of a pattern, from its least bit on, are a fraction, an exponent and a sign. -/
theorem unpack_fields
    (format : BinaryFormat)
    (negative : Bool)
    {fraction exponent : Nat}
    (isFraction : fraction < 2 ^ format.fractionWidth)
    (isExponent : exponent < format.specialExponent)
    (leads : exponent ≠ 0) :
    format.unpack
        (fraction +
          2 ^ format.fractionWidth * (exponent + 2 ^ format.exponentWidth * negative.toNat)) =
      .finite negative (2 ^ format.fractionWidth + fraction)
        (format.leastExponent + (exponent - 1 : Nat)) := by
  have inField : exponent < 2 ^ format.exponentWidth :=
    Nat.lt_of_lt_of_le isExponent (Nat.sub_le _ _)
  have isSign : (negative.toNat % 2 == 1) = negative := by
    cases negative <;> rfl
  rw [unpack, Nat.pow_add, ← Nat.div_div_eq_div_mul, Nat.add_mul_mod_self_left,
    Nat.add_mul_div_left _ _ (Nat.two_pow_pos _), Nat.div_eq_of_lt isFraction, Nat.zero_add,
    Nat.add_mul_mod_self_left, Nat.add_mul_div_left _ _ (Nat.two_pow_pos _),
    Nat.div_eq_of_lt inField, Nat.zero_add, Nat.mod_eq_of_lt isFraction,
    Nat.mod_eq_of_lt inField, isSign, if_neg isExponent.ne,
    if_neg leads]

/-- A significand that fills its field is read back, with its sign and its exponent. -/
theorem unpack_signBit_add
    (format : BinaryFormat)
    (negative : Bool)
    {significand steps : Nat}
    (fills :
      2 ^ format.fractionWidth ≤ significand ∧ significand < 2 * 2 ^ format.fractionWidth)
    (notFull : steps + 1 < format.specialExponent) :
    format.unpack
        (format.signBit negative + (steps * 2 ^ format.fractionWidth + significand)) =
      .finite negative significand (format.leastExponent + steps) := by
  have isSignBit :
      format.signBit negative =
        2 ^ format.fractionWidth * (2 ^ format.exponentWidth * negative.toNat) := by
    rw [signBit, Nat.pow_add]
    cases negative with
    | false => rfl
    | true => rw [if_pos rfl, Bool.toNat_true, Nat.mul_one]
  obtain ⟨fraction, rfl⟩ := Nat.exists_eq_add_of_le fills.1
  have isFraction : fraction < 2 ^ format.fractionWidth := by omega
  have fields :
      format.signBit negative +
          (steps * 2 ^ format.fractionWidth + (2 ^ format.fractionWidth + fraction)) =
        fraction +
          2 ^ format.fractionWidth *
            (steps + 1 + 2 ^ format.exponentWidth * negative.toNat) := by
    rw [isSignBit]
    ring
  rw [fields, format.unpack_fields negative isFraction notFull (Nat.succ_ne_zero steps),
    Nat.add_sub_cancel]

/-- A fraction is packed by the exponent of its steps and the number of them. -/
theorem packRatio_eq
    {format : BinaryFormat}
    {numerator denominator significand : Nat}
    {exponent : Int}
    (negative : Bool)
    (positive : numerator ≠ 0)
    (isExponent :
      max format.leastExponent (floorLog numerator denominator - format.fractionWidth) =
        exponent)
    (isSignificand :
      nearestQuotient (numerator * 2 ^ (-exponent).toNat) (denominator * 2 ^ exponent.toNat) =
        significand)
    (isFinite :
      (exponent - format.leastExponent).toNat * 2 ^ format.fractionWidth + significand <
        format.specialExponent * 2 ^ format.fractionWidth) :
    format.packRatio negative numerator denominator =
      format.signBit negative +
        ((exponent - format.leastExponent).toNat * 2 ^ format.fractionWidth + significand) := by
  simp only [packRatio, if_neg positive, isExponent, isSignificand,
    if_neg (Nat.not_le.mpr isFinite)]

/-- A number that needs no more bits than the format has is packed without rounding. -/
theorem unpack_packRatio
    (format : BinaryFormat)
    (negative : Bool)
    {significand : Nat}
    {exponent : Int}
    (positive : significand ≠ 0)
    (fits : significand.log2 ≤ format.fractionWidth)
    (lower : format.leastExponent + format.fractionWidth ≤ significand.log2 + exponent)
    (upper :
      significand.log2 + exponent + 1 <
        format.leastExponent + format.fractionWidth + format.specialExponent) :
    format.unpack
        (format.packRatio negative (significand * 2 ^ exponent.toNat)
          (2 ^ (-exponent).toNat)) =
      .finite negative (significand * 2 ^ (format.fractionWidth - significand.log2))
        (significand.log2 + exponent - format.fractionWidth) := by
  generalize isUnit : (significand.log2 : Int) + exponent - format.fractionWidth = unit
  generalize isMissing : format.fractionWidth - significand.log2 = missing
  have isNonzero (places : Nat) : significand * 2 ^ places ≠ 0 :=
    Nat.mul_ne_zero positive (Nat.two_pow_pos _).ne'
  have isExponent :
      max format.leastExponent
          (floorLog (significand * 2 ^ exponent.toNat) (2 ^ (-exponent).toNat) -
            format.fractionWidth) =
        unit := by
    rw [floorLog_two_pow positive]
    omega
  -- Both powers of two together make up for the places that the significand lacks.
  have places :
      exponent.toNat + (-unit).toNat = missing + ((-exponent).toNat + unit.toNat) := by
    omega
  have isSignificand :
      nearestQuotient (significand * 2 ^ exponent.toNat * 2 ^ (-unit).toNat)
          (2 ^ (-exponent).toNat * 2 ^ unit.toNat) =
        significand * 2 ^ missing := by
    rw [Nat.mul_assoc, ← Nat.pow_add, places, Nat.pow_add, ← Nat.mul_assoc, ← Nat.pow_add]
    exact nearestQuotient_mul (Nat.two_pow_pos _) _
  have fills :
      2 ^ format.fractionWidth ≤ significand * 2 ^ missing ∧
        significand * 2 ^ missing < 2 * 2 ^ format.fractionWidth := by
    have isLog : (significand * 2 ^ missing).log2 = format.fractionWidth := by
      rw [log2_mul_two_pow positive]
      omega
    rw [← Nat.pow_succ']
    exact (Nat.log2_eq_iff (isNonzero _)).mp isLog
  have steps : ((unit - format.leastExponent).toNat : Int) = unit - format.leastExponent :=
    Int.toNat_of_nonneg (by omega)
  have notFull : (unit - format.leastExponent).toNat + 1 < format.specialExponent := by omega
  have isFinite :
      (unit - format.leastExponent).toNat * 2 ^ format.fractionWidth +
          significand * 2 ^ missing <
        format.specialExponent * 2 ^ format.fractionWidth := by
    calc (unit - format.leastExponent).toNat * 2 ^ format.fractionWidth +
          significand * 2 ^ missing
        < (unit - format.leastExponent).toNat * 2 ^ format.fractionWidth +
            2 * 2 ^ format.fractionWidth := Nat.add_lt_add_left fills.2 _
      _ = ((unit - format.leastExponent).toNat + 2) * 2 ^ format.fractionWidth :=
          (Nat.add_mul _ _ _).symm
      _ ≤ format.specialExponent * 2 ^ format.fractionWidth :=
          Nat.mul_le_mul_right _ notFull
  rw [packRatio_eq negative (isNonzero _) isExponent isSignificand isFinite,
    format.unpack_signBit_add negative fills notFull, steps, add_sub_cancel]

/-- A packed fraction has the bits of its fields and no others. -/
theorem packRatio_lt
    (format : BinaryFormat)
    (negative : Bool)
    (numerator denominator : Nat) :
    format.packRatio negative numerator denominator <
      2 * 2 ^ (format.fractionWidth + format.exponentWidth) := by
  have positive := Nat.two_pow_pos (format.fractionWidth + format.exponentWidth)
  have signBitAtMost :
      format.signBit negative ≤ 2 ^ (format.fractionWidth + format.exponentWidth) := by
    rw [signBit]
    split <;> omega
  have special :
      format.specialExponent * 2 ^ format.fractionWidth <
        2 ^ (format.fractionWidth + format.exponentWidth) := by
    rw [Nat.pow_add, Nat.mul_comm]
    exact Nat.mul_lt_mul_of_pos_left (Nat.sub_lt (Nat.two_pow_pos _) Nat.one_pos)
      (Nat.two_pow_pos _)
  rw [packRatio]
  split
  · omega
  · dsimp only
    split
    · rw [infinityBits]
      omega
    · omega

end BinaryFormat

namespace Double

/-- A number that needs no more bits than a double has is not rounded when it is packed. -/
theorem rational?_ofBits_pack
    (negative : Bool)
    {significand : Nat}
    {exponent : Int}
    (fits : significand < 2 ^ 53)
    (lower : -1022 ≤ exponent)
    (upper : exponent ≤ 971) :
    (ofBits (BinaryFormat.double.pack (.finite negative significand exponent))).number.rational? =
      some (signedRat negative (significand * 2 ^ exponent)) := by
  have bits := BinaryFormat.double.packRatio_lt negative (significand * 2 ^ exponent.toNat)
    (2 ^ (-exponent).toNat)
  rw [BinaryFormat.pack, number_ofBits bits]
  by_cases isZero : significand = 0
  · have packed :
        BinaryFormat.double.packRatio negative (significand * 2 ^ exponent.toNat)
            (2 ^ (-exponent).toNat) =
          BinaryFormat.double.signBit negative := by
      rw [BinaryFormat.packRatio, if_pos (by rw [isZero, Nat.zero_mul])]
    have unpacked :
        BinaryFormat.double.unpack (BinaryFormat.double.signBit negative) =
          .finite negative 0 BinaryFormat.double.leastExponent := by
      cases negative <;> rfl
    rw [packed, unpacked, isZero, BinaryNumber.rational?, Nat.cast_zero, zero_mul, zero_mul]
  · have atMost : significand.log2 ≤ 52 := by
      have isLess := (Nat.log2_lt isZero).mpr fits
      omega
    have fromLeast :
        BinaryFormat.double.leastExponent + BinaryFormat.double.fractionWidth ≤
          significand.log2 + exponent := by
      change (-1074 : Int) + 52 ≤ _
      omega
    have belowSpecial :
        significand.log2 + exponent + 1 <
          BinaryFormat.double.leastExponent + BinaryFormat.double.fractionWidth +
            BinaryFormat.double.specialExponent := by
      change _ < (-1074 : Int) + 52 + 2047
      omega
    have moved :
        ((significand * 2 ^ (52 - significand.log2) : Nat) : Rat) *
            2 ^ (significand.log2 + exponent - 52 : Int) =
          significand * 2 ^ exponent := by
      rw [Nat.cast_mul, Nat.cast_pow, Nat.cast_ofNat, mul_assoc, ← zpow_natCast,
        ← zpow_add₀ two_ne_zero]
      congr 2
      omega
    rw [BinaryFormat.double.unpack_packRatio negative isZero atMost fromLeast belowSpecial]
    exact congrArg (fun magnitude => some (signedRat negative magnitude)) moved

/-- A single and its double are one number. -/
theorem rational?_ofSingle (value : Single) :
    (ofSingle value).number.rational? = value.number.rational? := by
  rw [ofSingle]
  cases isNumber : value.number with
  | notANumber => rfl
  | infinite negative => cases negative <;> rfl
  | finite negative significand exponent =>
      obtain ⟨fits, lower, upper⟩ := BinaryFormat.bounds_of_unpack isNumber
      change significand < 2 ^ 24 at fits
      change (-149 : Int) ≤ exponent at lower
      change exponent ≤ (-149 : Int) + 253 at upper
      exact rational?_ofBits_pack negative (by omega) (by omega) (by omega)

end Double

end ResultSet
