namespace ResultSet.Positional

/-!
# Positional notation

The number that digits spell and the digits of a number, in any base, the most
significant digit first.  Both ways go by halves, so that a number of many
digits takes few operations on long numbers; the results are those of going
digit by digit.
-/

-- Powers mean the same here and beside a library that brings powers of its own.
attribute [default_instance 20000, instance (20000)] instPowNat

/-! ## Reading -/

/-- The number that digits spell, digit by digit. -/
def spelled
    (base : Nat)
    (digits : List Nat) :
    Nat :=
  digits.foldl (fun number digit => base * number + digit) 0

/-- The number that digits spell, from halves of halves down to a depth. -/
def spelledByHalves (base : Nat) : Nat → List Nat → Nat
  | 0, digits => spelled base digits
  | depth + 1, digits =>
      let front := digits.take (digits.length / 2)
      let back := digits.drop (digits.length / 2)
      spelledByHalves base depth front * base ^ back.length +
        spelledByHalves base depth back

/-- The number that digits spell; runs of up to 63 digits are read digit by digit. -/
def value
    (base : Nat)
    (digits : List Nat) :
    Nat :=
  spelledByHalves base (digits.length.log2 - 5) digits

/-- Digits read behind a number push it up by their places. -/
theorem foldl_spelled
    (base start : Nat)
    (digits : List Nat) :
    digits.foldl (fun number digit => base * number + digit) start =
      start * base ^ digits.length + spelled base digits := by
  induction digits generalizing start with
  | nil => simp [spelled]
  | cons digit rest inductionHypothesis =>
      have fromDigit := inductionHypothesis digit
      have fromBoth := inductionHypothesis (base * start + digit)
      simp only [spelled, List.foldl_cons, List.length_cons, Nat.mul_zero, Nat.zero_add] at *
      rw [fromBoth, fromDigit, Nat.add_mul, Nat.pow_succ, Nat.mul_comm base start,
        Nat.mul_assoc, Nat.mul_comm base, Nat.add_assoc]

/-- The digits in front count in multiples of the places behind them. -/
theorem spelled_append
    (base : Nat)
    (front back : List Nat) :
    spelled base (front ++ back) =
      spelled base front * base ^ back.length + spelled base back := by
  rw [spelled, List.foldl_append, foldl_spelled]
  rfl

/-- Halving changes no result. -/
theorem spelledByHalves_eq_spelled
    (base depth : Nat)
    (digits : List Nat) :
    spelledByHalves base depth digits = spelled base digits := by
  induction depth generalizing digits with
  | zero => rfl
  | succ depth inductionHypothesis =>
      rw [spelledByHalves, inductionHypothesis, inductionHypothesis, ← spelled_append,
        List.take_append_drop]

/-- The value of digits is what they spell digit by digit. -/
theorem value_eq_spelled
    (base : Nat)
    (digits : List Nat) :
    value base digits = spelled base digits :=
  spelledByHalves_eq_spelled base _ digits

/-! ## Writing -/

/-- The last `width` digits of a number, digit by digit. -/
def lastDigits (base : Nat) : Nat → Nat → List Nat
  | 0, _ => []
  | width + 1, number => lastDigits base width (number / base) ++ [number % base]

/-- The last `2 ^ depth` digits of a number. -/
def block (base : Nat) : Nat → Nat → List Nat
  | 0, number => [number % base]
  | depth + 1, number =>
      let half := base ^ 2 ^ depth
      block base depth (number / half) ++ block base depth (number % half)

/-- The digits of a number below `base ^ 2 ^ depth`, without zeros in front. -/
def digitsBelow (base : Nat) : Nat → Nat → List Nat
  | 0, number => [number]
  | depth + 1, number =>
      let half := base ^ 2 ^ depth
      if number < half then
        digitsBelow base depth number
      else
        digitsBelow base depth (number / half) ++ block base depth (number % half)

/-- The digits of a number; zero has one digit, and no other number has a zero in front. -/
def digits (base number : Nat) : List Nat :=
  digitsBelow base (number.log2.log2 + 1) number

/-- The last digits come from the remainder alone. -/
theorem lastDigits_mod
    (base width number : Nat) :
    lastDigits base width (number % base ^ width) = lastDigits base width number := by
  induction width generalizing number with
  | zero => rfl
  | succ width inductionHypothesis =>
      have quotient : number % base ^ (width + 1) / base = number / base % base ^ width := by
        rw [Nat.pow_succ, Nat.mul_comm, Nat.mod_mul_right_div_self]
      have remainder : number % base ^ (width + 1) % base = number % base := by
        rw [Nat.pow_succ, Nat.mod_mul_left_mod]
      rw [lastDigits, lastDigits, quotient, remainder, inductionHypothesis]

/-- The last digits fall into those in front and those behind. -/
theorem lastDigits_add
    (base front back number : Nat) :
    lastDigits base (front + back) number =
      lastDigits base front (number / base ^ back) ++ lastDigits base back number := by
  induction back generalizing number with
  | zero => simp [lastDigits]
  | succ back inductionHypothesis =>
      rw [← Nat.add_assoc, lastDigits, inductionHypothesis, lastDigits, Nat.div_div_eq_div_mul,
        Nat.pow_succ, Nat.mul_comm base, List.append_assoc]

/-- A block holds the last digits. -/
theorem block_eq_lastDigits
    (base depth number : Nat) :
    block base depth number = lastDigits base (2 ^ depth) number := by
  induction depth generalizing number with
  | zero => simp [block, lastDigits]
  | succ depth inductionHypothesis =>
      have twice : 2 ^ (depth + 1) = 2 ^ depth + 2 ^ depth := by omega
      rw [block, inductionHypothesis, inductionHypothesis, lastDigits_mod, twice, lastDigits_add]

/-- The digits of a positive number and the last digits of another make one number. -/
theorem toDigits_append_lastDigits
    {base leading width number : Nat}
    (properBase : 1 < base)
    (positive : 0 < leading)
    (below : number < base ^ width) :
    base.toDigits leading ++ (lastDigits base width number).map Nat.digitChar =
      base.toDigits (leading * base ^ width + number) := by
  induction width generalizing number with
  | zero =>
      have isZero : number = 0 := by simpa using below
      simp [lastDigits, isZero]
  | succ width inductionHypothesis =>
      have quotientBelow : number / base < base ^ width :=
        Nat.div_lt_of_lt_mul (by rwa [Nat.mul_comm, ← Nat.pow_succ])
      have remainderBelow : number % base < base := Nat.mod_lt _ (by omega)
      have powerPositive : 0 < base ^ width := Nat.pow_pos (by omega)
      have frontPositive : 0 < leading * base ^ width + number / base :=
        Nat.add_pos_left (Nat.mul_pos positive powerPositive) _
      have joined :
          base * (leading * base ^ width + number / base) + number % base =
            leading * base ^ (width + 1) + number := by
        have split := Nat.div_add_mod number base
        rw [Nat.mul_add, Nat.add_assoc, split, Nat.pow_succ, Nat.mul_comm base,
          Nat.mul_assoc]
      rw [lastDigits, List.map_append, ← List.append_assoc, inductionHypothesis quotientBelow,
        ← joined, ← Nat.toDigits_append_toDigits properBase frontPositive remainderBelow,
        Nat.toDigits_of_lt_base remainderBelow]
      rfl

/-- Below the bound the digits are those of going digit by digit. -/
theorem map_digitsBelow
    {base depth number : Nat}
    (properBase : 1 < base)
    (below : number < base ^ 2 ^ depth) :
    (digitsBelow base depth number).map Nat.digitChar = base.toDigits number := by
  induction depth generalizing number with
  | zero => simp [digitsBelow, Nat.toDigits_of_lt_base (by simpa using below)]
  | succ depth inductionHypothesis =>
      have halfPositive : 0 < base ^ 2 ^ depth := Nat.pow_pos (by omega)
      rw [digitsBelow]
      split
      · rename_i small
        exact inductionHypothesis small
      · rename_i large
        have quotientBelow : number / base ^ 2 ^ depth < base ^ 2 ^ depth := by
          apply Nat.div_lt_of_lt_mul
          rw [← Nat.pow_add, ← Nat.two_mul, ← Nat.pow_succ']
          exact below
        have quotientPositive : 0 < number / base ^ 2 ^ depth :=
          Nat.div_pos (by omega) halfPositive
        rw [List.map_append, inductionHypothesis quotientBelow, block_eq_lastDigits,
          toDigits_append_lastDigits properBase quotientPositive (Nat.mod_lt _ halfPositive),
          Nat.div_add_mod']

/-- The digits are those of going digit by digit. -/
theorem map_digits
    {base : Nat}
    (properBase : 1 < base)
    (number : Nat) :
    (digits base number).map Nat.digitChar = base.toDigits number := by
  apply map_digitsBelow properBase
  calc
    number < 2 ^ (number.log2 + 1) := Nat.lt_log2_self
    _ ≤ 2 ^ 2 ^ (number.log2.log2 + 1) :=
        Nat.pow_le_pow_right (by omega) Nat.lt_log2_self
    _ ≤ base ^ 2 ^ (number.log2.log2 + 1) := Nat.pow_le_pow_left properBase _

end ResultSet.Positional
