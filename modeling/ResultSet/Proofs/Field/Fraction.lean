import ResultSet.Proofs.Calendar.Literal
import ResultSet.Proofs.Field.Interpretation

namespace ResultSet

/-!
# Fractions of a second that look the same

A column that declares no digits, or six of them or more, shows all digits of a fraction
of a second.  The fraction arrives as four octets, which have room for more than the
microseconds of a second, and it is written with six digits at least and cut behind the
sixth.  So fractions below a second look different when they are different, but a number
of more than six digits looks like the number that its first six digits spell.
-/

/-! ## Leading digits -/

/-- The number that the first six digits of a number of microseconds spell. -/
def leadingMicroseconds (microseconds : Nat) : Nat :=
  microseconds / 10 ^ ((Numeral.digits microseconds).length - microsecondDigits)

theorem leadingMicroseconds_of_lt
    {microseconds : Nat}
    (small : microseconds < 10 ^ microsecondDigits) :
    leadingMicroseconds microseconds = microseconds := by
  have few : (Numeral.digits microseconds).length ≤ microsecondDigits :=
    (Numeral.length_digits_le_iff (by decide)).mpr small
  rw [leadingMicroseconds, Nat.sub_eq_zero_of_le few, Nat.pow_zero, Nat.div_one]

/-- A number other than zero does not begin with zeros. -/
theorem leadingMicroseconds_eq_zero_iff {microseconds : Nat} :
    leadingMicroseconds microseconds = 0 ↔ microseconds = 0 := by
  rw [leadingMicroseconds, Nat.div_eq_zero_iff_lt (Nat.pow_pos (by decide))]
  constructor
  · intro below
    rcases Nat.eq_zero_or_pos ((Numeral.digits microseconds).length - microsecondDigits) with
      noneCut | someCut
    · rw [noneCut] at below
      omega
    · -- Fewer digits than the number has do not suffice for it.
      have few := (Numeral.length_digits_le_iff someCut).mpr below
      have sixCut : microsecondDigits = 6 := rfl
      omega
  · rintro rfl
    exact Nat.pow_pos (by decide)

/-- The first six digits of a number of microseconds, with zeros in front if it has fewer. -/
def leadingPlaces (microseconds : Nat) : List Char :=
  (Numeral.padded microsecondDigits microseconds).toList.take microsecondDigits

theorem leadingPlaces_eq_iff {first second : Nat} :
    leadingPlaces first = leadingPlaces second ↔
      leadingMicroseconds first = leadingMicroseconds second := by
  have areDigits (microseconds : Nat) :
      ∀ digit ∈ leadingPlaces microseconds, digit.isDigit = true :=
    fun digit member => Numeral.isDigit_padded _ _ digit (List.mem_of_mem_take member)
  have places (microseconds : Nat) :
      (Numeral.padded microsecondDigits microseconds).toList.length =
        microsecondDigits - (Numeral.digits microseconds).length +
          (Numeral.digits microseconds).length := by
    rw [Numeral.toList_padded, List.length_append, List.length_replicate]
  have count (microseconds : Nat) :
      (leadingPlaces microseconds).length = microsecondDigits := by
    rw [leadingPlaces, List.length_take, places]
    omega
  have spelled (microseconds : Nat) :
      Numeral.value (leadingPlaces microseconds) = leadingMicroseconds microseconds := by
    have cut :
        (Numeral.padded microsecondDigits microseconds).toList.length - microsecondDigits =
          (Numeral.digits microseconds).length - microsecondDigits := by
      rw [places]
      omega
    rw [leadingPlaces, Numeral.value_take (Numeral.isDigit_padded _ _), cut,
      Numeral.value_padded, leadingMicroseconds]
  rw [← Numeral.value_inj_of_length_eq (areDigits first) (areDigits second)
    ((count first).trans (count second).symm), spelled, spelled]

/-- A column that shows six digits shows the same fraction for the same first six digits. -/
theorem fractionText_eq_iff
    {first second decimals : Nat}
    (showsAll : shownDigits decimals = microsecondDigits) :
    fractionText first decimals = fractionText second decimals ↔
      leadingMicroseconds first = leadingMicroseconds second := by
  rw [← String.toList_inj, toList_fractionText, toList_fractionText, shownFraction,
    shownFraction, showsAll]
  by_cases firstHidden : decimals = 0 ∧ first = 0 <;>
    by_cases secondHidden : decimals = 0 ∧ second = 0
  · rw [firstHidden.2, secondHidden.2]
    simp only
  · have different : leadingMicroseconds second ≠ 0 := fun isZero =>
      secondHidden ⟨firstHidden.1, leadingMicroseconds_eq_zero_iff.mp isZero⟩
    rw [if_pos firstHidden, if_neg secondHidden,
      leadingMicroseconds_eq_zero_iff.mpr firstHidden.2]
    simp [fractionSuffix, different.symm]
  · have different : leadingMicroseconds first ≠ 0 := fun isZero =>
      firstHidden ⟨secondHidden.1, leadingMicroseconds_eq_zero_iff.mp isZero⟩
    rw [if_neg firstHidden, if_pos secondHidden,
      leadingMicroseconds_eq_zero_iff.mpr secondHidden.2]
    simp [fractionSuffix, different]
  · rw [if_neg firstHidden, if_neg secondHidden, fractionSuffix, fractionSuffix,
      List.cons.injEq, and_iff_right rfl, ← leadingPlaces, ← leadingPlaces]
    exact leadingPlaces_eq_iff

/-! ## The groups before the fraction -/

namespace PackedDuration

/-- The last group of a duration spells its microseconds and nothing else. -/
theorem exists_ofOctets_append
    {front : Octets}
    (complete : front.length = 8) :
    ∃ packed : PackedDuration, ∀ fraction : Octets, fraction.length = 4 →
      ofOctets (front ++ fraction) =
        .ok { packed with microseconds := fraction.littleEndian } := by
  match front, complete with
  | [sign, lowest, low, high, highest, hours, minutes, seconds], _ =>
      refine ⟨⟨sign == 1, Octets.littleEndian [lowest, low, high, highest], hours.toNat,
        minutes.toNat, seconds.toNat, 0⟩, fun fraction complete => ?_⟩
      obtain ⟨lowest, low, high, highest, rfl⟩ := List.length_eq_four.mp complete
      rfl

end PackedDuration

namespace PackedDateTime

/-- The last group of a date-time spells its microseconds and nothing else. -/
theorem exists_ofOctets_append
    {front : Octets}
    (complete : front.length = 7) :
    ∃ packed : PackedDateTime,
      (packed.isZeroDate = true ↔ front.take 4 = [0, 0, 0, 0]) ∧
        ∀ fraction : Octets, fraction.length = 4 →
          ofOctets (front ++ fraction) =
            .ok { packed with microseconds := fraction.littleEndian } := by
  match front, complete with
  | [yearLow, yearHigh, month, day, hour, minute, second], _ =>
      refine ⟨⟨Octets.littleEndian [yearLow, yearHigh], month.toNat, day.toNat, hour.toNat,
        minute.toNat, second.toNat, 0⟩, ?_, fun fraction complete => ?_⟩
      · simp [isZeroDate, Octets.littleEndian, ← UInt8.toNat_inj, and_assoc]
      · obtain ⟨lowest, low, high, highest, rfl⟩ := List.length_eq_four.mp complete
        rfl

end PackedDateTime

/--
Octets of a field that is complete but for the four octets of its microseconds: those of
a duration, or those of a date-time whose date is not the one of all zeros.
-/
inductive Family.HoldsClock : Family → Octets → Prop where
  | duration
      {octets : Octets}
      (complete : octets.length = 8) :
      HoldsClock .time octets
  | dateTime
      {octets : Octets}
      (complete : octets.length = 7)
      (notZeroDate : octets.take 4 ≠ [0, 0, 0, 0]) :
      HoldsClock .timestamp octets

namespace Family.HoldsClock

theorem isNotFloat
    {family : Family}
    {octets : Octets}
    (holdsClock : family.HoldsClock octets) :
    family ≠ .float := by
  cases holdsClock <;> decide

/-- The microseconds change the text of a field behind the clock only. -/
theorem exists_text_before_fraction
    {shape : Shape}
    {front : Octets}
    (holdsClock : shape.type.family.HoldsClock front) :
    ∃ before : String, ∀ (offset : Option ZoneOffset) (fraction : Octets),
      fraction.length = 4 →
        (shape.reader ⟨.binary, offset⟩ .text (front ++ fraction).length).interpret
            (front ++ fraction) =
          .ok (before ++ fractionText fraction.littleEndian shape.decimals.toNat) := by
  generalize isFamily : shape.type.family = family at holdsClock
  cases holdsClock with
  | duration complete =>
      obtain ⟨packed, means⟩ := PackedDuration.exists_ofOctets_append complete
      refine ⟨(if packed.negative then "-" else "") ++
        clockText (24 * packed.days + packed.hours) packed.minutes packed.seconds,
        fun offset fraction complete => ?_⟩
      simp only [Shape.reader, isFamily, Family.reader, TemporalField.time,
        TemporalField.durationReader]
      exact PackedDuration.text_eq (means fraction complete)
  | dateTime complete notZeroDate =>
      obtain ⟨packed, isZeroDate, means⟩ := PackedDateTime.exists_ofOctets_append complete
      refine ⟨packed.dateLiteral ++ " " ++ clockText packed.hour packed.minute packed.second,
        fun offset fraction complete => ?_⟩
      have shown :
          PackedDateTime.isZeroDate { packed with microseconds := fraction.littleEndian } =
            false :=
        Bool.eq_false_iff.mpr (mt isZeroDate.mp notZeroDate)
      simp only [Shape.reader, isFamily, Family.reader, TemporalField.timestamp,
        FieldReader.interpret_map, TemporalField.packedReader, means fraction complete,
        Except.map, PackedDateTime.literal, shown]
      rfl

end Family.HoldsClock

/-! ## The texts of two fractions -/

variable {column : Column} {front fraction otherFraction : Octets} {start otherStart : Cursor}

/--
Where a column shows all digits of a fraction, fields that differ in their microseconds
alone have the same text exactly when the first six digits of the microseconds spell the
same number; so they have different texts when both fractions are below a second.
-/
theorem fraction_texts_agree_iff
    (showsAll : column.shape.decimals = 0 ∨ 6 ≤ column.shape.decimals)
    (holdsClock : column.shape.type.family.HoldsClock front)
    (complete : fraction.length = 4)
    (otherComplete : otherFraction.length = 4)
    (next : front ++ fraction <+: start.rest)
    (otherNext : front ++ otherFraction <+: otherStart.rest)
    (offset : Option ZoneOffset) :
    ∃ text other : String,
      (column.decode ⟨.binary, offset⟩ .text (front ++ fraction).length).outcome start =
          .ok (.text text) ∧
        (column.decode ⟨.binary, offset⟩ .text (front ++ otherFraction).length).outcome
            otherStart =
          .ok (.text other) ∧
        (text = other ↔
          leadingMicroseconds fraction.littleEndian =
            leadingMicroseconds otherFraction.littleEndian) ∧
        (fraction.littleEndian < 1000000 → otherFraction.littleEndian < 1000000 →
          fraction ≠ otherFraction → text ≠ other) := by
  have showsSix : shownDigits column.shape.decimals.toNat = microsecondDigits := by
    rw [shownDigits]
    rcases showsAll with none | enough
    · rw [none]
      rfl
    · have enough : 6 ≤ column.shape.decimals.toNat := UInt8.le_iff_toNat_le.mp enough
      rw [if_neg (by omega)]
      exact Nat.min_eq_right enough
  obtain ⟨before, means⟩ := holdsClock.exists_text_before_fraction
  have agree :
      before ++ fractionText fraction.littleEndian column.shape.decimals.toNat =
          before ++ fractionText otherFraction.littleEndian column.shape.decimals.toNat ↔
        leadingMicroseconds fraction.littleEndian =
          leadingMicroseconds otherFraction.littleEndian := by
    rw [← fractionText_eq_iff showsSix]
    exact String.append_right_inj before
  refine ⟨_, _, ?_, ?_, agree, fun small otherSmall different => ?_⟩
  · rw [Column.outcome_decode_of_next holdsClock.isNotFloat _ _ next, means offset _ complete]
    rfl
  · rw [Column.outcome_decode_of_next holdsClock.isNotFloat _ _ otherNext,
      means offset _ otherComplete]
    rfl
  · rw [Ne, agree, leadingMicroseconds_of_lt small, leadingMicroseconds_of_lt otherSmall,
      Octets.littleEndian_inj_of_length_eq (complete.trans otherComplete.symm)]
    exact different

/-- The last microsecond of a second and the one before it, in a column without digits. -/
theorem last_microseconds_have_two_texts :
    let column := Column.generated "at" .dateTime 26 0
    let front : Octets := [0xE8, 0x07, 0x03, 0x01, 0x0C, 0x22, 0x38]
    let last : Octets := [0x3F, 0x42, 0x0F, 0x00]
    let lastButOne : Octets := [0x3E, 0x42, 0x0F, 0x00]
    ∃ text other : String,
      (column.decode ⟨.binary, none⟩ .text 11).outcome (Cursor.ofPacket (front ++ last)) =
          .ok (.text text) ∧
        (column.decode ⟨.binary, none⟩ .text 11).outcome
            (Cursor.ofPacket (front ++ lastButOne)) =
          .ok (.text other) ∧
        text ≠ other := by
  intro column front last lastButOne
  have showsAll : column.shape.decimals = 0 ∨ 6 ≤ column.shape.decimals := .inl rfl
  have holdsClock : column.shape.type.family.HoldsClock front := .dateTime rfl (by decide)
  have next : front ++ last <+: (Cursor.ofPacket (front ++ last)).rest := List.prefix_refl _
  have otherNext :
      front ++ lastButOne <+: (Cursor.ofPacket (front ++ lastButOne)).rest :=
    List.prefix_refl _
  obtain ⟨text, other, shows, otherShows, -, differ⟩ :=
    fraction_texts_agree_iff showsAll holdsClock rfl rfl next otherNext none
  exact ⟨text, other, shows, otherShows, differ (by decide) (by decide) (by decide)⟩

/-- A million microseconds, the first number that is no fraction, looks like a tenth of it. -/
theorem million_microseconds_look_like_a_tenth :
    let column := Column.generated "at" .dateTime 26 0
    let front : Octets := [0xE8, 0x07, 0x03, 0x01, 0x0C, 0x22, 0x38]
    let tenth : Octets := [0xA0, 0x86, 0x01, 0x00]
    let million : Octets := [0x40, 0x42, 0x0F, 0x00]
    column.shape.decimals = 0 ∧
      column.shape.type.family.HoldsClock front ∧
      tenth.length = 4 ∧
      million.length = 4 ∧
      tenth ≠ million ∧
      (column.decode ⟨.binary, none⟩ .text 11).outcome (Cursor.ofPacket (front ++ tenth)) =
        .ok (.text "2024-03-01 12:34:56.100000") ∧
      (column.decode ⟨.binary, none⟩ .text 11).outcome (Cursor.ofPacket (front ++ million)) =
        .ok (.text "2024-03-01 12:34:56.100000") := by
  intro column front tenth million
  exact ⟨rfl, .dateTime rfl (by decide), rfl, rfl, by decide, by decide +kernel,
    by decide +kernel⟩

end ResultSet
