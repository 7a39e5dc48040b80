import ResultSet.Proofs.Calendar.Literal
import ResultSet.Proofs.Field.OmittedGroups

namespace ResultSet

/-!
# Moments as a server sends them

A server has years of four digits, whole microseconds and no leap seconds.  It sends a
date-time as a text, where a fraction of zeros may be missing, or as packed octets, where
groups of zeros at the end may be missing.  Zeros in all parts stand for no value.  Each of
these texts, and all octets, have the parts that were sent.
-/

/-! ## Packed parts and their texts -/

namespace PackedDateTime

variable {packed : PackedDateTime} {octets : Octets}

/-- The octets of all groups. -/
def allOctets (packed : PackedDateTime) : Octets :=
  Octets.ofNat 2 packed.year ++ Octets.ofNat 1 packed.month ++ Octets.ofNat 1 packed.day ++
    Octets.ofNat 1 packed.hour ++ Octets.ofNat 1 packed.minute ++
    Octets.ofNat 1 packed.second ++ Octets.ofNat 4 packed.microseconds

/-- Whether the octets of each part are enough for it. -/
structure FitsGroups (packed : PackedDateTime) : Prop where
  date : packed.year < 256 ^ 2 ∧ packed.month < 256 ∧ packed.day < 256
  clock : packed.hour < 256 ∧ packed.minute < 256 ∧ packed.second < 256
  fraction : packed.microseconds < 256 ^ 4

theorem ofOctets_allOctets (fits : packed.FitsGroups) : ofOctets packed.allOctets = .ok packed := by
  obtain ⟨year, month, day⟩ := fits.date
  obtain ⟨hour, minute, second⟩ := fits.clock
  -- The reader matches on single octets, so that those of the longer parts are named.
  obtain ⟨yearLow, yearHigh, twoOctets, sentYear⟩ := Octets.exists_ofNat_two year
  obtain ⟨lowest, lower, higher, highest, fourOctets, sentFraction⟩ :=
    Octets.exists_ofNat_four fits.fraction
  have inGroups :
      packed.allOctets =
        yearLow :: yearHigh :: UInt8.ofNat packed.month :: UInt8.ofNat packed.day ::
          UInt8.ofNat packed.hour :: UInt8.ofNat packed.minute ::
          UInt8.ofNat packed.second :: [lowest, lower, higher, highest] := by
    rw [allOctets, twoOctets, fourOctets]
    rfl
  rw [inGroups, ofOctets, PackedClock.ofOctets, PackedClock.fraction, sentYear, sentFraction,
    UInt8.toNat_ofNat_of_lt' month, UInt8.toNat_ofNat_of_lt' day,
    UInt8.toNat_ofNat_of_lt' hour, UInt8.toNat_ofNat_of_lt' minute,
    UInt8.toNat_ofNat_of_lt' second]
  rfl

/-- Parts are sent in all groups, or without some of the last groups if these are zero. -/
structure SentAs (packed : PackedDateTime) (octets : Octets) : Prop where
  endsBehindGroup : octets.length ∈ [0, 4, 7, 11]
  filled : octets.filled [4, 3, 4] = packed.allOctets

theorem SentAs.ofOctets_eq
    (sent : packed.SentAs octets)
    (fits : packed.FitsGroups) :
    ofOctets octets = .ok packed := by
  have hasFirst : octets.length = 0 ∨ 4 ≤ octets.length := by
    have ends := sent.endsBehindGroup
    simp only [List.mem_cons, List.not_mem_nil, or_false] at ends
    omega
  rw [← fillsGroups_ofOctets.filled octets hasFirst, sent.filled, ofOctets_allOctets fits]

/--
The texts of a date-time: a fraction has six digits, and one of zeros may be left out.
-/
inductive WrittenAs (packed : PackedDateTime) : String → Prop where
  | whole (noFraction : packed.microseconds = 0) :
      WrittenAs packed
        (packed.dateLiteral ++ " " ++ clockText packed.hour packed.minute packed.second)
  | fraction :
      WrittenAs packed
        (packed.dateLiteral ++ " " ++ clockText packed.hour packed.minute packed.second ++
          "." ++ Numeral.padded microsecondDigits packed.microseconds)

/-- Six digits of a fraction are shown by a column that declares them. -/
theorem fractionText_six
    {microseconds : Nat}
    (small : microseconds < 10 ^ microsecondDigits) :
    fractionText microseconds 6 = "." ++ Numeral.padded microsecondDigits microseconds := by
  have places :
      (Numeral.padded microsecondDigits microseconds).toList.length = microsecondDigits :=
    Numeral.length_padded (by decide) small
  have allShown :
      (Numeral.padded microsecondDigits microseconds).toList.take (fractionDigits 6) =
        (Numeral.padded microsecondDigits microseconds).toList :=
    List.take_of_length_le (Nat.le_of_eq places)
  have declared : ¬ 6 = 0 := by decide
  have shows : ¬ (6 = 0 ∧ microseconds = 0) := fun showsNothing => declared showsNothing.1
  simp only [fractionText, if_neg shows, if_neg declared, allShown, String.ofList_toList]

/-- Each text of a date-time is the one that some column shows, which shows all digits. -/
theorem WrittenAs.exists_decimals
    {text : String}
    (written : packed.WrittenAs text)
    (small : packed.microseconds < 10 ^ microsecondDigits) :
    ∃ decimals, shownDigits decimals = microsecondDigits ∧ text = packed.spelled decimals := by
  cases written with
  | whole noFraction =>
      refine ⟨0, rfl, ?_⟩
      rw [spelled, fractionText, if_pos ⟨rfl, noFraction⟩, String.append_empty]
  | fraction =>
      refine ⟨6, rfl, ?_⟩
      rw [spelled, fractionText_six small, String.append_assoc]

/-- A text of a date-time is read as the date-time that its parts name. -/
theorem WrittenAs.parseDateTime_eq
    {text : String}
    {moment : Option DateTime}
    (written : packed.WrittenAs text)
    (small : packed.microseconds < 10 ^ microsecondDigits)
    (zeroAsWhole : packed.isZeroDate = true → packed = {})
    (named : packed.dateTime = .ok moment) :
    parseDateTime text = .ok (moment.map (DateTime.cut microsecondDigits)) := by
  obtain ⟨decimals, allDigits, rfl⟩ := written.exists_decimals small
  rw [← literal_eq_spelled zeroAsWhole, parseDateTime_literal small named, allDigits]

end PackedDateTime

/-! ## Values of a server -/

/-- Whether a year has four digits at most. -/
def FourDigits (year : Int) : Prop :=
  0 ≤ year ∧ year ≤ 9999

instance (year : Int) : Decidable (FourDigits year) := by
  unfold FourDigits
  infer_instance

/-- Whether a server has a date-time: it has no leap seconds and no digits below a microsecond. -/
structure DateTime.OnServer (dateTime : DateTime) : Prop where
  year : FourDigits dateTime.date.year
  noLeapSecond : ¬ dateTime.InLeapSecond
  wholeMicroseconds : dateTime.cut microsecondDigits = dateTime

/-- A server has every day of its years. -/
theorem DateTime.onServer_atMidnight
    {date : Date}
    (year : FourDigits date.year) :
    (atMidnight date).OnServer where
  year := year
  noLeapSecond := by
    simp only [InLeapSecond, atMidnight, TimeOfDay.midnight]
    decide
  wholeMicroseconds := by
    have noFraction : TimeOfDay.midnight.cut microsecondDigits = TimeOfDay.midnight := by
      decide
    exact congrArg (DateTime.mk date) noFraction

namespace PackedDateTime

/-- The parts of a value; those of no value are zeros. -/
def ofMoment : Option DateTime → PackedDateTime
  | some dateTime => dateTime.packed
  | none => {}

variable {moment : Option DateTime}

theorem fitsGroups_ofMoment (onServer : ∀ dateTime ∈ moment, dateTime.OnServer) :
    (ofMoment moment).FitsGroups := by
  cases moment with
  | none => exact ⟨by decide, by decide, by decide⟩
  | some dateTime =>
      obtain ⟨year, noLeapSecond, -⟩ := onServer dateTime rfl
      obtain ⟨-, ⟨-, month⟩, -, day⟩ := dateTime.date.onCalendar
      obtain ⟨hour, minute, second, -⟩ := dateTime.time.onClock
      have lastDay := daysInMonth_le dateTime.date.year dateTime.date.month
      have microseconds := DateTime.microseconds_packed_lt noLeapSecond
      rw [FourDigits] at year
      simp only [microsecondDigits] at microseconds
      constructor
      · simp only [ofMoment, DateTime.packed]
        omega
      · simp only [ofMoment, DateTime.packed]
        omega
      · exact Nat.lt_trans microseconds (by decide)

theorem dateTime_ofMoment (onServer : ∀ dateTime ∈ moment, dateTime.OnServer) :
    (ofMoment moment).dateTime = .ok moment := by
  cases moment with
  | none => rfl
  | some dateTime =>
      obtain ⟨year, noLeapSecond, wholeMicroseconds⟩ := onServer dateTime rfl
      rw [ofMoment, DateTime.dateTime_packed year.1 noLeapSecond, wholeMicroseconds]

theorem date_ofMoment (onServer : ∀ dateTime ∈ moment, dateTime.OnServer) :
    (ofMoment moment).date = .ok (moment.map DateTime.date) := by
  cases moment with
  | none => rfl
  | some dateTime => exact DateTime.date_packed (onServer dateTime rfl).year.1

/-- Every text of a value is read as the value. -/
theorem WrittenAs.parseDateTime_ofMoment
    {text : String}
    (written : (ofMoment moment).WrittenAs text)
    (onServer : ∀ dateTime ∈ moment, dateTime.OnServer) :
    parseDateTime text = .ok moment := by
  have named := dateTime_ofMoment onServer
  cases moment with
  | none => exact written.parseDateTime_eq (by decide) (fun _ => rfl) named
  | some dateTime =>
      obtain ⟨year, noLeapSecond, wholeMicroseconds⟩ := onServer dateTime rfl
      have someDate := not_isZeroDate_of_date (DateTime.date_packed year.1)
      have zeroAsWhole : dateTime.packed.isZeroDate = true → dateTime.packed = {} := by
        rw [someDate]
        exact nofun
      have read :=
        written.parseDateTime_eq (DateTime.microseconds_packed_lt noLeapSecond) zeroAsWhole named
      rwa [Option.map_some, wholeMicroseconds] at read

end PackedDateTime

end ResultSet
