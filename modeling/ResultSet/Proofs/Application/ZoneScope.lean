import ResultSet.Proofs.Application.Natural
import ResultSet.Proofs.Calendar.Timeline
import ResultSet.Proofs.Field.Consumption

namespace ResultSet

/-!
# Where the zone of the caller counts

The zone is passed to every decoder, but only the natural representation of date-times
and their codec look at it.  There two decodings of one field in different zones run
alike: they end at the same place with the same fault, or with no value both, or with
date-times that are apart by the offset.  All other decodings are the same in all zones,
so that the functions for one representation may leave the zone out.
-/

/-! ## Two runs -/

/-- Two runs that end at one place, with one fault or with results that are related. -/
inductive RunsAlike
    {First Second : Type}
    (Related : First → Second → Prop) :
    EStateM.Result Fault Cursor First → EStateM.Result Fault Cursor Second → Prop where
  | results
      {first : First}
      {second : Second}
      (related : Related first second)
      (behind : Cursor) :
      RunsAlike Related (.ok first behind) (.ok second behind)
  | faults
      (fault : Fault)
      (behind : Cursor) :
      RunsAlike Related (.error fault behind) (.error fault behind)

/-- What is made of one reading in two ways is related when the ways are. -/
theorem FieldReader.runsAlike_framed_map
    {Result First Second : Type}
    {Related : First → Second → Prop}
    {makeFirst : Result → First}
    {makeSecond : Result → Second}
    (related : ∀ result, Related (makeFirst result) (makeSecond result))
    (reader : FieldReader Result)
    (length : Nat)
    (start : Cursor) :
    RunsAlike Related
      ((Read.framed length (reader.map makeFirst).read).run start)
      ((Read.framed length (reader.map makeSecond).read).run start) := by
  rw [← map_framed, ← map_framed, map_eq_pure_bind, map_eq_pure_bind, EStateM.run_bind,
    EStateM.run_bind]
  cases (Read.framed length reader.read).run start with
  | ok result behind => exact .results (related result) behind
  | error fault behind => exact .faults fault behind

/-! ## Zones of values -/

/-- What a zone makes of a value: of no value none, and of a date-time a date-time. -/
inductive ZoneOffset.TakesValue (offset : ZoneOffset) : Value → Value → Prop where
  | null : TakesValue offset .null .null
  | dateTime
      {localTime universal : DateTime}
      (takes : offset.Takes localTime universal) :
      TakesValue offset (.dateTime localTime) (.dateTime universal)

/-- How the zone of the caller acts on the decodings of a field. -/
structure Column.ZoneScope
    (column : Column)
    (protocol : Protocol)
    (length : Nat) :
    Prop where
  /-- Only the natural representation of date-times looks at the zone. -/
  decode :
    ∀ target, ¬ (target = .natural ∧ column.shape.type.family = .timestamp) →
      ∀ first second : Option ZoneOffset,
        column.decode ⟨protocol, first⟩ target length =
          column.decode ⟨protocol, second⟩ target length
  /-- The codec of dates does not look at the zone. -/
  dates :
    ∀ first second : Option ZoneOffset,
      dateCodec.decode column ⟨protocol, first⟩ length =
        dateCodec.decode column ⟨protocol, second⟩ length
  /-- The codec of date-times looks at the zone in columns of date-times only. -/
  dateTimes :
    ¬ (column.shape.type = .dateTime ∨ column.shape.type = .timestamp) →
      ∀ first second : Option ZoneOffset,
        dateTimeCodec.decode column ⟨protocol, first⟩ length =
          dateTimeCodec.decode column ⟨protocol, second⟩ length
  /-- The zone moves the date-times that are natural representations, and nothing else. -/
  movesNatural :
    column.shape.type.family = .timestamp →
      ∀ (offset : ZoneOffset) (start : Cursor),
        RunsAlike offset.TakesValue
          ((column.decode ⟨protocol, none⟩ .natural length).run start)
          ((column.decode ⟨protocol, some offset⟩ .natural length).run start)
  /-- The zone moves the date-times that their codec reads, and nothing else. -/
  movesDateTimes :
    column.shape.type = .dateTime ∨ column.shape.type = .timestamp →
      ∀ (offset : ZoneOffset) (start : Cursor),
        RunsAlike (Option.Rel offset.Takes)
          ((dateTimeCodec.decode column ⟨protocol, none⟩ length).run start)
          ((dateTimeCodec.decode column ⟨protocol, some offset⟩ length).run start)
  /-- The functions for one representation decode it as in any zone. -/
  typed :
    ∀ target (offset : Option ZoneOffset),
      target.toValue <$> column.decodeTyped ⟨protocol, offset⟩ length target =
        column.decode ⟨protocol, offset⟩ target length

namespace Column

variable {column : Column} {protocol : Protocol} {length : Nat}

theorem reader_eq_of_zones
    {shape : Shape}
    {target : Target}
    (isNoMoment : ¬ (target = .natural ∧ shape.type.family = .timestamp))
    (first second : Option ZoneOffset) :
    shape.reader ⟨protocol, first⟩ target length =
      shape.reader ⟨protocol, second⟩ target length := by
  rw [Shape.reader, Shape.reader]
  cases isFamily : shape.type.family with
  | timestamp =>
      cases target with
      | natural => exact absurd ⟨rfl, isFamily⟩ isNoMoment
      | _ => cases protocol <;> rfl
  | _ => rfl

theorem decode_eq_of_zones
    {target : Target}
    (isNoMoment : ¬ (target = .natural ∧ column.shape.type.family = .timestamp))
    (first second : Option ZoneOffset) :
    column.decode ⟨protocol, first⟩ target length =
      column.decode ⟨protocol, second⟩ target length := by
  rw [decode, decode, decodeAs, decodeAs, reader_eq_of_zones isNoMoment first second]

end Column

theorem DateTimeCodec.reader_eq_of_zones
    {shape : Shape}
    {protocol : Protocol}
    {length : Nat}
    (isNoMoment : ¬ (shape.type = .dateTime ∨ shape.type = .timestamp))
    (first second : Option ZoneOffset) :
    dateTimeCodec.reader ⟨protocol, first⟩ shape length =
      dateTimeCodec.reader ⟨protocol, second⟩ shape length := by
  rw [not_or] at isNoMoment
  simp only [dateTimeCodec]
  rw [reader.eq_def, reader.eq_def]
  cases isType : shape.type with
  | dateTime => exact absurd isType isNoMoment.1
  | timestamp => exact absurd isType isNoMoment.2
  | _ => cases protocol <;> rfl

theorem ZoneOffset.takesValue_dateTimeValue
    (offset : ZoneOffset)
    (moment : Option DateTime) :
    offset.TakesValue (TemporalField.dateTimeValue none moment)
      (TemporalField.dateTimeValue offset moment) := by
  cases moment with
  | none => exact .null
  | some localTime => exact .dateTime (offset.takes_localToUniversal localTime)

theorem ZoneOffset.rel_map_localToUniversal
    (offset : ZoneOffset)
    (moment : Option DateTime) :
    Option.Rel offset.Takes (moment.map (DateTime.localToUniversal none))
      (moment.map (DateTime.localToUniversal offset)) := by
  cases moment with
  | none => exact .none
  | some localTime => exact .some (offset.takes_localToUniversal localTime)

namespace Column

variable {column : Column} {protocol : Protocol} {length : Nat}

theorem valueReader_moment
    (isMoment : column.shape.type.family = .timestamp)
    (offset : Option ZoneOffset) :
    column.valueReader ⟨protocol, offset⟩ .natural length =
      (TemporalField.momentReader protocol length).map
        (TemporalField.dateTimeValue offset) := by
  rw [valueReader, reader_natural_moment isMoment, FieldReader.map_map]
  rfl

theorem typed_eq_decode
    (target : Target)
    (offset : Option ZoneOffset) :
    target.toValue <$> column.decodeTyped ⟨protocol, offset⟩ length target =
      column.decode ⟨protocol, offset⟩ target length := by
  cases target with
  | text => rfl
  | natural => rfl
  | _ => exact decode_eq_of_zones (by simp) none offset

end Column

/--
The zone of the caller counts where the natural representation of a date-time is asked
for and where the codec of date-times reads a column of them; it moves the date-times
there, and no other decoding depends on it.
-/
theorem zones_move_moments_only
    (column : Column)
    (protocol : Protocol)
    (length : Nat) :
    column.ZoneScope protocol length where
  decode _ isNoMoment first second := Column.decode_eq_of_zones isNoMoment first second
  dates _ _ := rfl
  dateTimes isNoMoment first second := by
    rw [Codec.decode, Codec.decode, Codec.read, Codec.read,
      DateTimeCodec.reader_eq_of_zones isNoMoment first second]
  movesNatural isMoment offset start := by
    rw [Column.decode_eq_framed, Column.decode_eq_framed, Column.valueReader_moment isMoment,
      Column.valueReader_moment isMoment]
    exact FieldReader.runsAlike_framed_map offset.takesValue_dateTimeValue _ length start
  movesDateTimes isMoment offset start := by
    rw [Codec.decode, Codec.decode, Codec.read, Codec.read,
      DateTimeCodec.reader_timestamp isMoment, DateTimeCodec.reader_timestamp isMoment]
    exact FieldReader.runsAlike_framed_map offset.rel_map_localToUniversal _ length start
  typed := Column.typed_eq_decode

/-- The first hours of a day, in a zone two hours ahead, are on the leap day before it. -/
theorem zone_ahead_leads_to_leap_day :
    let column := Column.generated "at" .dateTime 26 0
    let start := Cursor.ofPacket (Text.encode "2024-03-01 01:30:00")
    let ahead : ZoneOffset := ⟨7200, by decide⟩
    let localTime : DateTime := ⟨⟨2024, 3, 1, by decide⟩, ⟨1, 30, 0, 0, by decide⟩⟩
    let universal : DateTime := ⟨⟨2024, 2, 29, by decide⟩, ⟨23, 30, 0, 0, by decide⟩⟩
    localTime.IsMovedBy (-7200) universal ∧
      (column.decode ⟨.text, none⟩ .natural 19).outcome start = .ok (.dateTime localTime) ∧
      (column.decode ⟨.text, ahead⟩ .natural 19).outcome start = .ok (.dateTime universal) ∧
      column.decode ⟨.text, none⟩ .text 19 = column.decode ⟨.text, ahead⟩ .text 19 := by
  intro column start ahead localTime universal
  have scope := zones_move_moments_only column .text 19
  have isMoved : localTime.IsMovedBy (-7200) universal := ⟨by decide, rfl⟩
  have isLocal :
      (column.decode ⟨.text, none⟩ .natural 19).outcome start = .ok (.dateTime localTime) := by
    decide +kernel
  have alike := scope.movesNatural rfl ahead start
  refine ⟨isMoved, isLocal, ?_, scope.decode .text (by decide) none ahead⟩
  rw [Read.outcome] at isLocal ⊢
  generalize (column.decode ⟨.text, none⟩ .natural 19).run start = first at alike isLocal
  generalize (column.decode ⟨.text, ahead⟩ .natural 19).run start = second at alike
  cases alike with
  | faults fault behind => cases isLocal
  | results related behind =>
      cases isLocal
      cases related with
      | dateTime takes => rw [takes.eq_of_isMovedBy isMoved]

end ResultSet
