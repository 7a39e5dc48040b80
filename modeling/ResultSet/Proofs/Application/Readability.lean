import ResultSet.Proofs.Application.CodecAgreement
import ResultSet.Proofs.Field.Applicability

namespace ResultSet

/-!
# The columns that dates and date-times are read from

A codec says of a column beforehand whether it reads it, and goes by the type of the
column alone.  This is the whole truth but for large objects: those that hold data are of
a type that is read, and are refused all the same, whatever their octets are.  All other
columns that a codec claims to read may hold octets that spell no value, but none that it
refuses, and what it does not claim to read it refuses for all octets.
-/

variable {Result : Type}

/-- Whether an action fails because what is asked for is not served. -/
def Read.Refuses (action : Read Result) (start : Cursor) : Prop :=
  ∃ fault, action.outcome start = .error fault ∧ fault.valueKind? = some .incompatible

/-- A framed reading refuses what its reader refuses, if the packet has all its octets. -/
theorem FieldReader.refuses_framed_iff
    {reader : FieldReader Result}
    {refusal : ValueError}
    {isRefused : Prop}
    {length : Nat}
    {start : Cursor}
    (applicability : reader.Applicability refusal isRefused)
    (isRefusal : refusal.kind = .incompatible)
    (exact : isRefused → reader.size = length) :
    (Read.framed length reader.read).Refuses start ↔ isRefused ∧ length ≤ start.remaining := by
  constructor
  · rintro ⟨fault, fails, saysRefused⟩
    cases fault with
    | value error =>
        have refused : isRefused := by
          by_contra isServed
          exact kind_of_outcome_framed (applicability.serves isServed) fails
            (Option.some.inj saysRefused)
        refine ⟨refused, ?_⟩
        rw [← exact refused]
        exact (isValue_framed_iff fails).mp rfl
    | _ => cases saysRefused
  · rintro ⟨refused, fits⟩
    refine ⟨_, outcome_framed_of_refusing (applicability.refuses refused) ?_, ?_⟩
    · rwa [exact refused]
    · exact congrArg some isRefusal

namespace Shape

/-- Whether a column is a large object that holds data and no characters. -/
def IsDataObject (shape : Shape) : Prop :=
  shape.type.isBlob = true ∧ shape.isBinary = true

/-- Whether a column is refused by the codecs of dates and date-times. -/
def IsNotTemporal (shape : Shape) : Prop :=
  shape.type ∉ temporalTypes ∨ shape.IsDataObject

end Shape

/-! ## Columns of characters -/

/-- The types of the columns that hold dates, date-times and years as such. -/
def datedTypes : List ServerType :=
  [.date, .newDate, .dateTime, .timestamp, .year]

/-- Dated types are read, and none of them is a large object. -/
theorem temporal_of_dated :
    ∀ type ∈ datedTypes, type ∈ temporalTypes ∧ type.isBlob = false := by
  decide

/-- The other types that are read are types of characters. -/
theorem spellsTemporal_of_temporal :
    ∀ type ∈ temporalTypes, type ∉ datedTypes → spellsTemporal type = true := by
  decide

variable {encoding : Encoding} {shape : Shape} {length : Nat}

theorem Shape.IsNotTemporal.notDated
    (isNotTemporal : shape.IsNotTemporal) :
    shape.type ∉ datedTypes := by
  intro isDated
  obtain ⟨isRead, isNoBlob⟩ := temporal_of_dated shape.type isDated
  rcases isNotTemporal with isForeign | isDataObject
  · exact isForeign isRead
  · exact Bool.false_ne_true (isNoBlob.symm.trans isDataObject.1)

theorem spelledReader_of_isNotTemporal
    {label : String}
    {parse : String → Except ValueError Result}
    (isNotTemporal : shape.IsNotTemporal) :
    spelledReader label parse shape length = .refuse length shape.type label := by
  rw [spelledReader]
  split
  · rename_i spells
    rcases isNotTemporal with isForeign | isDataObject
    · simp only [spellsTemporal, Bool.and_eq_true, List.contains_iff_mem] at spells
      exact absurd spells.2 isForeign
    · exact if_pos isDataObject
  · rfl

theorem spelledReader_of_temporal
    {label : String}
    {parse : String → Except ValueError Result}
    (isTemporal : ¬ shape.IsNotTemporal)
    (notDated : shape.type ∉ datedTypes) :
    spelledReader label parse shape length = .text length parse := by
  obtain ⟨isRead, noDataObject⟩ := not_or.mp isTemporal
  have spells : spellsTemporal shape.type = true :=
    spellsTemporal_of_temporal shape.type (not_not.mp isRead) notDated
  rw [spelledReader, if_pos spells]
  exact if_neg noDataObject

/-! ## Meanings of dated columns -/

namespace Served

theorem parseYear (literal : String) : Served (parseYear literal) := by
  refine (parseWhole _).bind fun year => ?_
  exact .ite (.ok _) (.error rfl)

theorem yearText (octets : Octets) : Served ((yearTextReader shape length).interpret octets) :=
  (parseYear _).bind fun _ => dateOfParts _ _ _

theorem dateOfPackedOctets (octets : Octets) : Served (DateCodec.ofPacked shape octets) := by
  rw [DateCodec.ofPacked.eq_def]
  split
  · exact .ok _
  · exact dateOfParts _ _ _
  · exact dateOfParts _ _ _
  · exact .error rfl

theorem dateOfPackedYear (octets : Octets) : Served (DateTimeCodec.ofPackedYear shape octets) := by
  rw [DateTimeCodec.ofPackedYear.eq_def]
  split
  · exact .ok _
  · exact dateOfParts _ _ _
  · exact .error rfl

end Served

/-! ## Both codecs -/

namespace DateCodec

theorem served_reader_of_dated
    (isDated : shape.type ∈ datedTypes)
    (octets : Octets) :
    Served ((dateCodec.reader encoding shape length).interpret octets) := by
  rcases encoding with ⟨protocol, offset⟩
  rcases shape with ⟨collation, columnLength, type, flags, decimals⟩
  simp only [datedTypes, List.mem_cons, List.not_mem_nil, or_false] at isDated
  cases protocol with
  | text =>
      rcases isDated with rfl | rfl | rfl | rfl | rfl
      · exact .parseDate _
      · exact .parseDate _
      · exact (Served.parseDateTime _).bind fun _ => .ok _
      · exact (Served.parseDateTime _).bind fun _ => .ok _
      · exact .yearText octets
  | binary =>
      rcases isDated with rfl | rfl | rfl | rfl | rfl
      · exact .dateOfPackedOctets octets
      · exact .dateOfPackedOctets octets
      · exact (Served.packedDateTime octets).bind fun packed => .dateOfPacked packed
      · exact (Served.packedDateTime octets).bind fun packed => .dateOfPacked packed
      · exact .dateOfPackedOctets octets

end DateCodec

namespace DateTimeCodec

theorem served_reader_of_dated
    (isDated : shape.type ∈ datedTypes)
    (octets : Octets) :
    Served ((dateTimeCodec.reader encoding shape length).interpret octets) := by
  rcases encoding with ⟨protocol, offset⟩
  rcases shape with ⟨collation, columnLength, type, flags, decimals⟩
  simp only [datedTypes, List.mem_cons, List.not_mem_nil, or_false] at isDated
  cases protocol with
  | text =>
      rcases isDated with rfl | rfl | rfl | rfl | rfl
      · exact (Served.parseDate _).bind fun _ => .ok _
      · exact (Served.parseDate _).bind fun _ => .ok _
      · exact (Served.parseDateTime _).bind fun _ => .ok _
      · exact (Served.parseDateTime _).bind fun _ => .ok _
      · exact (Served.yearText octets).bind fun _ => .ok _
  | binary =>
      rcases isDated with rfl | rfl | rfl | rfl | rfl
      · exact (Served.packedDateTime octets).bind fun packed =>
          (Served.dateOfPacked packed).bind fun _ => .ok _
      · exact (Served.packedDateTime octets).bind fun packed =>
          (Served.dateOfPacked packed).bind fun _ => .ok _
      · exact (Served.packedDateTime octets).bind fun packed =>
          (Served.dateTimeOfPacked packed).bind fun _ => .ok _
      · exact (Served.packedDateTime octets).bind fun packed =>
          (Served.dateTimeOfPacked packed).bind fun _ => .ok _
      · exact (Served.dateOfPackedYear octets).bind fun _ => .ok _

end DateTimeCodec

namespace Codec

variable
  {type : ApplicationType}
  {codec : Codec type}
  {parse : String → Except ValueError (Option type.Carrier)}

/-- A codec of temporal columns: dated ones have rules of their own, others spell their values. -/
structure ReadsTemporal
    (codec : Codec type)
    (parse : String → Except ValueError (Option type.Carrier)) :
    Prop where
  readableTypes : codec.readableTypes = temporalTypes
  served_dated :
    ∀ encoding shape length octets,
      shape.type ∈ datedTypes → Served ((codec.reader encoding shape length).interpret octets)
  spelled :
    ∀ encoding shape length,
      shape.type ∉ datedTypes →
        codec.reader encoding shape length = spelledReader codec.label parse shape length
  served_parse : ∀ literal, Served (parse literal)

theorem readsTemporal_date : dateCodec.ReadsTemporal parseDate where
  readableTypes := rfl
  served_dated _ _ _ octets isDated := DateCodec.served_reader_of_dated isDated octets
  spelled _ _ _ notDated := Shape.dateCodec_reader_spelled notDated
  served_parse := Served.parseDate

theorem readsTemporal_dateTime : dateTimeCodec.ReadsTemporal parseDateTime where
  readableTypes := rfl
  served_dated _ _ _ octets isDated := DateTimeCodec.served_reader_of_dated isDated octets
  spelled _ _ _ notDated := Shape.dateTimeCodec_reader_spelled notDated
  served_parse := Served.parseDateTime

namespace ReadsTemporal

theorem reader_of_isNotTemporal
    (reads : codec.ReadsTemporal parse)
    (isNotTemporal : shape.IsNotTemporal) :
    codec.reader encoding shape length = .refuse length shape.type codec.label := by
  rw [reads.spelled _ _ _ isNotTemporal.notDated, spelledReader_of_isNotTemporal isNotTemporal]

theorem served_reader
    (reads : codec.ReadsTemporal parse)
    (isTemporal : ¬ shape.IsNotTemporal)
    (octets : Octets) :
    Served ((codec.reader encoding shape length).interpret octets) := by
  by_cases isDated : shape.type ∈ datedTypes
  · exact reads.served_dated _ _ _ octets isDated
  · rw [reads.spelled _ _ _ isDated, spelledReader_of_temporal isTemporal isDated]
    exact reads.served_parse _

theorem applicability
    (reads : codec.ReadsTemporal parse) :
    (codec.reader encoding shape length).Applicability (.incompatible shape.type codec.label)
      shape.IsNotTemporal where
  refuses isNotTemporal octets := by
    rw [reads.reader_of_isNotTemporal isNotTemporal]
    rfl
  serves isTemporal octets := reads.served_reader isTemporal octets

/-- The codec does not claim to read a column just if the type of the column is foreign to it. -/
theorem canDecode_eq_false_iff
    (reads : codec.ReadsTemporal parse)
    (column : Column) :
    codec.canDecode column type = false ↔ column.shape.type ∉ temporalTypes := by
  rw [canDecode, reads.readableTypes, BEq.rfl, Bool.true_and, ← Bool.not_eq_true,
    List.contains_iff_mem]

theorem refuses_decode_iff
    (reads : codec.ReadsTemporal parse)
    (column : Column)
    (encoding : Encoding)
    (length : Nat)
    (start : Cursor) :
    (codec.decode column encoding length).Refuses start ↔
      (codec.canDecode column type = false ∨ column.shape.IsDataObject) ∧
        length ≤ start.remaining := by
  rw [reads.canDecode_eq_false_iff]
  refine FieldReader.refuses_framed_iff reads.applicability rfl fun isNotTemporal => ?_
  rw [reads.reader_of_isNotTemporal isNotTemporal, FieldReader.size_refuse]

end ReadsTemporal

end Codec

/--
The codecs of dates and date-times refuse a column for all octets that the packet has, or
for none.  They refuse the columns that they do not claim to read, and of the others just
the large objects that hold data.
-/
theorem codecs_refuse_iff
    (column : Column)
    (encoding : Encoding)
    (length : Nat)
    (start : Cursor) :
    ((dateCodec.decode column encoding length).Refuses start ↔
      (dateCodec.canDecode column .date = false ∨ column.shape.IsDataObject) ∧
        length ≤ start.remaining) ∧
      ((dateTimeCodec.decode column encoding length).Refuses start ↔
        (dateTimeCodec.canDecode column .dateTime = false ∨ column.shape.IsDataObject) ∧
          length ≤ start.remaining) :=
  ⟨Codec.readsTemporal_date.refuses_decode_iff column encoding length start,
    Codec.readsTemporal_dateTime.refuses_decode_iff column encoding length start⟩

/-- Both codecs claim to read a large object of data, and refuse the date that it spells. -/
theorem claimed_data_object_is_refused :
    let column : Column :=
      { Column.generated "b" .blob 255 0 with shape := ⟨Collation.binary, 255, .blob, 0, 0⟩ }
    let start := Cursor.ofPacket (Text.encode "2001-02-03")
    10 ≤ start.remaining ∧
      (dateCodec.canDecode column .date = true ∧
        (dateCodec.decode column ⟨.text, none⟩ 10).Refuses start) ∧
      (dateTimeCodec.canDecode column .dateTime = true ∧
        (dateTimeCodec.decode column ⟨.binary, none⟩ 10).Refuses start) :=
  ⟨by decide, ⟨rfl, _, rfl, rfl⟩, rfl, _, rfl, rfl⟩

end ResultSet
