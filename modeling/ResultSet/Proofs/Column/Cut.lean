import ResultSet.Proofs.Column.RoundTrip
import ResultSet.Proofs.Packet.Cut

namespace ResultSet

/-!
# Definitions that are cut off

A definition that is cut off somewhere before the end of its decimals is never taken for
another one, nor for a violation of the protocol: its reading fails for want of octets.
The cut may come inside a length, a name, the extended type information or the fixed
part.  Only the two octets behind the decimals may be missing.
-/

namespace Column

open Read

/-! ## The definition up to its decimals -/

/-- The fixed part up to the decimals. -/
def readUnfilledShape : Read Shape := do
  readFixedPartLength
  let collation ← Read.unsigned 2
  let columnLength ← Read.unsigned 4
  let type ← readType
  let flags ← Read.unsigned 2
  let decimals ← Read.unsigned 1
  return ⟨UInt16.ofNat collation, UInt32.ofNat columnLength, type, UInt16.ofNat flags,
    UInt8.ofNat decimals⟩

/-- A definition up to its decimals. -/
def readUnfilled (options : MetadataOptions) : Read Column := do
  let packet ← Read.packet
  let names ← readNames
  let extended ← readAgreedExtended options
  let shape ← readUnfilledShape
  return ⟨packet, names, extended, shape⟩

/-- The octets behind the decimals are passed over last, and nothing comes of them. -/
theorem read_eq_unfilled (options : MetadataOptions) :
    read options = do
      let column ← readUnfilled options
      skipFiller
      return column := by
  simp only [read, readUnfilled, readShape, readUnfilledShape, bind_assoc, pure_bind]

/-! ## Cut definitions -/

theorem curtails_readNames : readNames.Curtails readNames fun _ _ => True :=
  Curtails.skipLengthEncoded.bind fun _ _ _ =>
    Curtails.lengthEncodedSpan.bind fun _ _ _ =>
      Curtails.lengthEncodedSpan.bind fun _ _ _ =>
        Curtails.lengthEncodedSpan.bind fun _ _ _ =>
          Curtails.lengthEncodedSpan.bind fun _ _ _ =>
            Curtails.lengthEncodedSpan.bind fun _ _ _ => .pure trivial

/-- A cut inside the extended type information shows before any of it is looked at. -/
theorem curtails_readExtended : readExtended.Curtails readExtended Eq := by
  refine Curtails.lengthEncodedPacket.bind ?_
  rintro inner _ rfl
  split
  · exact .pure rfl
  · exact .throw _ _

theorem curtails_readAgreedExtended (options : MetadataOptions) :
    (readAgreedExtended options).Curtails (readAgreedExtended options) Eq := by
  rw [readAgreedExtended]
  split
  · exact curtails_readExtended
  · exact .pure rfl

theorem curtails_readFixedPartLength : readFixedPartLength.Curtails readFixedPartLength Eq := by
  refine Curtails.lengthEncoded.bind ?_
  rintro length _ rfl
  split
  · exact .throw _ _
  · exact .pure rfl

theorem curtails_readType : readType.Curtails readType Eq := by
  refine (Curtails.unsigned 1).bind ?_
  rintro code _ rfl
  dsimp only
  split
  · exact .pure rfl
  · exact .throw _ _

theorem curtails_readUnfilledShape :
    readUnfilledShape.Curtails readUnfilledShape fun _ _ => True :=
  curtails_readFixedPartLength.bind fun _ _ _ =>
    (Curtails.unsigned 2).bind fun _ _ _ =>
      (Curtails.unsigned 4).bind fun _ _ _ =>
        curtails_readType.bind fun _ _ _ =>
          (Curtails.unsigned 2).bind fun _ _ _ =>
            (Curtails.unsigned 1).bind fun _ _ _ => .pure trivial

theorem curtails_readUnfilled (options : MetadataOptions) :
    (readUnfilled options).Curtails (readUnfilled options) fun _ _ => True :=
  Curtails.packet.bind fun _ _ _ =>
    curtails_readNames.bind fun _ _ _ =>
      (curtails_readAgreedExtended options).bind fun _ _ _ =>
        curtails_readUnfilledShape.bind fun _ _ _ => .pure trivial

/-! ## The octets behind the decimals -/

/-- How many octets are passed over behind the decimals: two, or none if there are fewer. -/
def fillerLength (remaining : Nat) : Nat :=
  if 2 ≤ remaining then 2 else 0

theorem fillerLength_le (remaining : Nat) : fillerLength remaining ≤ 2 := by
  rw [fillerLength]
  split
  · exact Nat.le_refl 2
  · exact Nat.zero_le 2

theorem run_skipFiller (start : Cursor) :
    skipFiller.run start = .ok () (start.advanced (fillerLength start.remaining)) := by
  rw [skipFiller, run_bind_of_ok (run_hasRemaining 2 start), fillerLength]
  by_cases fits : 2 ≤ start.remaining
  · rw [decide_eq_true fits, if_pos rfl, if_pos fits, Read.skip,
      run_bind_of_ok (run_octets_of_le fits)]
    rfl
  · rw [decide_eq_false fits, if_neg Bool.false_ne_true, if_neg fits, Cursor.advanced_zero]
    rfl

/-- A definition is read just if it is read up to its decimals. -/
theorem run_read_of_unfilled
    {options : MetadataOptions}
    {start behind : Cursor}
    {column : Column}
    (reads : (readUnfilled options).run start = .ok column behind) :
    (read options).run start =
      .ok column (behind.advanced (fillerLength behind.remaining)) := by
  rw [read_eq_unfilled, run_bind_of_ok reads, run_bind_of_ok (run_skipFiller behind),
    EStateM.run_pure]

theorem exists_unfilled_of_run_read
    {options : MetadataOptions}
    {start finish : Cursor}
    {column : Column}
    (reads : (read options).run start = .ok column finish) :
    ∃ behind,
      (readUnfilled options).run start = .ok column behind ∧
        finish = behind.advanced (fillerLength behind.remaining) := by
  rw [read_eq_unfilled] at reads
  obtain ⟨column, behind, readsUnfilled, continues⟩ := run_bind_eq_ok reads
  rw [run_bind_of_ok (run_skipFiller behind)] at continues
  cases continues
  exact ⟨behind, readsUnfilled, rfl⟩

/--
What is read as a definition has an extent, up to the end of its decimals.  A cut of it
overruns just if it is shorter than this extent.
-/
theorem exists_extent
    {options : MetadataOptions}
    {start finish : Cursor}
    {column : Column}
    (reads : (read options).run start = .ok column finish) :
    ∃ extent,
      finish.position = start.position + extent + fillerLength (start.remaining - extent) ∧
        ∀ cut : Cursor,
          cut.rest <+: start.rest →
            ((read options).Overruns cut ↔ cut.remaining < extent) := by
  obtain ⟨behind, readsUnfilled, rfl⟩ := exists_unfilled_of_run_read reads
  obtain ⟨samePacket, ahead⟩ := (curtails_readUnfilled options).forward readsUnfilled
  have leftBehind : behind.remaining = start.remaining - (behind.position - start.position) := by
    rw [Cursor.remaining, Cursor.remaining, samePacket]
    omega
  refine ⟨behind.position - start.position, ?_, fun cut isCut => ⟨fun overruns => ?_, ?_⟩⟩
  · rw [← leftBehind, Nat.add_sub_cancel' ahead]
    refine Cursor.position_advanced ?_
    rw [fillerLength]
    split
    · assumption
    · exact Nat.zero_le _
  · by_contra longEnough
    obtain ⟨other, readsCut, -⟩ :=
      (curtails_readUnfilled options).enough readsUnfilled isCut (Nat.le_of_not_lt longEnough)
    obtain ⟨needed, available, fails⟩ := overruns
    rw [outcome_of_ok (run_read_of_unfilled readsCut)] at fails
    cases fails
  · intro tooShort
    rw [read_eq_unfilled]
    exact ((curtails_readUnfilled options).short readsUnfilled isCut tooShort).bind _

end Column

/--
Reading a definition that is cut off before the end of its decimals overruns, and does
not end in another way.  This holds of every definition that is written, of which all but
two octets come up to the decimals, and of whatever else is read as a definition: it has
an extent such that just the cuts that are shorter overrun.
-/
theorem cut_definitions_overrun (options : MetadataOptions) :
    (∀ (definition : Definition) (cut : Cursor),
      definition.extended.isSome = options.extendedTypeInfo →
        definition.write.length < 2 ^ 64 →
          cut.rest <+: definition.write →
            cut.remaining + 2 < definition.write.length →
              (Column.read options).Overruns cut) ∧
      ∀ (start finish : Cursor) (column : Column),
        (Column.read options).run start = .ok column finish →
          ∃ extent,
            finish.position =
                start.position + extent + Column.fillerLength (start.remaining - extent) ∧
              ∀ cut : Cursor,
                cut.rest <+: start.rest →
                  ((Column.read options).Overruns cut ↔ cut.remaining < extent) := by
  refine ⟨fun definition cut agreed addressable isCut early => ?_, fun _ _ _ reads =>
    Column.exists_extent reads⟩
  let start := Cursor.ofPacket definition.write
  obtain ⟨column, reads, -⟩ := Column.accepts_read agreed addressable start rfl List.prefix_rfl
  obtain ⟨extent, stops, overruns_iff⟩ := Column.exists_extent reads
  have atEnd : (start.advanced definition.write.length).position = definition.write.length :=
    (Cursor.position_advanced (Nat.le_refl _)).trans (Nat.zero_add _)
  have begins : start.position = 0 := rfl
  have filler : Column.fillerLength (start.remaining - extent) ≤ 2 := Column.fillerLength_le _
  rw [atEnd, begins] at stops
  exact (overruns_iff cut isCut).mpr (by omega)

namespace Column

/-- A definition with extended type information. -/
def taggedDefinition : Definition :=
  { Definition.generated "shape" .geometry 0 0 with
    extended := some [(0, [112]), (9, []), (0, [112, 116])] }

/-- A definition with a length in more octets than it takes, and nothing behind the decimals. -/
def looseDefinition : Cursor :=
  .ofPacket [0xFC, 1, 0, 100, 0, 0, 0, 0, 0, 12, 33, 0, 11, 0, 0, 0, 3, 0, 0, 0]

/-- What the definition above is read as. -/
def looseColumn : Column where
  packet := looseDefinition.packet
  names := ⟨⟨5, 5⟩, ⟨6, 6⟩, ⟨7, 7⟩, ⟨8, 8⟩, ⟨9, 9⟩⟩
  extended := {}
  shape := ⟨33, 11, .integer, 0, 0⟩

end Column

open Column in
/-- A definition that is cut off inside a tagged text, and the cuts of one that no writer wrote. -/
theorem definition_cut_inside_tagged_text_overruns :
    taggedDefinition.write.length < 2 ^ 64 ∧
      (Column.read ⟨true⟩).Overruns (.ofPacket (taggedDefinition.write.take 27)) ∧
      (Column.read {}).run looseDefinition = .ok looseColumn (looseDefinition.advanced 20) ∧
      ∃ extent,
        (looseDefinition.advanced 20).position =
            looseDefinition.position + extent +
              Column.fillerLength (looseDefinition.remaining - extent) ∧
          ∀ cut : Cursor,
            cut.rest <+: looseDefinition.rest →
              ((Column.read {}).Overruns cut ↔ cut.remaining < extent) := by
  have addressable : taggedDefinition.write.length < 2 ^ 64 := by decide
  have isCut : taggedDefinition.write.take 27 <+: taggedDefinition.write := List.take_prefix _ _
  have early : (taggedDefinition.write.take 27).length + 2 < taggedDefinition.write.length := by
    decide
  have reads :
      (Column.read {}).run looseDefinition = .ok looseColumn (looseDefinition.advanced 20) :=
    rfl
  have overruns : (Column.read ⟨true⟩).Overruns (.ofPacket (taggedDefinition.write.take 27)) :=
    (cut_definitions_overrun ⟨true⟩).1 taggedDefinition _ rfl addressable isCut early
  exact ⟨addressable, overruns, reads,
    (cut_definitions_overrun {}).2 looseDefinition _ looseColumn reads⟩

end ResultSet
