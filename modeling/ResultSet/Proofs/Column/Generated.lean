import ResultSet.Proofs.Column.RoundTrip
import ResultSet.Proofs.Text.Utf8

namespace ResultSet

/-!
# Columns that the client makes up

The client lays the packet of such a column out by hand, and notes where each name comes
to stand while it writes it.  Reading the packet notes the same spans: in front of a name
stands its length, in whichever of the four forms the length takes, and the span begins
behind it.  So the packet reads as the very column that it was made for, and nobody can
tell the column from one that a server described.  A name takes less than `2 ^ 64` octets,
as every text does that is kept in an address space of 64 bits.
-/

variable {packet written name : Octets}

namespace Cursor

/-- The place behind the last octet of a packet. -/
def endOf (packet : Octets) : Cursor :=
  ⟨packet, packet.length, Nat.le_refl _⟩

theorem advanced_eq_endOf
    {count : Nat}
    (enough : packet.length ≤ count) :
    (ofPacket packet).advanced count = endOf packet :=
  eq_of_position rfl (Nat.min_eq_right (Nat.le_trans enough (Nat.le_add_left _ _)))

end Cursor

/-! ## One name -/

namespace ColumnNames

theorem append_fst (written name : Octets) :
    (append written name).1 = written ++ Message.lengthEncodedOctets name := by
  simp only [append, Message.lengthEncodedOctets, List.append_assoc]

theorem prefix_append (written name : Octets) : written <+: (append written name).1 := by
  rw [append_fst]
  exact List.prefix_append _ _

/-- The span that is noted for a name holds the name. -/
theorem within_append
    (isWritten : (append written name).1 <+: packet) :
    (append written name).2.within packet = name := by
  obtain ⟨behind, rfl⟩ := isWritten
  simp only [append, Span.within, Nat.add_sub_cancel_left]
  rw [List.append_assoc, List.drop_left, List.take_left]

end ColumnNames

namespace Read

/-- From where a name is written, its reading notes the same span as its writing. -/
theorem run_lengthEncodedSpan_append
    (addressable : name.length < 2 ^ 64)
    (isWritten : (ColumnNames.append written name).1 <+: packet) :
    lengthEncodedSpan.run ((Cursor.ofPacket packet).advanced written.length) =
      .ok (ColumnNames.append written name).2
        ((Cursor.ofPacket packet).advanced (ColumnNames.append written name).1.length) := by
  have writtenIn :
      written ++ (Message.lengthEncoded name.length ++ name) <+: (Cursor.ofPacket packet).rest := by
    rwa [ColumnNames.append_fst] at isWritten
  obtain ⟨writtenNext, announcedNext⟩ := Accepts.next_of_append writtenIn
  obtain ⟨lengthNext, nameNext⟩ := Accepts.next_of_append announcedNext
  obtain ⟨_, announces, rfl⟩ := accepts_lengthEncoded addressable _ rfl lengthNext
  obtain ⟨_, passes, _⟩ := accepts_skip name _ rfl nameNext
  rw [Cursor.advanced_advanced] at announces passes
  let begins := (Cursor.ofPacket packet).advanced
    (written.length + (Message.lengthEncoded name.length).length)
  have stands : position.run begins = .ok begins.position begins := rfl
  have place : begins.position = written.length + (Message.lengthEncoded name.length).length := by
    have fits := Cursor.length_le_remaining writtenIn
    rw [← List.append_assoc, List.length_append, List.length_append] at fits
    exact (Cursor.position_advanced (Nat.le_of_add_right_le fits)).trans (Nat.zero_add _)
  rw [lengthEncodedSpan, run_bind_of_ok announces, run_bind_of_ok stands, run_bind_of_ok passes,
    EStateM.run_pure, place, Cursor.advanced_advanced]
  simp [ColumnNames.append, Nat.add_assoc]

end Read

namespace Column

open Read

/-! ## The whole packet -/

variable {text : String} {type : ServerType} {length : UInt32} {flags : UInt16}

/-- Reading the names finds the spans that were noted, and the spans hold the names. -/
theorem run_readNames_generated
    (addressable : (Text.encode text).length < 2 ^ 64) :
    let column := generated text type length flags
    ∃ taken,
      readNames.run (Cursor.ofPacket column.packet) =
          .ok column.names ((Cursor.ofPacket column.packet).advanced taken) ∧
        column.packet.drop taken = Definition.writeShape column.shape ∧
        column.names.Mark column.packet (Definition.generated text type length flags) := by
  intro column
  let octets := Text.encode text
  let catalog := Message.lengthEncodedOctets Definition.defaultCatalog
  let schema := ColumnNames.append catalog []
  let tableAlias := ColumnNames.append schema.1 []
  let tableName := ColumnNames.append tableAlias.1 []
  let columnAlias := ColumnNames.append tableName.1 octets
  let columnName := ColumnNames.append columnAlias.1 octets
  have packet : column.packet = columnName.1 ++ Definition.writeShape column.shape := rfl
  have names :
      column.names = ⟨schema.2, tableAlias.2, tableName.2, columnAlias.2, columnName.2⟩ :=
    rfl
  -- What is written up to a name stays in front of all that is written behind it.
  have columnNameIn : columnName.1 <+: column.packet := packet ▸ List.prefix_append _ _
  have columnAliasIn : columnAlias.1 <+: column.packet :=
    (ColumnNames.prefix_append _ _).trans columnNameIn
  have tableNameIn : tableName.1 <+: column.packet :=
    (ColumnNames.prefix_append _ _).trans columnAliasIn
  have tableAliasIn : tableAlias.1 <+: column.packet :=
    (ColumnNames.prefix_append _ _).trans tableNameIn
  have schemaIn : schema.1 <+: column.packet :=
    (ColumnNames.prefix_append _ _).trans tableAliasIn
  have catalogIn : catalog <+: column.packet :=
    (ColumnNames.prefix_append _ _).trans schemaIn
  refine ⟨columnName.1.length, ?_, ?_, ?_⟩
  · obtain ⟨_, passes, _⟩ :=
      accepts_skipLengthEncoded (by decide) (Cursor.ofPacket column.packet) rfl catalogIn
    rw [readNames, run_bind_of_ok passes,
      run_bind_of_ok (run_lengthEncodedSpan_append (by decide) schemaIn),
      run_bind_of_ok (run_lengthEncodedSpan_append (by decide) tableAliasIn),
      run_bind_of_ok (run_lengthEncodedSpan_append (by decide) tableNameIn),
      run_bind_of_ok (run_lengthEncodedSpan_append addressable columnAliasIn),
      run_bind_of_ok (run_lengthEncodedSpan_append addressable columnNameIn),
      EStateM.run_pure, names]
  · rw [packet, List.drop_left]
  · exact
      { schema := ColumnNames.within_append schemaIn
        tableAlias := ColumnNames.within_append tableAliasIn
        tableName := ColumnNames.within_append tableNameIn
        columnAlias := ColumnNames.within_append columnAliasIn
        columnName := ColumnNames.within_append columnNameIn }

/-- The names of a column that the client makes up: only the column itself has one. -/
structure HasOnlyName (column : Column) (name : String) : Prop where
  schema : column.schema = ""
  tableAlias : column.tableAlias = ""
  table : ∀ mode, column.table mode = ""
  columnAlias : column.columnAlias = name
  columnName : column.columnName = name

theorem hasOnlyName_of_mark
    {column : Column}
    (marked : column.names.Mark column.packet (Definition.generated text type length flags)) :
    column.HasOnlyName text where
  schema := congrArg Text.decode marked.schema
  tableAlias := congrArg Text.decode marked.tableAlias
  table
    | .table => congrArg Text.decode marked.tableName
    | .aliased => congrArg Text.decode marked.tableAlias
  columnAlias := (congrArg Text.decode marked.columnAlias).trans (Text.decode_encode text)
  columnName := (congrArg Text.decode marked.columnName).trans (Text.decode_encode text)

/-- The packet of a column that the client makes up reads as that column, to its end. -/
theorem run_read_generated
    (addressable : (Text.encode text).length < 2 ^ 64) :
    let column := generated text type length flags
    (read {}).run (Cursor.ofPacket column.packet) = .ok column (Cursor.endOf column.packet) := by
  intro column
  let start := Cursor.ofPacket column.packet
  obtain ⟨taken, readsNames, shapeFollows, -⟩ := run_readNames_generated addressable
  have shapeNext : Definition.writeShape column.shape <+: (start.advanced taken).rest := by
    rw [Cursor.rest_advanced]
    exact shapeFollows ▸ List.prefix_rfl
  obtain ⟨_, readsShape, rfl⟩ := accepts_readShape column.shape _ rfl shapeNext
  have packetOf : Read.packet.run start = .ok column.packet start := rfl
  have noExtended :
      (readAgreedExtended {}).run (start.advanced taken) = .ok {} (start.advanced taken) :=
    rfl
  have isRest :
      column.packet.length - taken = (Definition.writeShape column.shape).length := by
    rw [← List.length_drop]
    exact congrArg List.length shapeFollows
  have atEnd :
      start.advanced (taken + (Definition.writeShape column.shape).length) =
        Cursor.endOf column.packet :=
    Cursor.advanced_eq_endOf (by omega)
  rw [read, run_bind_of_ok packetOf, run_bind_of_ok readsNames, run_bind_of_ok noExtended,
    run_bind_of_ok readsShape, EStateM.run_pure, Cursor.advanced_advanced, atEnd]
  rfl

end Column

/--
A column that the client makes up cannot be told from one that a server described: its
packet reads, to its end, as the column itself, with all spans and all that they hold.
-/
theorem generated_column_is_read_back
    (name : String)
    (type : ServerType)
    (length : UInt32)
    (flags : UInt16)
    (addressable : (Text.encode name).length < 2 ^ 64) :
    let column := Column.generated name type length flags
    (Column.read {}).run (Cursor.ofPacket column.packet) =
        .ok column (Cursor.endOf column.packet) ∧
      column.HasOnlyName name ∧
      column.extended = {} ∧
      column.shape = ⟨Collation.utf8General, length, type, flags, 0⟩ := by
  obtain ⟨_, _, _, marked⟩ := Column.run_readNames_generated addressable
  exact ⟨Column.run_read_generated addressable, Column.hasOnlyName_of_mark marked, rfl, rfl⟩

/-- A name whose length takes three octets instead of one. -/
theorem column_of_251_digits_is_read_back :
    let name := String.ofList (List.replicate 251 '7')
    (Text.encode name).length < 2 ^ 64 ∧
      let column := Column.generated name .geometry 0xFFFFFFFF 0xFFFF
      (Column.read {}).run (Cursor.ofPacket column.packet) =
          .ok column (Cursor.endOf column.packet) ∧
        column.HasOnlyName name ∧
        column.extended = {} ∧
        column.shape = ⟨Collation.utf8General, 0xFFFFFFFF, .geometry, 0xFFFF, 0⟩ := by
  intro name
  have addressable : (Text.encode name).length < 2 ^ 64 := by
    have areDigits : ∀ digit ∈ name.toList, digit.isDigit = true := by
      intro digit member
      rw [String.toList_ofList] at member
      rw [List.eq_of_mem_replicate member]
      rfl
    rw [Text.length_encode_of_digits areDigits, String.toList_ofList, List.length_replicate]
    decide
  exact ⟨addressable, generated_column_is_read_back name _ _ _ addressable⟩

end ResultSet
