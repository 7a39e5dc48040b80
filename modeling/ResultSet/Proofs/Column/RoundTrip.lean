import ResultSet.Proofs.Column.ExtendedType

namespace ResultSet

/-!
# Column definitions are read back

A packet holds any number of column definitions one behind the other, with
other octets in front of them and behind them.  Reading one after the other from
the first on gives a column for each: the cursor stands at the end of every
definition once it is read, and the column presents all that its definition was
written from.  Names are kept as spans of the whole packet, so this is about the
offset of every definition as well as about the definitions.  A definition is
shorter than `2 ^ 64` octets, as all that is kept in an address space of 64 bits.
-/

namespace Column

/-- A column tells all that a definition says. -/
structure Presents
    (column : Column)
    (definition : Definition) :
    Prop where
  schema : column.schema = Text.decode definition.schema
  tableAlias : column.tableAlias = Text.decode definition.tableAlias
  tableName : column.table .table = Text.decode definition.tableName
  tableAliased : column.table .aliased = Text.decode definition.tableAlias
  columnAlias : column.columnAlias = Text.decode definition.columnAlias
  columnName : column.columnName = Text.decode definition.columnName
  extended : column.extended = .ofTagged (definition.extended.getD [])
  shape : column.shape = definition.shape

/-- Read so many definitions, and note where the cursor stands behind each of them. -/
def readMany (options : MetadataOptions) : Nat → Read (List (Column × Nat))
  | 0 => return []
  | count + 1 => do
      let column ← read options
      let position ← Read.position
      return (column, position) :: (← readMany options count)

/--
Columns are read back from definitions that stand from a position on: each column
presents its definition, and the cursor stands at the end of that definition.
-/
inductive ReadBack : Nat → List Definition → List (Column × Nat) → Prop where
  | nil {start : Nat} :
      ReadBack start [] []
  | cons
      {start finish : Nat}
      {definition : Definition}
      {column : Column}
      {definitions : List Definition}
      {columns : List (Column × Nat)}
      (presents : column.Presents definition)
      (atEnd : finish = start + definition.write.length)
      (others : ReadBack finish definitions columns) :
      ReadBack start (definition :: definitions) ((column, finish) :: columns)

end Column

namespace ColumnNames

/-- The spans of the names hold the names of a definition. -/
structure Mark
    (names : ColumnNames)
    (packet : Octets)
    (definition : Definition) :
    Prop where
  schema : names.schema.within packet = definition.schema
  tableAlias : names.tableAlias.within packet = definition.tableAlias
  tableName : names.tableName.within packet = definition.tableName
  columnAlias : names.columnAlias.within packet = definition.columnAlias
  columnName : names.columnName.within packet = definition.columnName

end ColumnNames

namespace Column

open Read

variable {packet : Octets}

/-! ## The fixed part -/

theorem accepts_readFixedPartLength :
    Accepts packet (Message.lengthEncoded fixedPartLength) readFixedPartLength
      (fun _ => True) := by
  have small : fixedPartLength < 2 ^ 64 := by decide
  apply (accepts_lengthEncoded small).andThen
  rintro _ rfl
  exact .pure trivial

theorem accepts_readType (type : ServerType) :
    Accepts packet [type.code] readType (· = type) := by
  apply (accepts_octet type.code).andThen
  rintro _ rfl
  simp only [UInt8.ofNat_toNat, ServerType.ofCode?_code]
  exact .pure rfl

/-- The two octets behind the fixed part are passed over when they are there. -/
theorem accepts_skipFiller :
    Accepts packet (Message.zeros 2) skipFiller (fun _ => True) := by
  intro start samePacket next
  have filler : 2 ≤ start.remaining := Cursor.length_le_remaining next
  rw [skipFiller, run_bind_of_ok (run_hasRemaining 2 start), decide_eq_true filler, if_pos rfl]
  exact accepts_skip (Message.zeros 2) start samePacket next

theorem accepts_readShape (shape : Shape) :
    Accepts packet (Definition.writeShape shape) readShape (· = shape) := by
  simp only [Definition.writeShape, List.append_assoc]
  apply accepts_readFixedPartLength.bind
  intro _ _
  apply (accepts_unsigned shape.collation.toNat_lt).bind
  rintro _ rfl
  apply (accepts_unsigned shape.length.toNat_lt).bind
  rintro _ rfl
  apply (accepts_readType shape.type).bind
  rintro _ rfl
  apply (accepts_unsigned shape.flags.toNat_lt).bind
  rintro _ rfl
  apply (accepts_octet shape.decimals).bind
  rintro _ rfl
  apply accepts_skipFiller.andThen
  intro _ _
  apply Accepts.pure
  simp only [UInt16.ofNat_toNat, UInt32.ofNat_toNat, UInt8.ofNat_toNat]

/-! ## The names -/

/-- Names of which all lie in an address space of 64 bits are marked where they stand. -/
theorem accepts_readNames
    {definition : Definition}
    (addressable : definition.writeNames.length < 2 ^ 64) :
    Accepts packet definition.writeNames readNames (·.Mark packet definition) := by
  simp only [Definition.writeNames, Message.lengthEncodedOctets, List.length_append]
    at addressable
  simp only [Definition.writeNames, List.append_assoc]
  apply (accepts_skipLengthEncoded (by omega)).bind
  intro _ _
  apply (accepts_lengthEncodedSpan (by omega)).bind
  intro schema schemaMarked
  apply (accepts_lengthEncodedSpan (by omega)).bind
  intro tableAlias tableAliasMarked
  apply (accepts_lengthEncodedSpan (by omega)).bind
  intro tableName tableNameMarked
  apply (accepts_lengthEncodedSpan (by omega)).bind
  intro columnAlias columnAliasMarked
  apply (accepts_lengthEncodedSpan (by omega)).andThen
  intro columnName columnNameMarked
  exact .pure
    { schema := schemaMarked
      tableAlias := tableAliasMarked
      tableName := tableNameMarked
      columnAlias := columnAliasMarked
      columnName := columnNameMarked }

/-! ## One definition -/

/-- Extended type information is there exactly when it was agreed on, and then it is read. -/
theorem accepts_readAgreedExtended
    {options : MetadataOptions}
    {extended : Option Tagged}
    (agreed : extended.isSome = options.extendedTypeInfo)
    (addressable : (Definition.writeExtended extended).length < 2 ^ 64) :
    Accepts packet (Definition.writeExtended extended) (readAgreedExtended options)
      (· = .ofTagged (extended.getD [])) := by
  rw [readAgreedExtended, ← agreed]
  cases extended with
  | none => exact .pure rfl
  | some pairs =>
      rw [Definition.writeExtended, Message.lengthEncodedOctets, List.length_append]
        at addressable
      exact accepts_readExtended (by omega)

theorem accepts_packet :
    Accepts packet [] Read.packet (· = packet) := by
  intro start samePacket _
  refine ⟨start.packet, ?_, samePacket⟩
  rw [List.length_nil, Cursor.advanced_zero]
  rfl

/-- One definition is read back, wherever it stands in a packet. -/
theorem accepts_read
    {options : MetadataOptions}
    {definition : Definition}
    (agreed : definition.extended.isSome = options.extendedTypeInfo)
    (addressable : definition.write.length < 2 ^ 64) :
    Accepts packet definition.write (read options) (·.Presents definition) := by
  rw [Definition.write, List.length_append, List.length_append] at addressable
  rw [Definition.write, List.append_assoc]
  apply accepts_packet.before
  rintro _ rfl
  apply (accepts_readNames (by omega)).bind
  intro names marked
  apply (accepts_readAgreedExtended agreed (by omega)).bind
  rintro _ rfl
  apply (accepts_readShape definition.shape).andThen
  rintro _ rfl
  exact .pure
    { schema := congrArg Text.decode marked.schema
      tableAlias := congrArg Text.decode marked.tableAlias
      tableName := congrArg Text.decode marked.tableName
      tableAliased := congrArg Text.decode marked.tableAlias
      columnAlias := congrArg Text.decode marked.columnAlias
      columnName := congrArg Text.decode marked.columnName
      extended := rfl
      shape := rfl }

/-! ## Many definitions -/

/-- Definitions one behind the other are read back, and the cursor ends behind the last one. -/
theorem exists_run_readMany
    {options : MetadataOptions}
    {definitions : List Definition}
    {start : Cursor}
    (agreed : ∀ definition ∈ definitions, definition.extended.isSome = options.extendedTypeInfo)
    (addressable : ∀ definition ∈ definitions, definition.write.length < 2 ^ 64)
    (next : definitions.flatMap Definition.write <+: start.rest) :
    ∃ columns,
      (readMany options definitions.length).run start =
          .ok columns (start.advanced (definitions.flatMap Definition.write).length) ∧
        ReadBack start.position definitions columns := by
  induction definitions generalizing start with
  | nil =>
      refine ⟨[], ?_, .nil⟩
      rw [List.flatMap_nil, List.length_nil, List.length_nil, Cursor.advanced_zero]
      rfl
  | cons definition definitions inductionHypothesis =>
      rw [List.flatMap_cons] at next ⊢
      obtain ⟨firstNext, othersNext⟩ := Accepts.next_of_append next
      obtain ⟨column, readsFirst, presents⟩ :=
        accepts_read (agreed definition List.mem_cons_self)
          (addressable definition List.mem_cons_self) start rfl firstNext
      obtain ⟨columns, readsOthers, others⟩ :=
        inductionHypothesis
          (fun other member => agreed other (List.mem_cons_of_mem definition member))
          (fun other member => addressable other (List.mem_cons_of_mem definition member))
          othersNext
      have stands :
          Read.position.run (start.advanced definition.write.length) =
            .ok (start.advanced definition.write.length).position
              (start.advanced definition.write.length) :=
        rfl
      refine ⟨(column, _) :: columns, ?_, .cons presents ?_ others⟩
      · rw [List.length_cons, readMany, run_bind_of_ok readsFirst, run_bind_of_ok stands,
          run_bind_of_ok readsOthers, EStateM.run_pure, Cursor.advanced_advanced,
          List.length_append]
      · exact Cursor.position_advanced (Cursor.length_le_remaining firstNext)

end Column

/--
Definitions are read back from anywhere in a packet.  All of them are read, the
cursor stands at the end of each of them in turn, and what follows is untouched.
-/
theorem definitions_are_read_back
    (options : MetadataOptions)
    (definitions : List Definition)
    (before after : Octets)
    (start : Cursor)
    (packet : start.packet = before ++ definitions.flatMap Definition.write ++ after)
    (behindBefore : start.position = before.length)
    (agreed : ∀ definition ∈ definitions, definition.extended.isSome = options.extendedTypeInfo)
    (addressable : ∀ definition ∈ definitions, definition.write.length < 2 ^ 64) :
    ∃ columns behind,
      (Column.readMany options definitions.length).run start = .ok columns behind ∧
        Column.ReadBack before.length definitions columns ∧
        behind.packet = start.packet ∧
        behind.rest = after := by
  have split : start.rest = definitions.flatMap Definition.write ++ after := by
    rw [Cursor.rest, packet, behindBefore, List.append_assoc, List.drop_left]
  obtain ⟨columns, reads, readBack⟩ :=
    Column.exists_run_readMany agreed addressable ⟨after, split.symm⟩
  rw [behindBefore] at readBack
  refine ⟨columns, _, reads, readBack, rfl, ?_⟩
  rw [Cursor.rest_advanced, split, List.drop_left]

/-- Two definitions between other octets, the second one with several tagged texts. -/
theorem two_definitions_are_read_back :
    let plain : Definition :=
      { Definition.generated "id" .bigInt 20 0 with extended := some [] }
    let tagged : Definition :=
      { Definition.generated "shape" .geometry 0 0 with
        extended := some [(0, [112]), (9, []), (0, [112, 116])] }
    let before : Octets := [0xFE, 0x00]
    let after : Octets := [0x05]
    let packet := before ++ [plain, tagged].flatMap Definition.write ++ after
    let start := (Cursor.ofPacket packet).advanced 2
    ∃ columns behind,
      (Column.readMany ⟨true⟩ [plain, tagged].length).run start = .ok columns behind ∧
        Column.ReadBack before.length [plain, tagged] columns ∧
        behind.packet = start.packet ∧
        behind.rest = after := by
  intro plain tagged before after packet start
  exact definitions_are_read_back ⟨true⟩ [plain, tagged] before after start rfl
    (by decide) (by decide) (by decide)

end ResultSet
