import ResultSet.Column.Definition
import ResultSet.Proofs.Packet.Announcement

namespace ResultSet

/-!
# The spans of a column

A column keeps spans of its packet, and decodes a name only when it is asked for it.  By
then nothing checks the spans any more.  They need no check: a definition that was read
has its names in the packet, one announced behind the other from where the reading
began, and reading the rest of it went on from there.
-/

/-- Strings of a packet that are announced one behind the other from a position on. -/
def AnnouncedInTurn (packet : Octets) : Nat → List Span → Prop
  | _, [] => True
  | position, content :: contents =>
      content.AnnouncedAt packet position ∧ AnnouncedInTurn packet content.stop contents

namespace ColumnNames

/-- The spans of the names, in the order in which the names are sent. -/
def spans (names : ColumnNames) : List Span :=
  [names.schema, names.tableAlias, names.tableName, names.columnAlias, names.columnName]

end ColumnNames

namespace Column

open Read

variable {start finish : Cursor}

/-! ## Going forward -/

theorem forward_readExtended : readExtended.Forward := by
  refine Forward.lengthEncodedPacket.bind fun inner => ?_
  -- The tagged texts move the cursor of the inner packet only.
  split
  · exact .pure _
  · exact .throw _

theorem forward_readAgreedExtended (options : MetadataOptions) :
    (readAgreedExtended options).Forward := by
  rw [readAgreedExtended]
  split
  · exact forward_readExtended
  · exact .pure _

theorem forward_readFixedPartLength : readFixedPartLength.Forward := by
  refine Forward.lengthEncoded.bind fun length => ?_
  split
  · exact .throw _
  · exact .pure _

theorem forward_readType : readType.Forward := by
  refine (Forward.unsigned 1).bind fun code => ?_
  dsimp only
  split
  · exact .pure _
  · exact .throw _

theorem forward_skipFiller : skipFiller.Forward := by
  refine (Forward.hasRemaining 2).bind fun fits => ?_
  split
  · exact .skip 2
  · exact .pure _

theorem forward_readShape : readShape.Forward :=
  forward_readFixedPartLength.bind fun _ =>
    (Forward.unsigned 2).bind fun _ =>
      (Forward.unsigned 4).bind fun _ =>
        forward_readType.bind fun _ =>
          (Forward.unsigned 2).bind fun _ =>
            (Forward.unsigned 1).bind fun _ => forward_skipFiller.bind fun _ => .pure _

theorem forward_readNames : readNames.Forward :=
  Forward.skipLengthEncoded.bind fun _ =>
    Forward.lengthEncodedSpan.bind fun _ =>
      Forward.lengthEncodedSpan.bind fun _ =>
        Forward.lengthEncodedSpan.bind fun _ =>
          Forward.lengthEncodedSpan.bind fun _ =>
            Forward.lengthEncodedSpan.bind fun _ => .pure _

theorem forward_read (options : MetadataOptions) : (read options).Forward :=
  Forward.packet.bind fun _ =>
    forward_readNames.bind fun _ =>
      (forward_readAgreedExtended options).bind fun _ =>
        forward_readShape.bind fun _ => .pure _

/-! ## The names -/

/-- A marked span comes before those that are announced behind it. -/
theorem announcedInTurn_cons
    {between : Cursor}
    {span : Span}
    {spans : List Span}
    (marks : lengthEncodedSpan.run start = .ok span between)
    (inTurn : AnnouncedInTurn between.packet between.position spans) :
    AnnouncedInTurn start.packet start.position (span :: spans) := by
  obtain ⟨announced, stop⟩ := announced_of_run_lengthEncodedSpan marks
  rw [Forward.lengthEncodedSpan.packet_of_ok marks, stop] at inTurn
  exact ⟨announced, inTurn⟩

/-- The names are announced in turn behind the catalog, and nothing is taken behind them. -/
theorem announced_of_run_readNames
    {names : ColumnNames}
    (succeeds : readNames.run start = .ok names finish) :
    ∃ catalog : Span,
      AnnouncedInTurn start.packet start.position (catalog :: names.spans) ∧
        finish.position = names.columnName.stop := by
  obtain ⟨_, behindCatalog, passes, succeeds⟩ := run_bind_eq_ok succeeds
  obtain ⟨schema, behindSchema, marksSchema, succeeds⟩ := run_bind_eq_ok succeeds
  obtain ⟨tableAlias, behindTableAlias, marksTableAlias, succeeds⟩ := run_bind_eq_ok succeeds
  obtain ⟨tableName, behindTableName, marksTableName, succeeds⟩ := run_bind_eq_ok succeeds
  obtain ⟨columnAlias, behindColumnAlias, marksColumnAlias, succeeds⟩ := run_bind_eq_ok succeeds
  obtain ⟨columnName, behindColumnName, marksColumnName, stops⟩ := run_bind_eq_ok succeeds
  cases stops
  have inTurn :
      AnnouncedInTurn behindCatalog.packet behindCatalog.position
        [schema, tableAlias, tableName, columnAlias, columnName] :=
    announcedInTurn_cons marksSchema <|
      announcedInTurn_cons marksTableAlias <|
        announcedInTurn_cons marksTableName <|
          announcedInTurn_cons marksColumnAlias <| announcedInTurn_cons marksColumnName trivial
  obtain ⟨samePacket, catalog, announced, stop, _⟩ := run_skipLengthEncoded_eq_ok_iff.mp passes
  obtain ⟨_, lastStop⟩ := announced_of_run_lengthEncodedSpan marksColumnName
  rw [samePacket, stop] at inTurn
  exact ⟨catalog, ⟨announced, inTurn⟩, lastStop⟩

/-! ## The whole definition -/

/-- Octets are tagged texts, which say what is known of a type. -/
def Tells (octets : Octets) (extended : ExtendedType) : Prop :=
  ∃ behind, (readAllTagged octets.length {}).run (Cursor.ofPacket octets) = .ok extended behind

/-- Extended type information comes from an announced string, and from nothing outside of it. -/
theorem tookAnnounced_of_run_readExtended
    {extended : ExtendedType}
    (succeeds : readExtended.run start = .ok extended finish) :
    start.TookAnnounced finish (Tells · extended) := by
  obtain ⟨inner, between, opens, tells⟩ := run_bind_eq_ok succeeds
  obtain ⟨_, content, announced, stop, rfl⟩ :=
    (TakesAnnounced.lengthEncodedPacket start inner between).mp opens
  split at tells
  · rename_i told behind reads
    cases tells
    exact ⟨content, announced, stop, behind, reads⟩
  · cases tells

/-- Where the parts of a column stand that was read from one cursor up to another. -/
structure StandsBetween
    (column : Column)
    (options : MetadataOptions)
    (start finish : Cursor) :
    Prop where
  packet : column.packet = start.packet
  /-- The names are announced in turn behind the catalog. -/
  names :
    ∃ catalog : Span,
      AnnouncedInTurn start.packet start.position (catalog :: column.names.spans)
  /-- Extended type information is announced behind the names, if it was agreed on. -/
  extended :
    options.extendedTypeInfo = true →
      ∃ content : Span,
        content.AnnouncedAt start.packet column.names.columnName.stop ∧
          content.stop ≤ finish.position ∧
          Tells (content.within start.packet) column.extended
  namesBefore : column.names.columnName.stop ≤ finish.position

theorem standsBetween_of_run_read
    {options : MetadataOptions}
    {column : Column}
    (succeeds : (read options).run start = .ok column finish) :
    column.StandsBetween options start finish := by
  obtain ⟨_, _, ⟨⟩, succeeds⟩ := run_bind_eq_ok succeeds
  obtain ⟨names, behindNames, marks, succeeds⟩ := run_bind_eq_ok succeeds
  obtain ⟨extended, behindExtended, tells, succeeds⟩ := run_bind_eq_ok succeeds
  obtain ⟨shape, behindShape, readsShape, stops⟩ := run_bind_eq_ok succeeds
  cases stops
  obtain ⟨catalog, inTurn, stop⟩ := announced_of_run_readNames marks
  have shapeBehind : behindExtended.position ≤ finish.position :=
    forward_readShape.position_le_of_ok readsShape
  have extendedBehind : behindNames.position ≤ behindExtended.position :=
    (forward_readAgreedExtended options).position_le_of_ok tells
  refine ⟨rfl, ⟨catalog, inTurn⟩, fun agreed => ?_, ?_⟩
  · rw [readAgreedExtended, if_pos agreed] at tells
    obtain ⟨content, announced, contentStop, told⟩ := tookAnnounced_of_run_readExtended tells
    rw [forward_readNames.packet_of_ok marks] at announced told
    rw [stop] at announced
    exact ⟨content, announced, contentStop ▸ shapeBehind, told⟩
  · exact stop ▸ Nat.le_trans extendedBehind shapeBehind

end Column

end ResultSet
