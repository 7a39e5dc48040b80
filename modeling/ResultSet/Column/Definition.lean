import ResultSet.Column.Shape
import ResultSet.Packet.Message
import ResultSet.Packet.Read

namespace ResultSet

/-!
# Column definitions

The server describes each column of a result by one definition: six names,
optional extended type information, and a fixed part with the shape.  A
`Definition` holds the parts of a definition as octets and writes them; a
`Column` is what a reader makes of one.

Reading a definition marks the names and does not decode them.  A column keeps
the whole packet and the spans of its names, and decodes a name when it is asked
for it.
-/

/-- A capability bitmap says whether extended type information is sent. -/
def extendedTypeInfoBit : Nat := 35

/-- What client and server agreed on before the definitions were sent. -/
structure MetadataOptions where
  /-- Whether definitions carry extended type information. -/
  extendedTypeInfo : Bool := false
  deriving Repr, DecidableEq

/-- The options of a connection with a capability bitmap. -/
def MetadataOptions.ofCapabilities (capabilities : Nat) : MetadataOptions :=
  ⟨capabilities.testBit extendedTypeInfoBit⟩

/-- The length of the fixed part, which is announced in front of it. -/
def fixedPartLength : Nat := 12

/-- The tag of the name of a type in extended type information. -/
def typeNameTag : Nat := 0

/-- The tag of the format of a type in extended type information. -/
def typeFormatTag : Nat := 1

/-- Extended type information: a name and a format of a type, as far as they are sent. -/
structure ExtendedType where
  name : Option String := none
  format : Option String := none
  deriving Repr, DecidableEq

/-- Where the names of a column stand in its packet. -/
structure ColumnNames where
  schema : Span
  tableAlias : Span
  tableName : Span
  columnAlias : Span
  columnName : Span
  deriving Repr, DecidableEq

/-- One column of a result. -/
structure Column where
  /-- The packet that holds the definition, whatever else it holds. -/
  packet : Octets
  names : ColumnNames
  extended : ExtendedType
  shape : Shape
  deriving Repr

/-- Columns of one shape count as equal, whatever their names are. -/
instance : BEq Column := ⟨fun first second => first.shape == second.shape⟩

/-- One part of the data that a hash function takes in: a number, or a choice among several. -/
inductive HashPart where
  | octet (number : UInt8)
  | short (number : UInt16)
  | word (number : UInt32)
  /-- The place of a constructor among those of its type. -/
  | choice (place : Nat)
  deriving Repr, DecidableEq, Hashable

/-- What a column gives to a hash function, part by part: its shape. -/
def Column.hashParts (column : Column) : List HashPart :=
  [ .short column.shape.collation,
    .word column.shape.length,
    .choice (ServerType.all.idxOf column.shape.type),
    .octet column.shape.decimals,
    .short column.shape.flags]

/-- Equal columns meet in one place of a table, since only the shape is hashed. -/
instance : Hashable Column := ⟨fun column => hash column.hashParts⟩

/-- Which of the two names of its table a column is asked for. -/
inductive NameMode where
  /-- The name of the table itself. -/
  | table
  /-- The name that the query gives to the table. -/
  | aliased
  deriving Repr, DecidableEq

/-- Without further wish a column gives the name of the table itself. -/
instance : Inhabited NameMode := ⟨.table⟩

namespace Column

/-- The text of a span of the packet. -/
def text
    (column : Column)
    (span : Span) :
    String :=
  Text.decode (span.within column.packet)

/-- The name of the schema. -/
def schema (column : Column) : String :=
  column.text column.names.schema

/-- The name that the query gives to the table. -/
def tableAlias (column : Column) : String :=
  column.text column.names.tableAlias

/-- The name of the table in one of two modes. -/
def table
    (column : Column) :
    NameMode → String
  | .table => column.text column.names.tableName
  | .aliased => column.text column.names.tableAlias

/-- The name that the query gives to the column. -/
def columnAlias (column : Column) : String :=
  column.text column.names.columnAlias

/-- The name of the column in its table, which expressions do not have. -/
def columnName (column : Column) : String :=
  column.text column.names.columnName

end Column

/-! ## Writing -/

/-- The parts of a column definition as they are sent. -/
structure Definition where
  catalog : Octets
  schema : Octets
  tableAlias : Octets
  tableName : Octets
  columnAlias : Octets
  columnName : Octets
  /-- Tagged octets of the extended type information, when it is sent at all. -/
  extended : Option (List (UInt8 × Octets))
  shape : Shape
  deriving Repr, DecidableEq

namespace Definition

/-- Tagged octets one behind the other. -/
def writeTagged (pairs : List (UInt8 × Octets)) : Octets :=
  pairs.flatMap fun (tag, value) => tag :: Message.lengthEncodedOctets value

/-- The fixed part of a definition with the two octets behind it that carry nothing. -/
def writeShape (shape : Shape) : Octets :=
  Message.lengthEncoded fixedPartLength ++
    Message.unsigned 2 shape.collation.toNat ++
    Message.unsigned 4 shape.length.toNat ++
    [shape.type.code] ++
    Message.unsigned 2 shape.flags.toNat ++
    [shape.decimals] ++
    Message.zeros 2

/-- The names of a definition, the catalog first. -/
def writeNames (definition : Definition) : Octets :=
  Message.lengthEncodedOctets definition.catalog ++
    Message.lengthEncodedOctets definition.schema ++
    Message.lengthEncodedOctets definition.tableAlias ++
    Message.lengthEncodedOctets definition.tableName ++
    Message.lengthEncodedOctets definition.columnAlias ++
    Message.lengthEncodedOctets definition.columnName

/-- The extended type information of a definition that has some. -/
def writeExtended : Option (List (UInt8 × Octets)) → Octets
  | some pairs => Message.lengthEncodedOctets (writeTagged pairs)
  | none => []

/-- The octets of a definition. -/
def write (definition : Definition) : Octets :=
  definition.writeNames ++
    writeExtended definition.extended ++
    writeShape definition.shape

/-- The catalog that every definition names. -/
def defaultCatalog : Octets := Text.encode "def"

/-- The definition of a column that the client makes up: one name, all else empty. -/
def generated
    (name : String)
    (type : ServerType)
    (length : UInt32)
    (flags : UInt16) :
    Definition where
  catalog := defaultCatalog
  schema := []
  tableAlias := []
  tableName := []
  columnAlias := Text.encode name
  columnName := Text.encode name
  extended := none
  shape := ⟨Collation.utf8General, length, type, flags, 0⟩

end Definition

/-- Write a name behind what is written already, and give the span that it takes. -/
def ColumnNames.append
    (written name : Octets) :
    Octets × Span :=
  let announced := written ++ Message.lengthEncoded name.length
  (announced ++ name, ⟨announced.length, announced.length + name.length⟩)

/-- A column that the client makes up, over a packet laid out as the server does. -/
def Column.generated
    (name : String)
    (type : ServerType)
    (length : UInt32)
    (flags : UInt16) :
    Column :=
  let octets := Text.encode name
  let catalog := Message.lengthEncodedOctets Definition.defaultCatalog
  let (behindSchema, schema) := ColumnNames.append catalog []
  let (behindTableAlias, tableAlias) := ColumnNames.append behindSchema []
  let (behindTableName, tableName) := ColumnNames.append behindTableAlias []
  let (behindColumnAlias, columnAlias) := ColumnNames.append behindTableName octets
  let (behindNames, columnName) := ColumnNames.append behindColumnAlias octets
  let shape := ⟨Collation.utf8General, length, type, flags, 0⟩
  { packet := behindNames ++ Definition.writeShape shape
    names := ⟨schema, tableAlias, tableName, columnAlias, columnName⟩
    extended := {}
    shape := shape }

/-! ## Reading -/

namespace Column

/-- Take one tagged text into the extended type information; a later one replaces an earlier one. -/
def readTagged (extended : ExtendedType) : Read ExtendedType := do
  let tag ← Read.unsigned 1
  if tag = typeNameTag then
    return { extended with name := some (← Read.lengthEncodedText) }
  else if tag = typeFormatTag then
    return { extended with format := some (← Read.lengthEncodedText) }
  else
    let _ ← Read.skipLengthEncoded
    return extended

/-- Take tagged texts until no octet is left; each of them takes at least one of `bound` octets. -/
def readAllTagged : Nat → ExtendedType → Read ExtendedType
  | 0, extended => return extended
  | bound + 1, extended => do
      if ← Read.hasRemaining 1 then
        readAllTagged bound (← readTagged extended)
      else
        return extended

/-- The extended type information, which is a packet of its own inside the definition. -/
def readExtended : Read ExtendedType := do
  let inner ← Read.lengthEncodedPacket
  match (readAllTagged inner.packet.length {}).run inner with
  | .ok extended _ => return extended
  | .error fault _ => throw fault

/-- The extended type information of a definition, if it was agreed on to send some. -/
def readAgreedExtended (options : MetadataOptions) : Read ExtendedType :=
  if options.extendedTypeInfo then
    readExtended
  else
    return {}

/-- A type by its code. -/
def readType : Read ServerType := do
  let code := UInt8.ofNat (← Read.unsigned 1)
  match ServerType.ofCode? code with
  | some type => return type
  | none => throw (.unsupportedType code)

/-- The length announced in front of the fixed part, which cannot be another one. -/
def readFixedPartLength : Read Unit := do
  let length ← Read.lengthEncoded
  if length ≠ fixedPartLength then
    throw (.protocol (.fixedPartLength length))

/-- Pass over the two octets behind the fixed part, unless they are missing. -/
def skipFiller : Read Unit := do
  if ← Read.hasRemaining 2 then
    Read.skip 2

/-- The fixed part; the two octets behind it may be missing. -/
def readShape : Read Shape := do
  readFixedPartLength
  let collation ← Read.unsigned 2
  let columnLength ← Read.unsigned 4
  let type ← readType
  let flags ← Read.unsigned 2
  let decimals ← Read.unsigned 1
  skipFiller
  return ⟨UInt16.ofNat collation, UInt32.ofNat columnLength, type, UInt16.ofNat flags,
    UInt8.ofNat decimals⟩

/-- Mark the names; the catalog, which is always the same, is passed over. -/
def readNames : Read ColumnNames := do
  let _ ← Read.skipLengthEncoded
  let schema ← Read.lengthEncodedSpan
  let tableAlias ← Read.lengthEncodedSpan
  let tableName ← Read.lengthEncodedSpan
  let columnAlias ← Read.lengthEncodedSpan
  let columnName ← Read.lengthEncodedSpan
  return ⟨schema, tableAlias, tableName, columnAlias, columnName⟩

/-- Read one column definition; the cursor stands at its catalog. -/
def read (options : MetadataOptions) : Read Column := do
  let packet ← Read.packet
  let names ← readNames
  let extended ← readAgreedExtended options
  let shape ← readShape
  return ⟨packet, names, extended, shape⟩

end Column

end ResultSet
