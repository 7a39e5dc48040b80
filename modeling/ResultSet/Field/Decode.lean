import ResultSet.Column.Definition
import ResultSet.Field.Number
import ResultSet.Field.Character
import ResultSet.Field.Temporal

namespace ResultSet

/-!
# Decoding values

The family of the column type chooses the rules by which a field is read.  All
of them look at the shape of the column only.
-/

/-- How a request asks for a field: the encoding of the row and the zone of its date-times. -/
structure Encoding where
  protocol : Protocol
  offset : Option ZoneOffset := none
  deriving Repr, DecidableEq

namespace Family

/-- Read a field by the rules of a family. -/
def reader
    (family : Family)
    (encoding : Encoding)
    (target : Target)
    (shape : Shape)
    (length : Nat) :
    FieldReader target.Result :=
  match family with
  | .integer =>
      match encoding.protocol with
      | .text => IntegerField.text target shape length
      | .binary => IntegerField.binary target shape length
  | .float =>
      match encoding.protocol with
      | .text => FloatField.text target shape length
      | .binary => FloatField.binary target shape length
  | .decimal => DecimalField.reader target shape length
  | .bit => BitField.reader target shape length
  | .blob => CharacterField.blob encoding.protocol target shape length
  | .string => CharacterField.string encoding.protocol target shape length
  | .date => TemporalField.date encoding.protocol target shape length
  | .time => TemporalField.time encoding.protocol target shape length
  | .timestamp =>
      TemporalField.timestamp encoding.protocol target shape encoding.offset length

end Family

namespace Shape

/-- Read a field of a column by the rules of the family of its type. -/
def reader
    (shape : Shape)
    (encoding : Encoding)
    (target : Target)
    (length : Nat) :
    FieldReader target.Result :=
  shape.type.family.reader encoding target shape length

end Shape

namespace Column

/-- Decode a field of an announced length into the results of a representation. -/
def decodeAs
    (column : Column)
    (encoding : Encoding)
    (target : Target)
    (length : Nat) :
    Read target.Result :=
  Read.framed length (column.shape.reader encoding target length).read

/-- Decode a field of an announced length into a value. -/
def decode
    (column : Column)
    (encoding : Encoding)
    (target : Target)
    (length : Nat) :
    Read Value :=
  target.toValue <$> column.decodeAs encoding target length

/-! ## One function for each representation -/

/-- Decode a truth value. -/
def decodeBoolean
    (column : Column)
    (protocol : Protocol)
    (length : Nat) :
    Read Bool :=
  column.decodeAs ⟨protocol, none⟩ .boolean length

/-- Decode a whole number of a width. -/
def decodeInteger
    (column : Column)
    (width : IntegerWidth)
    (protocol : Protocol)
    (length : Nat) :
    Read Int :=
  column.decodeAs ⟨protocol, none⟩ (.integer width) length

/-- Decode a single. -/
def decodeSingle
    (column : Column)
    (protocol : Protocol)
    (length : Nat) :
    Read Single :=
  column.decodeAs ⟨protocol, none⟩ .single length

/-- Decode a double. -/
def decodeDouble
    (column : Column)
    (protocol : Protocol)
    (length : Nat) :
    Read Double :=
  column.decodeAs ⟨protocol, none⟩ .double length

/-- Decode a text. -/
def decodeText
    (column : Column)
    (encoding : Encoding)
    (length : Nat) :
    Read String :=
  column.decodeAs encoding .text length

/-- Decode a decimal fraction. -/
def decodeDecimal
    (column : Column)
    (protocol : Protocol)
    (length : Nat) :
    Read Decimal :=
  column.decodeAs ⟨protocol, none⟩ .decimal length

/-- Decode raw octets. -/
def decodeBytes
    (column : Column)
    (protocol : Protocol)
    (length : Nat) :
    Read Octets :=
  column.decodeAs ⟨protocol, none⟩ .bytes length

/-- Decode the natural representation of the column. -/
def decodeNatural
    (column : Column)
    (encoding : Encoding)
    (length : Nat) :
    Read Value :=
  column.decodeAs encoding .natural length

end Column

end ResultSet
