import ResultSet.Field.Decode

namespace ResultSet

/-!
# Codecs of application types

A codec covers one application type end to end.  It knows the columns that it
reads, reads their values in both encodings, and writes a value back as a literal
or as a packed parameter of a statement.  Reading gives no value for the date of
all zeros.
-/

/-- A type of the application that a value can be asked for. -/
inductive ApplicationType where
  | date
  | dateTime
  | text
  deriving Repr, DecidableEq

/-- The values of an application type. -/
@[reducible]
def ApplicationType.Carrier : ApplicationType → Type
  | date => Date
  | dateTime => DateTime
  | text => String

/-- A codec of an application type. -/
structure Codec (type : ApplicationType) where
  /-- The name of the type in messages. -/
  label : String
  /-- The types of the columns that are read. -/
  readableTypes : List ServerType
  /-- The type that is announced for packed parameters. -/
  parameterType : ServerType
  /-- Read a field of a column. -/
  reader : Encoding → Shape → Nat → FieldReader (Option type.Carrier)
  /-- The literal of a value, quotes included. -/
  writeLiteral : Option ZoneOffset → type.Carrier → Except Fault Octets
  /-- The packed parameter of a value, its length in front. -/
  writeParameter : Option ZoneOffset → type.Carrier → Except Fault Octets

namespace Codec

/-- Whether a column can be read as an application type. -/
def canDecode
    {type : ApplicationType}
    (codec : Codec type)
    (column : Column)
    (requested : ApplicationType) :
    Bool :=
  requested == type && codec.readableTypes.contains column.shape.type

/-- Whether values of an application type can be written. -/
def canEncode
    {type : ApplicationType}
    (_ : Codec type)
    (given : ApplicationType) :
    Bool :=
  given == type

/-- Read a field without regard to its announced length. -/
def read
    {type : ApplicationType}
    (codec : Codec type)
    (column : Column)
    (encoding : Encoding)
    (length : Nat) :
    Read (Option type.Carrier) :=
  (codec.reader encoding column.shape length).read

/-- Decode a field of an announced length. -/
def decode
    {type : ApplicationType}
    (codec : Codec type)
    (column : Column)
    (encoding : Encoding)
    (length : Nat) :
    Read (Option type.Carrier) :=
  Read.framed length (codec.read column encoding length)

/-- Decode a packed parameter, which has its length in one octet in front. -/
def decodeParameter
    {type : ApplicationType}
    (codec : Codec type)
    (column : Column)
    (encoding : Encoding) :
    Read (Option type.Carrier) := do
  codec.decode column encoding (← Read.unsigned 1)

/-- The octets of a value in one of the two encodings. -/
def write
    {type : ApplicationType}
    (codec : Codec type)
    (encoding : Encoding)
    (value : type.Carrier) :
    Except Fault Octets :=
  match encoding.protocol with
  | .text => codec.writeLiteral encoding.offset value
  | .binary => codec.writeParameter encoding.offset value

end Codec

end ResultSet
