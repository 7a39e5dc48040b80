namespace ResultSet

/-!
# Types of columns

A column definition carries a one-octet type code.  The type decides the family
of rules by which the values of the column are read.
-/

/-- The type of a column. -/
inductive ServerType where
  | oldDecimal
  | tinyInt
  | smallInt
  | integer
  | float
  | double
  | null
  | timestamp
  | bigInt
  | mediumInt
  | date
  | time
  | dateTime
  | year
  | newDate
  | varChar
  | bit
  | json
  | decimal
  | enumeration
  | set
  | tinyBlob
  | mediumBlob
  | longBlob
  | blob
  | varString
  | string
  | geometry
  deriving Repr, DecidableEq, Hashable

/-- Types whose values are read by the same rules. -/
inductive Family where
  | integer
  | float
  | decimal
  | bit
  | blob
  | string
  | date
  | time
  | timestamp
  deriving Repr, DecidableEq

namespace ServerType

/-- The code of a type on the wire. -/
def code : ServerType → UInt8
  | oldDecimal => 0
  | tinyInt => 1
  | smallInt => 2
  | integer => 3
  | float => 4
  | double => 5
  | null => 6
  | timestamp => 7
  | bigInt => 8
  | mediumInt => 9
  | date => 10
  | time => 11
  | dateTime => 12
  | year => 13
  | newDate => 14
  | varChar => 15
  | bit => 16
  | json => 245
  | decimal => 246
  | enumeration => 247
  | set => 248
  | tinyBlob => 249
  | mediumBlob => 250
  | longBlob => 251
  | blob => 252
  | varString => 253
  | string => 254
  | geometry => 255

/-- All types, in the order of their codes. -/
def all : List ServerType :=
  [oldDecimal, tinyInt, smallInt, integer, float, double, null, timestamp, bigInt,
    mediumInt, date, time, dateTime, year, newDate, varChar, bit, json, decimal,
    enumeration, set, tinyBlob, mediumBlob, longBlob, blob, varString, string, geometry]

/-- The type with a code, if there is one. -/
def ofCode? (code : UInt8) : Option ServerType :=
  all.find? fun type => type.code == code

/-- Every type is listed. -/
theorem mem_all (type : ServerType) : type ∈ all := by
  cases type <;> decide

/-- Reading the code of a type gives the type back. -/
@[simp]
theorem ofCode?_code (type : ServerType) : ofCode? type.code = some type := by
  cases type <;> decide

/-- The SQL name of a type. -/
def name : ServerType → String
  | oldDecimal => "OLDDECIMAL"
  | tinyInt => "TINYINT"
  | smallInt => "SMALLINT"
  | integer => "INTEGER"
  | float => "FLOAT"
  | double => "DOUBLE"
  | null => "NULL"
  | timestamp => "TIMESTAMP"
  | bigInt => "BIGINT"
  | mediumInt => "MEDIUMINT"
  | date => "DATE"
  | time => "TIME"
  | dateTime => "DATETIME"
  | year => "YEAR"
  | newDate => "NEWDATE"
  | varChar => "VARCHAR"
  | bit => "BIT"
  | json => "JSON"
  | decimal => "DECIMAL"
  | enumeration => "ENUM"
  | set => "SET"
  | tinyBlob => "TINYBLOB"
  | mediumBlob => "MEDIUMBLOB"
  | longBlob => "LONGBLOB"
  | blob => "BLOB"
  | varString => "VARSTRING"
  | string => "STRING"
  | geometry => "GEOMETRY"

/-- The family of a type. -/
def family : ServerType → Family
  | tinyInt | smallInt | mediumInt | integer | bigInt | year => .integer
  | float | double => .float
  | oldDecimal | decimal => .decimal
  | bit => .bit
  | tinyBlob | mediumBlob | longBlob | blob | geometry => .blob
  | varChar | varString | string | json | enumeration | set | null => .string
  | date | newDate => .date
  | time => .time
  | timestamp | dateTime => .timestamp

/-- Whether the type is one of the four sizes of large objects. -/
def isBlob : ServerType → Bool
  | tinyBlob | mediumBlob | longBlob | blob => true
  | _ => false

/-- Whether values of the type are characters unless the column is binary. -/
def isCharacterLike : ServerType → Bool
  | varChar | json | enumeration | set | varString | string => true
  | type => type.isBlob

/--
The octets of a binary number of the type.  A medium integer takes four, of which
three count.
-/
def binaryWidth? : ServerType → Option Nat
  | tinyInt => some 1
  | smallInt | year => some 2
  | mediumInt | integer => some 4
  | bigInt => some 8
  | float => some 4
  | double => some 8
  | _ => none

end ServerType

end ResultSet
