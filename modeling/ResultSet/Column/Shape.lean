import ResultSet.Column.ServerType

namespace ResultSet

/-!
# Shapes of columns

The shape of a column is all that decides how its values are read.  Names do not
belong to it: two columns of one shape are interchangeable.  A shape names its
collation by number; the collation tells binary data from characters and bounds
the octets of one character.
-/

/-! ## Collations -/

/-- A collation by its number. -/
abbrev Collation := UInt16

namespace Collation

/-- The collation of data that are not characters. -/
def binary : Collation := 63

/-- The collation of columns that the client makes up. -/
def utf8General : Collation := 33

/-- Runs of collations, from the first to the last, with the octets that a character may take. -/
def widthTable : List (Nat × Nat × Nat) :=
  [ -- single-octet sets
    (5, 5, 1), (8, 8, 1), (11, 11, 1), (15, 15, 1), (31, 31, 1), (47, 49, 1), (63, 63, 1),
    (65, 65, 1), (94, 94, 1),
    -- double-octet sets
    (1, 1, 2), (13, 13, 2), (19, 19, 2), (24, 24, 2), (28, 28, 2), (84, 88, 2), (95, 96, 2),
    (35, 35, 2), (90, 90, 2), (128, 151, 2), (159, 159, 2),
    -- up to three octets
    (12, 12, 3), (91, 91, 3), (97, 98, 3), (33, 33, 3), (83, 83, 3), (192, 215, 3),
    (223, 223, 3),
    -- up to four octets
    (45, 46, 4), (224, 247, 4), (255, 255, 4), (54, 56, 4), (60, 62, 4), (101, 124, 4),
    (160, 183, 4), (248, 250, 4)]

/-- The most octets that one character takes, where it is known. -/
def characterWidth? (collation : Collation) : Option Nat :=
  (widthTable.find? fun (first, last, _) =>
    first ≤ collation.toNat && collation.toNat ≤ last).map fun (_, _, width) => width

end Collation

/-! ## Shapes -/

/-- A property of a column that takes one bit of its flags. -/
inductive ColumnFlag where
  | notNull
  | primaryKey
  | uniqueKey
  | multipleKey
  | blob
  | unsigned
  | zeroFill
  | binary
  | enumeration
  | autoIncrement
  | timestamp
  | set
  | noDefaultValue
  | onUpdateNow
  | num
  deriving Repr, DecidableEq

/-- The place of the bit of a flag. -/
def ColumnFlag.bit : ColumnFlag → Nat
  | notNull => 0
  | primaryKey => 1
  | uniqueKey => 2
  | multipleKey => 3
  | blob => 4
  | unsigned => 5
  | zeroFill => 6
  | binary => 7
  | enumeration => 8
  | autoIncrement => 9
  | timestamp => 10
  | set => 11
  | noDefaultValue => 12
  | onUpdateNow => 13
  | num => 15

/-- The shape of a column. -/
structure Shape where
  collation : Collation
  length : UInt32
  type : ServerType
  flags : UInt16
  decimals : UInt8
  deriving Repr, DecidableEq, Hashable

namespace Shape

/-- Whether a flag is set. -/
def hasFlag
    (shape : Shape)
    (flag : ColumnFlag) :
    Bool :=
  shape.flags.toNat.testBit flag.bit

/-- Whether the values are data and not characters. -/
def isBinary (shape : Shape) : Bool :=
  shape.collation == Collation.binary

/-- Whether the numbers of the column may be negative. -/
def isSigned (shape : Shape) : Bool :=
  !shape.hasFlag .unsigned

/-- Whether the column belongs to the primary key. -/
def isPrimaryKey (shape : Shape) : Bool :=
  shape.hasFlag .primaryKey

/-- Whether the server numbers the rows in the column. -/
def isAutoIncrement (shape : Shape) : Bool :=
  shape.hasFlag .autoIncrement

/-- Whether the column has a default value. -/
def hasDefault (shape : Shape) : Bool :=
  !shape.hasFlag .noDefaultValue

/--
The width of the column for display.  The length of a column of characters counts
octets, and is divided by the octets that one character may take.
-/
def displaySize (shape : Shape) : Nat :=
  if shape.isBinary = false ∧ shape.type.isCharacterLike = true then
    match shape.collation.characterWidth? with
    | some width => shape.length.toNat / width
    | none => shape.length.toNat
  else
    shape.length.toNat

end Shape

end ResultSet
